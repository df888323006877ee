import ImigrAI.Billing.Models
import ImigrAI.Foundations.Rows
import ImigrAI.Foundations.Sorting
import Mathlib.Data.String.Basic
import Mathlib.Order.OrderDual

/-!
# The billing repository

`BillingRepository`: queries read the tables and writes end with a flush. By the constraints
`scalar_one_or_none` has at most one row to find.
-/

namespace ImigrAI.Billing

open Python Rows Sorting Fallible

def getPlanByCode (tables : Tables) (code : String) : Option Plan :=
  tables.plans.find? fun plan => plan.code = code ∧ plan.isActive

def getPlanByStripePriceId (tables : Tables) (stripePriceId : String) : Option Plan :=
  tables.plans.find? fun plan => plan.stripePriceId = some stripePriceId ∧ plan.isActive

/-- `get_or_create_plan`, up to the flush that its commit starts with. The id of the plan given
is that of a new row; every other column of an existing row is overwritten. -/
def getOrCreatePlan (db : Database) (plan : Plan) : Except DatabaseError Database :=
  match getPlanByCode db.val plan.code with
  | some existing => flush { db.val with
      plans := replaceRow (·.id) { plan with id := existing.id } db.val.plans }
  | none => flush { db.val with plans := db.val.plans ++ [plan] }

/-- The statuses in which a subscription gives access to its plan. -/
def SubscriptionStatus.isLive : SubscriptionStatus → Bool
  | .active | .trialing | .pastDue => true
  | .canceled | .expired => false

def getSubscriptionByProviderId (subscriptions : List Subscription)
    (providerSubscriptionId : String) : Option Subscription :=
  subscriptions.find? fun subscription =>
    subscription.providerSubscriptionId = some providerSubscriptionId

/-- The order of `get_active_subscription_for_user`. -/
def rankKey (subscription : Subscription) : Instantᵒᵈ ×ₗ Instantᵒᵈ :=
  toLex (OrderDual.toDual subscription.currentPeriodEnd, OrderDual.toDual subscription.createdAt)

def liveSubscriptions (subscriptions : List Subscription) (userId : UUID) : List Subscription :=
  subscriptions.filter fun subscription =>
    subscription.userId = userId ∧ subscription.status.isLive

def getActiveSubscriptionForUser (subscriptions : List Subscription) (userId : UUID) :
    Option Subscription :=
  (sortBy rankKey (liveSubscriptions subscriptions userId)).head?

/-- The row that `upsert_subscription` makes of values with the id and the creation time of a
new row, and the rows with it. -/
def upserted (subscriptions : List Subscription) (providerSubscriptionId : String)
    (values : Subscription) : Subscription × List Subscription :=
  match getSubscriptionByProviderId subscriptions providerSubscriptionId with
  | some existing =>
      let row := { values with id := existing.id, createdAt := existing.createdAt }
      (row, replaceRow (·.id) row subscriptions)
  | none => (values, subscriptions ++ [values])

/-- `upsert_subscription`, with a provider id. -/
def upsertSubscription (db : Database) (providerSubscriptionId : String) (values : Subscription) :
    Except DatabaseError (Database × Subscription) := do
  let (row, rows) := upserted db.val.subscriptions providerSubscriptionId values
  let stored ← flush { db.val with subscriptions := rows }
  .ok (stored, row)

/-- The entitlement is enabled and valid at the instant. -/
def Entitlement.ActiveAt (instant : Instant) (entitlement : Entitlement) : Prop :=
  entitlement.isEnabled ∧ entitlement.validFrom ≤ instant ∧ EndsAfter instant entitlement.validTo

instance (instant : Instant) : DecidablePred (Entitlement.ActiveAt instant) :=
  fun _ => inferInstanceAs (Decidable (_ ∧ _ ∧ _))

def listActiveEntitlements (entitlements : List Entitlement) (userId : UUID) (instant : Instant) :
    List Entitlement :=
  sortBy (fun entitlement : Entitlement =>
      toLex (entitlement.featureKey, OrderDual.toDual entitlement.validFrom))
    (entitlements.filter fun entitlement =>
      entitlement.userId = userId ∧ entitlement.ActiveAt instant)

def deactivated (userId : UUID) (instant : Instant) (entitlements : List Entitlement) :
    List Entitlement :=
  entitlements.map fun entitlement =>
    if entitlement.userId = userId ∧ entitlement.ActiveAt instant then
      { entitlement with validTo := some instant }
    else entitlement

def deactivateActiveEntitlements (db : Database) (userId : UUID) (instant : Instant) :
    Except DatabaseError Database :=
  flush { db.val with entitlements := deactivated userId instant db.val.entitlements }

def createEntitlement (db : Database) (entitlement : Entitlement) : Except DatabaseError Database :=
  flush { db.val with entitlements := db.val.entitlements ++ [entitlement] }

def getBillingEvent (tables : Tables) (providerEventId : String) : Option BillingEvent :=
  tables.billingEvents.find? fun event => event.providerEventId = providerEventId

def createBillingEvent (db : Database) (event : BillingEvent) : Except DatabaseError Database :=
  flush { db.val with billingEvents := db.val.billingEvents ++ [event] }

/-- `mark_billing_event_processed` and `mark_billing_event_failed`. -/
def markBillingEvent (db : Database) (event : BillingEvent) (status : BillingEventStatus)
    (processedAt : Instant) (lastError : Option HandlerError) : Except DatabaseError Database :=
  let marked :=
    { event with status := status, processedAt := some processedAt, lastError := lastError }
  flush { db.val with billingEvents := replaceRow (·.id) marked db.val.billingEvents }

/-- What the other tables and the service know plans by. -/
def planCodes (tables : Tables) : List (UUID × String) :=
  tables.plans.map fun plan => (plan.id, plan.code)

/-- Plans have been overwritten or added, and nothing else has changed. -/
def ExtendsPlans (before after : Tables) : Prop :=
  (∃ plans, after = { before with plans := plans }) ∧ planCodes before <+: planCodes after

theorem ExtendsPlans.refl (tables : Tables) : ExtendsPlans tables tables :=
  ⟨⟨tables.plans, rfl⟩, List.prefix_rfl⟩

theorem ExtendsPlans.trans {first second third : Tables} (left : ExtendsPlans first second)
    (right : ExtendsPlans second third) : ExtendsPlans first third := by
  rcases left with ⟨⟨_, rfl⟩, firstCodes⟩
  rcases right with ⟨⟨plans, rfl⟩, secondCodes⟩
  exact ⟨⟨plans, rfl⟩, firstCodes.trans secondCodes⟩

theorem getPlanByCode_eq_some {tables : Tables} {code : String} {plan : Plan}
    (found : getPlanByCode tables code = some plan) :
    plan ∈ tables.plans ∧ plan.code = code ∧ plan.isActive := by
  have selected := List.find?_some found
  rw [decide_eq_true_eq] at selected
  exact ⟨List.mem_of_find?_eq_some found, selected⟩

theorem isSome_getPlanByCode {tables : Tables} {code : String} :
    (getPlanByCode tables code).isSome ↔ ∃ plan ∈ tables.plans, plan.code = code ∧ plan.isActive := by
  simp [getPlanByCode, List.find?_isSome]

/-- Storing a plan keeps the rows but for its columns, and the active plans active. -/
theorem getOrCreatePlan_eq_ok {db after : Database} {plan : Plan} (active : plan.isActive)
    (done : getOrCreatePlan db plan = .ok after) :
    ExtendsPlans db.val after.val ∧
      ∀ code, code = plan.code ∨ (getPlanByCode db.val code).isSome →
        (getPlanByCode after.val code).isSome := by
  unfold getOrCreatePlan at done
  split at done
  · next existing found =>
      rcases getPlanByCode_eq_some found with ⟨existingMem, existingCode, -⟩
      have same : ∀ old ∈ db.val.plans, old.id = existing.id → old = existing :=
        fun old oldMem sameId =>
          List.inj_on_of_nodup_map db.property.1.planIds oldMem existingMem sameId
      have stored := self_mem_replaceRow (·.id) { plan with id := existing.id } existingMem rfl
      rw [flush, ensure_eq_ok_iff] at done
      rw [done]
      have codes : (replaceRow (·.id) { plan with id := existing.id } db.val.plans).map
          (fun row => (row.id, row.code)) = planCodes db.val := by
        apply map_replaceRow
        intro old oldMem sameId
        rw [same old oldMem sameId, existingCode]
      refine ⟨⟨⟨_, rfl⟩, codes ▸ List.prefix_rfl⟩, ?_⟩
      rintro code (rfl | known)
      · exact isSome_getPlanByCode.mpr ⟨_, stored, rfl, active⟩
      · rcases isSome_getPlanByCode.mp known with ⟨old, oldMem, rfl, oldActive⟩
        by_cases sameId : old.id = existing.id
        · refine isSome_getPlanByCode.mpr ⟨_, stored, ?_, active⟩
          rw [same old oldMem sameId, existingCode]
        · exact isSome_getPlanByCode.mpr
            ⟨old, mem_replaceRow_of_ne oldMem sameId, rfl, oldActive⟩
  · rw [flush, ensure_eq_ok_iff] at done
    rw [done]
    refine ⟨⟨⟨_, rfl⟩, by simp [planCodes]⟩, ?_⟩
    rintro code (rfl | known)
    · exact isSome_getPlanByCode.mpr ⟨plan, by simp, rfl, active⟩
    · rcases isSome_getPlanByCode.mp known with ⟨old, oldMem, ofCode, oldActive⟩
      exact isSome_getPlanByCode.mpr ⟨old, by simp [oldMem], ofCode, oldActive⟩

theorem getSubscriptionByProviderId_eq_some {subscriptions : List Subscription}
    {providerSubscriptionId : String} {subscription : Subscription}
    (found : getSubscriptionByProviderId subscriptions providerSubscriptionId =
      some subscription) :
    subscription ∈ subscriptions ∧
      subscription.providerSubscriptionId = some providerSubscriptionId := by
  have selected := List.find?_some found
  rw [decide_eq_true_eq] at selected
  exact ⟨List.mem_of_find?_eq_some found, selected⟩

theorem upsertSubscription_eq_ok {db stored : Database} {providerSubscriptionId : String}
    {values row : Subscription}
    (done : upsertSubscription db providerSubscriptionId values = .ok (stored, row)) :
    row = (upserted db.val.subscriptions providerSubscriptionId values).1 ∧
      stored.val = { db.val with
        subscriptions := (upserted db.val.subscriptions providerSubscriptionId values).2 } := by
  rcases bind_eq_ok_iff.mp done with ⟨flushed, flushing, done⟩
  cases done
  exact ⟨rfl, ensure_eq_ok_iff.mp flushing⟩

/-- The rows after an upsert are the row and those with another provider id. -/
theorem mem_upserted_iff {db : Database} {providerSubscriptionId : String}
    {values subscription : Subscription} :
    subscription ∈ (upserted db.val.subscriptions providerSubscriptionId values).2 ↔
      subscription = (upserted db.val.subscriptions providerSubscriptionId values).1 ∨
        subscription ∈ db.val.subscriptions ∧
          subscription.providerSubscriptionId ≠ some providerSubscriptionId := by
  unfold upserted
  split
  · next existing found =>
      rcases getSubscriptionByProviderId_eq_some found with ⟨existingMem, existingProvider⟩
      refine (mem_replaceRow_iff ?_).trans ?_
      · exact ⟨existing, existingMem, rfl⟩
      refine or_congr Iff.rfl (and_congr_right fun mem => not_congr ?_)
      constructor
      · intro sameId
        rw [List.inj_on_of_nodup_map db.property.1.subscriptionIds mem existingMem sameId,
          existingProvider]
      · intro sameProvider
        rw [eq_of_nodup_filterMap db.property.1.providerIds mem existingMem sameProvider
          existingProvider]
  · next missing =>
      have others : ∀ row ∈ db.val.subscriptions,
          row.providerSubscriptionId ≠ some providerSubscriptionId := by
        simpa [getSubscriptionByProviderId, List.find?_eq_none] using missing
      rw [List.mem_append, List.mem_singleton, or_comm]
      exact or_congr Iff.rfl ⟨fun mem => ⟨mem, others _ mem⟩, And.left⟩

/-- After an upsert the row is found under its provider id. -/
theorem getSubscriptionByProviderId_upserted {db : Database} {providerSubscriptionId : String}
    {values : Subscription}
    (provider : values.providerSubscriptionId = some providerSubscriptionId) :
    getSubscriptionByProviderId (upserted db.val.subscriptions providerSubscriptionId values).2
        providerSubscriptionId =
      some (upserted db.val.subscriptions providerSubscriptionId values).1 := by
  have rowMem := mem_upserted_iff.mpr (Or.inl (Eq.refl
    (upserted db.val.subscriptions providerSubscriptionId values).1))
  have rowProvider : (upserted db.val.subscriptions providerSubscriptionId
      values).1.providerSubscriptionId = some providerSubscriptionId := by
    unfold upserted
    split
    · exact provider
    · exact provider
  cases found : getSubscriptionByProviderId
      (upserted db.val.subscriptions providerSubscriptionId values).2 providerSubscriptionId with
  | none =>
      have missing := List.find?_eq_none.mp found _ rowMem
      simp [rowProvider] at missing
  | some other =>
      rcases getSubscriptionByProviderId_eq_some found with ⟨otherMem, otherProvider⟩
      rcases mem_upserted_iff.mp otherMem with rfl | ⟨-, different⟩
      · rfl
      · exact absurd otherProvider different

theorem liveSubscriptions_upserted_of_ne {db : Database} {providerSubscriptionId : String}
    {values : Subscription} {userId : UUID}
    (owner : ∀ existing,
      getSubscriptionByProviderId db.val.subscriptions providerSubscriptionId = some existing →
        existing.userId = values.userId)
    (other : userId ≠ values.userId) :
    liveSubscriptions (upserted db.val.subscriptions providerSubscriptionId values).2 userId =
      liveSubscriptions db.val.subscriptions userId := by
  unfold upserted liveSubscriptions
  split
  · next existing found =>
      rcases getSubscriptionByProviderId_eq_some found with ⟨existingMem, -⟩
      apply filter_replaceRow
      · simp [Ne.symm other]
      · intro old oldMem sameId
        rw [List.inj_on_of_nodup_map db.property.1.subscriptionIds oldMem existingMem sameId,
          owner existing found]
        simp [Ne.symm other]
  · simp [List.filter_append, Ne.symm other]

end ImigrAI.Billing
