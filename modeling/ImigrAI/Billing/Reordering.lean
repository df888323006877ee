import ImigrAI.Billing.PlanInStep
import ImigrAI.Billing.Redeliveries
import Mathlib.Data.List.Permutation

/-!
# The order of delivery

Every event about a subscription overwrites its row and the entitlements of its user, so the
event delivered last decides, whenever it was created.
-/

namespace ImigrAI.Billing

open Python Runs Fallible

section Orders

variable [UnicodeData]

/-- A `customer.subscription.updated` or `customer.subscription.deleted` event with the
subscription as it was when the event was created. -/
structure SubscriptionEvent (subscriptionId : String) where
  entries : List (String × Value)
  created : ℤ
  subscription : Value
  ofType : eventText entries "type" = "customer.subscription.updated" ∨
    eventText entries "type" = "customer.subscription.deleted"
  ofTime : Value.lookup "created" entries = some (.int created)
  ofObject : ((Value.dict entries).get "data" (.dict []) >>= (·.get "object" (.dict []))) =
    .ok subscription
  ofId : (subscription.get "id" (.str "")).map Value.text = .ok subscriptionId

/-- The event is the most recently created of these. -/
def SubscriptionEvent.IsLatestOf {subscriptionId : String}
    (event : SubscriptionEvent subscriptionId) (events : List (SubscriptionEvent subscriptionId)) :
    Prop :=
  event ∈ events ∧ ∀ other ∈ events, other.created ≤ event.created

section Events

variable (settings : Settings) (tables : Tables) {subscriptionId : String}

/-- The status that an event carries. -/
def SubscriptionEvent.status (event : SubscriptionEvent subscriptionId) :
    Except PyError SubscriptionStatus :=
  (event.subscription.get "status" (.str "")).map fun rawStatus =>
    mapSubscriptionStatus rawStatus.text

/-- The features that an event gives. -/
def SubscriptionEvent.features (event : SubscriptionEvent subscriptionId) : List EntitlementSpec :=
  match event.status, resolvePlan settings tables event.subscription with
  | .ok status, .ok plan => settings.entitlementsForPlan (grantedCode settings status plan)
  | _, _ => []

/-- The event carries the status of the other one and gives the same features. -/
def SubscriptionEvent.SameAccess (event other : SubscriptionEvent subscriptionId) : Prop :=
  event.status = other.status ∧ (event.features settings tables).Perm (other.features settings tables)

/-- The stored status of the subscription and the active features of the user are those of the
event. -/
def Reflects (userId : UUID) (event : SubscriptionEvent subscriptionId) (moment : Moment) : Prop :=
  (∃ subscription ∈ getSubscriptionByProviderId moment.db.val.subscriptions subscriptionId,
      event.status = .ok subscription.status) ∧
    ∀ instant, moment.clock ≤ instant →
      (activeSpecs moment.db.val.entitlements userId instant).Perm (event.features settings tables)

/-- The delivery is processed, and the clock does not go back. -/
def ProcessedInTime (moment : Moment) (delivery : Delivery) : Prop :=
  (processStripeWebhook settings moment.db delivery).2 = .ok ⟨true, false⟩ ∧
    moment.clock ≤ delivery.times.appliedAt ∧
    delivery.times.appliedAt ≤ delivery.times.processedAt

/-- The deliveries bring the events in this order, and all are processed. -/
def Delivers (start : Moment) (order : List (SubscriptionEvent subscriptionId))
    (deliveries : List Delivery) : Prop :=
  deliveries.map Delivery.verification = order.map (fun event => .event event.entries) ∧
    Along (webhookStep settings) (ProcessedInTime settings) start deliveries

end Events

section Steps

variable {settings : Settings} {subscriptionId : String}

theorem SubscriptionEvent.subscriptionOfEvent_eq (event : SubscriptionEvent subscriptionId)
    (retrieveSubscription : String → Except String (List (String × Value))) :
    subscriptionOfEvent retrieveSubscription event.entries =
      .ok (some (event.subscription, none)) := by
  rcases bind_eq_ok_iff.mp event.ofObject with ⟨data, dataRead, objectRead⟩
  unfold subscriptionOfEvent
  rw [dataRead]
  change (python (data.get "object" (.dict [])) >>= _) = _
  rw [objectRead]
  rcases event.ofType with ofType | ofType
  · simp [ofType, python, Except.mapError, bind, Except.bind]
  · simp [ofType, python, Except.mapError, bind, Except.bind]

theorem resolvePlan_congr {tables other : Tables} (plans : other.plans = tables.plans)
    (subscriptionObject : Value) :
    resolvePlan settings other subscriptionObject = resolvePlan settings tables subscriptionObject := by
  simp only [resolvePlan, configuredProPlan, getPlanByCode, getPlanByStripePriceId, plans]

/-- What holds while the events are delivered: the plans stay, and the subscription is known as
one of the user. -/
structure Knows (settings : Settings) (tables : Tables) (subscriptionId : String) (userId : UUID)
    (moment : Moment) : Prop where
  defaults : DefaultsStored settings moment.db.val
  plans : moment.db.val.plans = tables.plans
  started : StartedBy moment.clock moment.db.val.entitlements
  known : ∃ subscription ∈ getSubscriptionByProviderId moment.db.val.subscriptions subscriptionId,
    subscription.userId = userId

/-- A processed event is what the store reflects. -/
theorem reflects_webhookStep {tables : Tables} {userId : UUID} {moment : Moment}
    {delivery : Delivery} (event : SubscriptionEvent subscriptionId)
    (knows : Knows settings tables subscriptionId userId moment)
    (verified : delivery.verification = .event event.entries)
    (processed : ProcessedInTime settings moment delivery) :
    Knows settings tables subscriptionId userId (webhookStep settings moment delivery) ∧
      Reflects settings tables userId event (webhookStep settings moment delivery) := by
  rcases processed with ⟨answered, clockLe, nowLe⟩
  rcases knows.known with ⟨known, found, ofUser⟩
  have inPlace : planned settings moment.db delivery.ids.toAccessIds = moment.db := by
    rw [planned, ensureDefaultPlans_of_stored knows.defaults]
  rcases processStripeWebhook_stores verified (event.subscriptionOfEvent_eq _) answered with
    ⟨change, asked, stores⟩
  rw [inPlace] at asked stores
  have fits := fits_of_askedChange asked
  rcases readSubscription_of_askedChange asked with ⟨subscriptionObject, userIdHint, about, read⟩
  cases (event.subscriptionOfEvent_eq _).symm.trans about
  rcases readSubscription_reads read with ⟨ofId, resolved, ofStatus, -⟩
  have sameId : subscriptionId = change.providerSubscriptionId :=
    Except.ok.inj (event.ofId.symm.trans ofId)
  rcases change.row_eq moment.db.val.subscriptions with ⟨id, createdAt, row⟩
  rcases stores.entitlements with ⟨grantedPlan, code, entitlements⟩
  have owner : change.values.userId = userId := by
    rw [← ofUser]
    exact (fits.owner known (sameId ▸ found)).symm
  have stored : getSubscriptionByProviderId
      (webhookStep settings moment delivery).db.val.subscriptions subscriptionId =
        some (change.row moment.db.val.subscriptions) := by
    rw [webhookStep, stores.subscriptions, sameId]
    exact getSubscriptionByProviderId_upserted fits.provider
  have startedNow : StartedBy delivery.times.appliedAt moment.db.val.entitlements :=
    knows.started.mono clockLe
  have features : event.features settings tables =
      settings.entitlementsForPlan grantedPlan.code := by
    have status : event.status = .ok change.values.status := ofStatus
    rw [resolvePlan_congr knows.plans] at resolved
    rw [SubscriptionEvent.features, status, resolved, code]
  constructor
  · refine ⟨?_, stores.plans.trans knows.plans, ?_, change.row moment.db.val.subscriptions, stored, ?_⟩
    · rw [DefaultsStored, webhookStep, stores.plans]
      exact knows.defaults
    · rw [webhookStep, entitlements]
      exact (startedBy_granted startedNow).mono nowLe
    · rw [row]
      exact owner
  · refine ⟨⟨change.row moment.db.val.subscriptions, stored, ?_⟩, ?_⟩
    · rw [row]
      exact ofStatus
    · intro instant instantLe
      rw [features, webhookStep, entitlements, owner]
      exact activeSpecs_granted startedNow (nowLe.trans instantLe)

/-- The event delivered last is what the store reflects in the end. -/
theorem reflects_run {tables : Tables} {userId : UUID} {start : Moment}
    {earlier : List (SubscriptionEvent subscriptionId)} {last : SubscriptionEvent subscriptionId}
    {deliveries : List Delivery} (knows : Knows settings tables subscriptionId userId start)
    (delivers : Delivers settings start (earlier ++ [last]) deliveries) :
    Reflects settings tables userId last (run (webhookStep settings) start deliveries) := by
  induction earlier generalizing start deliveries with
  | nil =>
      rcases delivers with ⟨verifications, along⟩
      rcases List.map_eq_singleton_iff.mp verifications with ⟨delivery, rfl, verified⟩
      exact (reflects_webhookStep last knows verified along.1).2
  | cons event earlier ih =>
      rcases delivers with ⟨verifications, along⟩
      rcases List.map_eq_cons_iff.mp verifications with ⟨delivery, rest, rfl, verified, rest_eq⟩
      have next := (reflects_webhookStep event knows verified along.1).1
      rw [run_cons]
      exact ih next ⟨rest_eq, along.2⟩

end Steps

/-- All orders in which the events of a known subscription are delivered leave the access of the
latest event, exactly if all events carry the same access. -/
theorem ordersAgree_iff_sameAccess (settings : Settings) {subscriptionId : String}
    {start : Moment} {known : Subscription}
    (found : getSubscriptionByProviderId start.db.val.subscriptions subscriptionId = some known)
    (defaults : DefaultsStored settings start.db.val)
    (started : StartedBy start.clock start.db.val.entitlements)
    {events : List (SubscriptionEvent subscriptionId)} {latest : SubscriptionEvent subscriptionId}
    (isLatest : latest.IsLatestOf events)
    {deliveries : List (SubscriptionEvent subscriptionId) → List Delivery}
    (delivers : ∀ order, order.Perm events → Delivers settings start order (deliveries order)) :
    (∀ order, order.Perm events → Reflects settings start.db.val known.userId latest
        (run (webhookStep settings) start (deliveries order))) ↔
      ∀ event ∈ events, event.SameAccess settings start.db.val latest := by
  have knows : Knows settings start.db.val subscriptionId known.userId start :=
    ⟨defaults, rfl, started, known, found, rfl⟩
  constructor
  · intro agree event eventMem
    rcases List.append_of_mem eventMem with ⟨before, after, split⟩
    -- The order that brings the event last.
    have perm : (before ++ after ++ [event]).Perm events := by
      rw [split, List.append_assoc]
      exact (List.perm_append_singleton event after).append_left before
    have shown := reflects_run knows (delivers _ perm)
    rcases agree _ perm with ⟨⟨subscription, stored, status⟩, features⟩
    rcases shown with ⟨⟨other, otherStored, otherStatus⟩, otherFeatures⟩
    cases stored.symm.trans otherStored
    refine ⟨otherStatus.trans status.symm, ?_⟩
    exact (otherFeatures _ le_rfl).symm.trans (features _ le_rfl)
  · intro same order perm
    rcases List.eq_nil_or_concat order with rfl | ⟨earlier, last, rfl⟩
    · have latestMem := isLatest.1
      rw [← perm.nil_eq] at latestMem
      exact absurd latestMem List.not_mem_nil
    · rw [List.concat_eq_append] at perm ⊢
      rcases same last (perm.subset (by simp)) with ⟨sameStatus, sameFeatures⟩
      rcases reflects_run knows (delivers _ perm) with ⟨⟨subscription, stored, status⟩, features⟩
      refine ⟨⟨subscription, stored, sameStatus.symm.trans status⟩, ?_⟩
      intro instant instantLe
      exact (features instant instantLe).trans sameFeatures

end Orders

section Samples

local instance orderUnicodeData : UnicodeData := UnicodeData.ascii

def sampleSubscription (status : String) : Value :=
  .dict [("id", .str "sub_a"), ("status", .str status)]

def sampleEntries (id type : String) (created : ℤ) (status : String) : List (String × Value) :=
  [("id", .str id), ("type", .str type), ("created", .int created),
    ("data", .dict [("object", sampleSubscription status)])]

def sampleActive : SubscriptionEvent "sub_a" where
  entries := sampleEntries "evt_10" "customer.subscription.updated" 10 "active"
  created := 10
  subscription := sampleSubscription "active"
  ofType := Or.inl rfl
  ofTime := rfl
  ofObject := rfl
  ofId := rfl

def sampleCanceled : SubscriptionEvent "sub_a" where
  entries := sampleEntries "evt_20" "customer.subscription.deleted" 20 "canceled"
  created := 20
  subscription := sampleSubscription "canceled"
  ofType := Or.inr rfl
  ofTime := rfl
  ofObject := rfl
  ofId := rfl

def sampleStart : Moment :=
  webhookStep sampleSettings ⟨sampleDatabase, 0⟩ (sampleUpdate 1 "sub_a" "active")

def sampleDeliveries (order : List (SubscriptionEvent "sub_a")) : List Delivery :=
  order.zipIdx.map fun entry =>
    { sampleUpdate (entry.2 + 2) "sub_a" "active" with verification := .event entry.1.entries }

theorem delivers_canceled_active :
    Delivers sampleSettings sampleStart [sampleCanceled, sampleActive]
      (sampleDeliveries [sampleCanceled, sampleActive]) :=
  ⟨rfl, ⟨rfl, by decide +kernel, by decide +kernel⟩, ⟨rfl, by decide +kernel, by decide +kernel⟩,
    trivial⟩

theorem delivers_active_canceled :
    Delivers sampleSettings sampleStart [sampleActive, sampleCanceled]
      (sampleDeliveries [sampleActive, sampleCanceled]) :=
  ⟨rfl, ⟨rfl, by decide +kernel, by decide +kernel⟩, ⟨rfl, by decide +kernel, by decide +kernel⟩,
    trivial⟩

theorem sampleCanceled_isLatest :
    sampleCanceled.IsLatestOf [sampleCanceled, sampleActive] := by
  simp [SubscriptionEvent.IsLatestOf, sampleCanceled, sampleActive]

theorem ordersAgree_iff_sameAccess_sample :
    (∀ order, order.Perm [sampleCanceled, sampleActive] →
        Reflects sampleSettings sampleStart.db.val 1 sampleCanceled
          (run (webhookStep sampleSettings) sampleStart (sampleDeliveries order))) ↔
      ∀ event ∈ [sampleCanceled, sampleActive],
        event.SameAccess sampleSettings sampleStart.db.val sampleCanceled := by
  have known : ∃ subscription, getSubscriptionByProviderId sampleStart.db.val.subscriptions
      "sub_a" = some subscription ∧ subscription.userId = 1 := by
    apply (Option.map_eq_some_iff (f := Subscription.userId)).mp
    rfl
  rcases known with ⟨subscription, found, ofUser⟩
  rw [← ofUser]
  refine ordersAgree_iff_sameAccess sampleSettings found ?_ ?_ sampleCanceled_isLatest ?_
  · exact ⟨⟨100, by decide +kernel⟩, 101, by decide +kernel⟩
  · decide +kernel
  · intro order perm
    rcases List.perm_pair.mp perm with rfl | rfl
    · exact delivers_canceled_active
    · exact delivers_active_canceled

/-- The update was created before the cancellation and is delivered after it. -/
theorem delayed_update_restores_pro :
    sampleCanceled.IsLatestOf [sampleCanceled, sampleActive] ∧
      Delivers sampleSettings sampleStart [sampleCanceled, sampleActive]
        (sampleDeliveries [sampleCanceled, sampleActive]) ∧
      ¬ Reflects sampleSettings sampleStart.db.val 1 sampleCanceled
        (run (webhookStep sampleSettings) sampleStart
          (sampleDeliveries [sampleCanceled, sampleActive])) := by
  refine ⟨sampleCanceled_isLatest, delivers_canceled_active, ?_⟩
  rintro ⟨-, features⟩
  exact absurd (features 3 (by decide +kernel)).length_eq (by decide +kernel)

end Samples

end ImigrAI.Billing
