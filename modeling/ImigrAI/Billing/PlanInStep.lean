import ImigrAI.Billing.Access
import ImigrAI.Billing.ActiveEntitlements
import ImigrAI.Foundations.Runs

/-!
# The plan shown and the entitlements held

The plan of a user is read from all subscriptions, while the entitlements are rewritten from
the one subscription that an event names. The two stay in step as long as the other live
subscriptions of the user do not decide otherwise.
-/

namespace ImigrAI.Billing

open Python Runs Sorting

section Plans

variable (settings : Settings) (tables : Tables) (userId : UUID)

/-- The subscription is one to the Pro plan. -/
def IsPro (subscription : Subscription) : Prop :=
  (subscription.planId, settings.proPlanCode) ∈ planCodes tables

instance : DecidablePred (IsPro settings tables) :=
  fun _ => inferInstanceAs (Decidable (_ ∈ _))

/-- `get_active_subscription_for_user` returns a subscription to the Pro plan. -/
def ShowsPro : Prop :=
  ∃ subscription ∈ getActiveSubscriptionForUser tables.subscriptions userId,
    IsPro settings tables subscription

instance : Decidable (ShowsPro settings tables userId) :=
  match found : getActiveSubscriptionForUser tables.subscriptions userId with
  | none => .isFalse (by simp [ShowsPro, found])
  | some subscription =>
      decidable_of_iff (IsPro settings tables subscription) (by simp [ShowsPro, found])

/-- What the plan of the user gives. -/
def shownSpecs : List EntitlementSpec :=
  if ShowsPro settings tables userId then settings.proEntitlements else settings.freeEntitlements

end Plans

section CodesOfPlans

variable {settings : Settings}

theorem planCode_unique {db : Database} {planId : UUID} {code other : String}
    (mem : (planId, code) ∈ planCodes db.val) (otherMem : (planId, other) ∈ planCodes db.val) :
    code = other := by
  rcases List.mem_map.mp mem with ⟨plan, planMem, planEq⟩
  rcases List.mem_map.mp otherMem with ⟨otherPlan, otherPlanMem, otherEq⟩
  cases planEq
  have same := List.inj_on_of_nodup_map db.property.1.planIds otherPlanMem planMem
    (congrArg Prod.fst otherEq)
  rw [same] at otherEq
  exact congrArg Prod.snd otherEq

/-- Plans that keep their codes keep which subscriptions are to the Pro plan. -/
theorem isPro_iff_of_codes {before after : Database} {subscription : Subscription}
    (plans : planCodes before.val <+: planCodes after.val)
    (stored : subscription ∈ before.val.subscriptions) :
    IsPro settings after.val subscription ↔ IsPro settings before.val subscription := by
  refine ⟨fun isPro => ?_, fun isPro => plans.subset isPro⟩
  rcases List.mem_map.mp (before.property.1.subscriptionPlans subscription stored) with
    ⟨plan, planMem, planId⟩
  have mem : (subscription.planId, plan.code) ∈ planCodes before.val :=
    List.mem_map.mpr ⟨plan, planMem, by rw [planId]⟩
  rw [IsPro, planCode_unique isPro (plans.subset mem)]
  exact mem

theorem mem_liveSubscriptions {subscriptions : List Subscription} {userId : UUID}
    {subscription : Subscription} :
    subscription ∈ liveSubscriptions subscriptions userId ↔
      subscription ∈ subscriptions ∧ subscription.userId = userId ∧ subscription.status.isLive := by
  simp [liveSubscriptions]

theorem getActiveSubscriptionForUser_mem {subscriptions : List Subscription} {userId : UUID}
    {subscription : Subscription}
    (found : getActiveSubscriptionForUser subscriptions userId = some subscription) :
    subscription ∈ subscriptions :=
  (mem_liveSubscriptions.mp (mem_of_head?_sortBy found)).1

/-- A user whose live subscriptions stay keeps the plan. -/
theorem showsPro_iff_of_live {before after : Database} {userId : UUID}
    (plans : planCodes before.val <+: planCodes after.val)
    (live : liveSubscriptions after.val.subscriptions userId =
      liveSubscriptions before.val.subscriptions userId) :
    ShowsPro settings after.val userId ↔ ShowsPro settings before.val userId := by
  have same : getActiveSubscriptionForUser after.val.subscriptions userId =
      getActiveSubscriptionForUser before.val.subscriptions userId := by
    rw [getActiveSubscriptionForUser, live, ← getActiveSubscriptionForUser]
  unfold ShowsPro
  rw [same]
  refine exists_congr fun subscription => and_congr_right fun found => ?_
  exact isPro_iff_of_codes plans (getActiveSubscriptionForUser_mem found)

theorem shownSpecs_of_live {before after : Database} {userId : UUID}
    (plans : planCodes before.val <+: planCodes after.val)
    (live : liveSubscriptions after.val.subscriptions userId =
      liveSubscriptions before.val.subscriptions userId) :
    shownSpecs settings after.val userId = shownSpecs settings before.val userId :=
  ite_congr (propext (showsPro_iff_of_live plans live)) (fun _ => rfl) fun _ => rfl

end CodesOfPlans

section Runs

/-- The database, and the time up to which it has been written. -/
structure Moment where
  db : Database
  clock : Instant

variable (settings : Settings)

/-- Every user with a subscription has, from now on, the entitlements of the plan shown. -/
def InStep (moment : Moment) : Prop :=
  ∀ subscription ∈ moment.db.val.subscriptions, ∀ instant, moment.clock ≤ instant →
    (activeSpecs moment.db.val.entitlements subscription.userId instant).Perm
      (shownSpecs settings moment.db.val subscription.userId)

/-- The two halves of `get_entitlements_me` belong together. -/
def EntitlementsMe.Agrees (me : EntitlementsMe) : Prop :=
  ∃ plan ∈ me.plan,
    (me.entitlements.map Entitlement.spec).Perm (settings.entitlementsForPlan plan.code)

/-- Whenever a user with a subscription asks from now on, the answer belongs together. -/
def MeAgrees (moment : Moment) : Prop :=
  ∀ subscription ∈ moment.db.val.subscriptions, ∀ ids times now,
    moment.clock ≤ times.listedAt → moment.clock ≤ now → ∀ after me,
      getEntitlementsMe settings moment.db ids times now subscription.userId = (after, .ok me) →
        me.Agrees settings

variable [UnicodeData]

def webhookStep (moment : Moment) (delivery : Delivery) : Moment where
  db := (processStripeWebhook settings moment.db delivery).1
  clock := delivery.times.processedAt

/-- The other live subscriptions of the user of a change. -/
def otherSubscriptions (subscriptions : List Subscription) (change : SubscriptionChange) :
    List Subscription :=
  (liveSubscriptions subscriptions change.values.userId).filter fun subscription =>
    subscription.providerSubscriptionId ≠ some change.providerSubscriptionId

/-- The other live subscription that is shown first, if any. An event that makes its
subscription live must not differ from it, where it is shown before the one of the event; an
event that ends its subscription must not leave a Pro one. -/
def Undisputed (tables : Tables) (change : SubscriptionChange) : Prop :=
  ∀ first, FirstBy rankKey (otherSubscriptions tables.subscriptions change) first →
    if change.values.status.isLive then
      rankKey first ≤ rankKey (change.row tables.subscriptions) →
        (IsPro settings tables first ↔ change.plan.code = settings.proPlanCode)
    else ¬ IsPro settings tables first

/-- The clock does not go back, and what the event asks for is undisputed. -/
def UndisputedEvent (moment : Moment) (delivery : Delivery) : Prop :=
  moment.clock ≤ delivery.times.appliedAt ∧
    delivery.times.appliedAt ≤ delivery.times.processedAt ∧
    ∀ change ∈ requestedChange settings moment.db delivery,
      Undisputed settings moment.db.val change

instance (tables : Tables) : DecidablePred (Undisputed settings tables) := fun change =>
  decidable_of_iff (∀ first ∈ otherSubscriptions tables.subscriptions change,
      (∀ other ∈ otherSubscriptions tables.subscriptions change,
        rankKey first ≤ rankKey other) →
      if change.values.status.isLive then
        rankKey first ≤ rankKey (change.row tables.subscriptions) →
          (IsPro settings tables first ↔ change.plan.code = settings.proPlanCode)
      else ¬ IsPro settings tables first)
    (forall_congr' fun _ => and_imp.symm)

instance (moment : Moment) (delivery : Delivery) :
    Decidable (UndisputedEvent settings moment delivery) :=
  inferInstanceAs (Decidable (_ ∧ _ ∧ ∀ change ∈ requestedChange _ _ _, _))

section Steps

variable {settings}

omit [UnicodeData] in
theorem InStep.of_keepsAccess {before after : Moment} (inStep : InStep settings before)
    (keeps : KeepsAccess before.db.val after.db.val) (le : before.clock ≤ after.clock) :
    InStep settings after := by
  intro subscription stored instant instantLe
  rw [keeps.subscriptions] at stored
  rw [shownSpecs_of_live keeps.plans (by rw [keeps.subscriptions]), keeps.entitlements]
  exact inStep subscription stored instant (le.trans instantLe)

omit [UnicodeData] in
theorem Undisputed.of_keepsAccess {before after : Database} {change : SubscriptionChange}
    (undisputed : Undisputed settings before.val change)
    (keeps : KeepsAccess before.val after.val) : Undisputed settings after.val change := by
  intro first isFirst
  rw [keeps.subscriptions] at isFirst ⊢
  have stored : first ∈ before.val.subscriptions :=
    (mem_liveSubscriptions.mp (List.mem_of_mem_filter isFirst.1)).1
  rw [isPro_iff_of_codes keeps.plans stored]
  exact undisputed first isFirst

/-- The change is about a stored plan and keeps the user of its subscription. -/
structure SubscriptionChange.Fits (change : SubscriptionChange) (tables : Tables) : Prop where
  plan : change.plan ∈ tables.plans
  planId : change.values.planId = change.plan.id
  provider : change.values.providerSubscriptionId = some change.providerSubscriptionId
  owner : ∀ existing, getSubscriptionByProviderId tables.subscriptions
    change.providerSubscriptionId = some existing → existing.userId = change.values.userId

theorem fits_of_askedChange {tables : Tables} {delivery : Delivery} {change : SubscriptionChange}
    {event : List (String × Value)} (asked : change ∈ askedChange settings tables delivery event) :
    change.Fits tables := by
  rcases readSubscription_of_askedChange asked with ⟨subscriptionObject, userIdHint, -, read⟩
  rcases readSubscription_reads read with ⟨-, resolving, -, planId, provider, owner⟩
  exact ⟨resolvePlan_mem resolving, planId, provider, owner⟩

theorem fits_of_requestedChange {db : Database} {delivery : Delivery}
    {change : SubscriptionChange} (requested : change ∈ requestedChange settings db delivery) :
    change.Fits (planned settings db delivery.ids.toAccessIds).val := by
  unfold requestedChange at requested
  dsimp only at requested
  split at requested
  · split_ifs at requested
    · simp at requested
    · exact fits_of_askedChange requested
  · simp at requested

section Stored

variable {db after : Database} {ids : ℕ → UUID} {now : Instant} {change : SubscriptionChange}

omit [UnicodeData] in
/-- The row of a change has its columns but for the id and the time of creation. -/
theorem SubscriptionChange.row_eq (change : SubscriptionChange)
    (subscriptions : List Subscription) : ∃ id createdAt,
      change.row subscriptions = { change.values with id := id, createdAt := createdAt } := by
  unfold SubscriptionChange.row upserted
  split
  · exact ⟨_, _, rfl⟩
  · exact ⟨_, _, rfl⟩

omit [UnicodeData] in
theorem isPro_row_iff (fits : change.Fits db.val)
    (plans : planCodes db.val <+: planCodes after.val) :
    IsPro settings after.val (change.row db.val.subscriptions) ↔
      change.plan.code = settings.proPlanCode := by
  rcases change.row_eq db.val.subscriptions with ⟨id, createdAt, row⟩
  have mem : ((change.row db.val.subscriptions).planId, change.plan.code) ∈
      planCodes after.val := by
    rw [row]
    apply plans.subset
    exact List.mem_map.mpr ⟨change.plan, fits.plan, by rw [← fits.planId]⟩
  constructor
  · intro isPro
    exact planCode_unique mem isPro
  · intro code
    rw [IsPro, ← code]
    exact mem

omit [UnicodeData] in
/-- A live subscription after the change is that of the change or another one. -/
theorem mem_live_stored
    (stores : StoresChange settings ids now change db.val after.val) {subscription : Subscription}
    (live : subscription ∈ liveSubscriptions after.val.subscriptions change.values.userId) :
    subscription = change.row db.val.subscriptions ∨
      subscription ∈ otherSubscriptions db.val.subscriptions change := by
  rcases mem_liveSubscriptions.mp live with ⟨mem, ofUser, isLive⟩
  rw [stores.subscriptions] at mem
  rcases mem_upserted_iff.mp mem with isRow | ⟨old, provider⟩
  · exact Or.inl isRow
  · refine Or.inr (List.mem_filter.mpr ⟨mem_liveSubscriptions.mpr ⟨old, ofUser, isLive⟩, ?_⟩)
    exact decide_eq_true provider

omit [UnicodeData] in
theorem mem_live_of_other
    (stores : StoresChange settings ids now change db.val after.val) {subscription : Subscription}
    (other : subscription ∈ otherSubscriptions db.val.subscriptions change) :
    subscription ∈ liveSubscriptions after.val.subscriptions change.values.userId := by
  rcases List.mem_filter.mp other with ⟨live, provider⟩
  rcases mem_liveSubscriptions.mp live with ⟨mem, ofUser, isLive⟩
  refine mem_liveSubscriptions.mpr ⟨?_, ofUser, isLive⟩
  rw [stores.subscriptions]
  exact mem_upserted_iff.mpr (Or.inr ⟨mem, of_decide_eq_true provider⟩)

omit [UnicodeData] in
/-- After an undisputed change the plan shown is the one that has been granted. -/
theorem showsPro_stored_iff (fits : change.Fits db.val)
    (undisputed : Undisputed settings db.val change)
    (stores : StoresChange settings ids now change db.val after.val) :
    ShowsPro settings after.val change.values.userId ↔
      grantedCode settings change.values.status change.plan = settings.proPlanCode := by
  rcases change.row_eq db.val.subscriptions with ⟨id, createdAt, row⟩
  have stored : change.row db.val.subscriptions ∈ after.val.subscriptions := by
    rw [stores.subscriptions]
    exact mem_upserted_iff.mpr (Or.inl rfl)
  -- What another subscription shown first has to be.
  have others {first : Subscription}
      (isFirst : FirstBy rankKey (liveSubscriptions after.val.subscriptions change.values.userId)
        first)
      (other : first ∈ otherSubscriptions db.val.subscriptions change) :
      FirstBy rankKey (otherSubscriptions db.val.subscriptions change) first ∧
        (IsPro settings after.val first ↔ IsPro settings db.val first) := by
    refine ⟨⟨other, fun second secondOther => isFirst.2 second ?_⟩, ?_⟩
    · exact mem_live_of_other stores secondOther
    · exact isPro_iff_of_codes stores.planCodes
        (mem_liveSubscriptions.mp (List.mem_of_mem_filter other)).1
  by_cases isLive : change.values.status.isLive
  · rw [grantedCode, if_pos isLive]
    have rowLive : change.row db.val.subscriptions ∈
        liveSubscriptions after.val.subscriptions change.values.userId := by
      refine mem_liveSubscriptions.mpr ⟨stored, ?_, ?_⟩
      · rw [row]
      · rw [row]
        exact isLive
    have shownIff {first : Subscription}
        (isFirst : FirstBy rankKey
          (liveSubscriptions after.val.subscriptions change.values.userId) first) :
        IsPro settings after.val first ↔ change.plan.code = settings.proPlanCode := by
      rcases mem_live_stored stores isFirst.1 with rfl | other
      · exact isPro_row_iff fits stores.planCodes
      · rcases others isFirst other with ⟨firstOther, isPro⟩
        have agreed := undisputed first firstOther
        rw [if_pos isLive] at agreed
        rw [isPro]
        exact agreed (isFirst.2 _ rowLive)
    cases found : getActiveSubscriptionForUser after.val.subscriptions change.values.userId with
    | none =>
        have rowSorted : change.row db.val.subscriptions ∈
            sortBy rankKey (liveSubscriptions after.val.subscriptions change.values.userId) :=
          mem_sortBy.mpr rowLive
        rw [getActiveSubscriptionForUser, List.head?_eq_none_iff] at found
        simp [found] at rowSorted
    | some first =>
        have isFirst := firstBy_of_head?_sortBy found
        simp [ShowsPro, found, shownIff isFirst]
  · rw [grantedCode, if_neg isLive]
    refine iff_of_false ?_ settings.plansDiffer
    rintro ⟨first, found, isPro⟩
    have isFirst := firstBy_of_head?_sortBy found
    rcases mem_live_stored stores isFirst.1 with rfl | other
    · have rowLive := (mem_liveSubscriptions.mp isFirst.1).2.2
      rw [row] at rowLive
      exact isLive rowLive
    · rcases others isFirst other with ⟨firstOther, same⟩
      have agreed := undisputed first firstOther
      rw [if_neg isLive] at agreed
      exact agreed (same.mp isPro)

omit [UnicodeData] in
theorem shownSpecs_eq_of_iff {planCode : String} {userId : UUID}
    (shows : ShowsPro settings after.val userId ↔ planCode = settings.proPlanCode) :
    shownSpecs settings after.val userId = settings.entitlementsForPlan planCode := by
  rw [shownSpecs, Settings.entitlementsForPlan]
  exact ite_congr (propext shows) (fun _ => rfl) fun _ => rfl

omit [UnicodeData] in
/-- An undisputed change of one user keeps every user in step. -/
theorem InStep.of_storesChange {clock later : Instant}
    (inStep : InStep settings ⟨db, clock⟩) (started : StartedBy now db.val.entitlements)
    (fits : change.Fits db.val) (undisputed : Undisputed settings db.val change)
    (stores : StoresChange settings ids now change db.val after.val)
    (clockLe : clock ≤ later) (nowLe : now ≤ later) :
    InStep settings ⟨after, later⟩ := by
  intro subscription mem instant instantLe
  dsimp only at mem instantLe ⊢
  rcases stores.entitlements with ⟨grantedPlan, code, entitlements⟩
  rw [entitlements]
  by_cases ofUser : subscription.userId = change.values.userId
  · rw [ofUser, shownSpecs_eq_of_iff (showsPro_stored_iff fits undisputed stores), ← code]
    exact activeSpecs_granted started (nowLe.trans instantLe)
  · have old : subscription ∈ db.val.subscriptions := by
      rw [stores.subscriptions] at mem
      rcases mem_upserted_iff.mp mem with isRow | ⟨old, -⟩
      · rcases change.row_eq db.val.subscriptions with ⟨id, createdAt, row⟩
        rw [SubscriptionChange.row] at row
        rw [isRow, row] at ofUser
        exact absurd rfl ofUser
      · exact old
    have live : liveSubscriptions after.val.subscriptions subscription.userId =
        liveSubscriptions db.val.subscriptions subscription.userId := by
      rw [stores.subscriptions]
      exact liveSubscriptions_upserted_of_ne fits.owner ofUser
    rw [shownSpecs_of_live stores.planCodes live, activeSpecs,
      listActiveEntitlements_granted_of_ne ofUser]
    exact inStep subscription old instant (clockLe.trans instantLe)

end Stored

/-- An undisputed event keeps every user in step. -/
theorem inStep_webhookStep {moment : Moment} {delivery : Delivery}
    (inStep : InStep settings moment)
    (started : StartedBy moment.clock moment.db.val.entitlements)
    (undisputed : UndisputedEvent settings moment delivery) :
    InStep settings (webhookStep settings moment delivery) ∧
      StartedBy delivery.times.processedAt
        (webhookStep settings moment delivery).db.val.entitlements := by
  rcases undisputed with ⟨clockLe, nowLe, undisputed⟩
  have later := clockLe.trans nowLe
  have keeps :=
    (ensureDefaultPlans_extends settings moment.db delivery.ids.toAccessIds).keepsAccess
  rcases processStripeWebhook_cases settings moment.db delivery with
    events | ⟨change, requested, stores⟩
  · have kept := keeps.trans_events events
    refine ⟨inStep.of_keepsAccess kept later, ?_⟩
    rw [webhookStep, kept.entitlements]
    exact started.mono later
  · have inStepPlanned : InStep settings
        ⟨planned settings moment.db delivery.ids.toAccessIds, moment.clock⟩ :=
      inStep.of_keepsAccess keeps le_rfl
    have startedPlanned : StartedBy delivery.times.appliedAt
        (planned settings moment.db delivery.ids.toAccessIds).val.entitlements := by
      rw [planned, keeps.entitlements]
      exact started.mono clockLe
    refine ⟨inStepPlanned.of_storesChange startedPlanned (fits_of_requestedChange requested)
      ((undisputed change requested).of_keepsAccess keeps) stores later nowLe, ?_⟩
    rcases stores.entitlements with ⟨grantedPlan, -, entitlements⟩
    rw [webhookStep, entitlements]
    exact (startedBy_granted startedPlanned).mono nowLe

omit [UnicodeData] in
/-- The plan that is shown decides whether the subscription is one to the Pro plan. -/
theorem exists_planOfSubscription {db : Database} (userId : UUID)
    (freePlan : (getPlanByCode db.val settings.freePlanCode).isSome) :
    ∃ plan ∈ planOfSubscription settings db.val
        (getActiveSubscriptionForUser db.val.subscriptions userId),
      ShowsPro settings db.val userId ↔ plan.code = settings.proPlanCode := by
  cases found : getActiveSubscriptionForUser db.val.subscriptions userId with
  | none =>
      rcases Option.isSome_iff_exists.mp freePlan with ⟨plan, lookup⟩
      refine ⟨plan, lookup, ?_⟩
      rw [(getPlanByCode_eq_some lookup).2.1]
      simp [ShowsPro, found, settings.plansDiffer]
  | some subscription =>
      have stored := getActiveSubscriptionForUser_mem found
      have planStored := db.property.1.subscriptionPlans subscription stored
      rcases List.mem_map.mp planStored with ⟨row, rowMem, rowId⟩
      cases lookup : planOfSubscription settings db.val (some subscription) with
      | none => exact absurd rowId (by simpa using List.find?_eq_none.mp lookup row rowMem)
      | some plan =>
          have planId : plan.id = subscription.planId := by simpa using List.find?_some lookup
          have mem : (subscription.planId, plan.code) ∈ planCodes db.val :=
            List.mem_map.mpr ⟨plan, List.mem_of_find?_eq_some lookup, by rw [planId]⟩
          refine ⟨plan, rfl, ?_⟩
          simp only [ShowsPro, found, Option.mem_def, Option.some.injEq, exists_eq_left']
          refine ⟨fun isPro => planCode_unique mem isPro, fun code => ?_⟩
          rw [IsPro, ← code]
          exact mem

omit [UnicodeData] in
theorem shownSpecs_ne_nil (tables : Tables) (userId : UUID) :
    shownSpecs settings tables userId ≠ [] := by
  unfold shownSpecs
  split_ifs
  · exact List.cons_ne_nil _ _
  · exact List.cons_ne_nil _ _

omit [UnicodeData] in
/-- The baseline of a user with active entitlements is the store with the default plans. -/
theorem ensureUserAccessBaseline_of_active {db baseline : Database} {ids : AccessIds}
    {times : BaselineTimes} {userId : UUID}
    (active : listActiveEntitlements db.val.entitlements userId times.listedAt ≠ [])
    (done : ensureUserAccessBaseline settings db ids times userId = (baseline, .ok ())) :
    ensureDefaultPlans settings db ids = (baseline, .ok ()) := by
  unfold ensureUserAccessBaseline at done
  split at done
  · exact absurd (congrArg Prod.snd done) (by simp)
  · next plans planning =>
      have keeps := (ensureDefaultPlans_extends settings db ids).keepsAccess
      rw [planning] at keeps
      rw [if_pos (by rw [keeps.entitlements]; exact active)] at done
      have same : plans = baseline := congrArg Prod.fst done
      rw [planning, same]

omit [UnicodeData] in
/-- Users in step are told so. -/
theorem InStep.meAgrees {moment : Moment} (inStep : InStep settings moment) :
    MeAgrees settings moment := by
  intro subscription stored ids times now listedLe nowLe after me asked
  have active : listActiveEntitlements moment.db.val.entitlements subscription.userId
      times.listedAt ≠ [] := by
    intro none
    have perm := inStep subscription stored times.listedAt listedLe
    rw [activeSpecs, none] at perm
    exact shownSpecs_ne_nil _ _ perm.nil_eq.symm
  unfold getEntitlementsMe at asked
  split at asked
  · exact absurd (congrArg Prod.snd asked) (by simp)
  · next baseline based =>
      have planning := ensureUserAccessBaseline_of_active active based
      have keeps := (ensureDefaultPlans_extends settings moment.db ids).keepsAccess
      rw [planning] at keeps
      rcases exists_planOfSubscription subscription.userId (ensureDefaultPlans_freePlan planning)
        with ⟨plan, shown, showsPro⟩
      cases asked
      refine ⟨plan, shown, ?_⟩
      have perm := inStep subscription stored now nowLe
      rw [← shownSpecs_of_live keeps.plans (by rw [keeps.subscriptions]),
        shownSpecs_eq_of_iff showsPro, ← keeps.entitlements] at perm
      exact perm

end Steps

/-- In a run of undisputed events the entitlements of every user with a subscription are those
of the plan shown, after each event. -/
theorem inStep_of_undisputed (settings : Settings) (initial : Moment)
    (inStep : InStep settings initial)
    (started : StartedBy initial.clock initial.db.val.entitlements) (deliveries : List Delivery)
    (undisputed : Along (webhookStep settings) (UndisputedEvent settings) initial deliveries) :
    ∀ visited ∈ states (webhookStep settings) initial deliveries,
      InStep settings visited ∧ MeAgrees settings visited := by
  have kept : ∀ visited ∈ states (webhookStep settings) initial deliveries,
      InStep settings visited ∧ StartedBy visited.clock visited.db.val.entitlements := by
    refine invariant_states_of_along ?_ ⟨inStep, started⟩ undisputed
    intro moment delivery invariant met
    exact inStep_webhookStep invariant.1 invariant.2 met
  intro visited visitedMem
  have invariant := kept visited visitedMem
  exact ⟨invariant.1, invariant.1.meAgrees⟩

end Runs

section Samples

local instance billingUnicodeData : UnicodeData := UnicodeData.ascii

def sampleRun : List Delivery :=
  [sampleUpdate 1 "sub_a" "active", sampleUpdate 2 "sub_b" "active",
    sampleUpdate 3 "sub_a" "canceled"]

def sampleEnd : Moment := run (webhookStep sampleSettings) ⟨sampleDatabase, 0⟩
  [sampleUpdate 1 "sub_a" "active", sampleUpdate 2 "sub_a" "canceled"]

/-- Two updates of one subscription are undisputed. -/
theorem inStep_sampleEnd :
    InStep sampleSettings sampleEnd ∧ MeAgrees sampleSettings sampleEnd := by
  refine inStep_of_undisputed sampleSettings ⟨sampleDatabase, 0⟩ ?_ ?_ _ ?_ _ (run_mem_states _ _)
  · intro subscription stored
    exact absurd stored List.not_mem_nil
  · decide
  · rw [along_cons, along_cons, along_nil]
    decide +kernel

/-- The end of one of two Pro subscriptions takes the Pro entitlements, not the plan. -/
theorem not_inStep_sampleRun :
    ¬ InStep sampleSettings (run (webhookStep sampleSettings) ⟨sampleDatabase, 0⟩ sampleRun) := by
  intro inStep
  have stored : ∃ subscription ∈ (run (webhookStep sampleSettings) ⟨sampleDatabase, 0⟩
      sampleRun).db.val.subscriptions, subscription.userId = 1 := by decide +kernel
  rcases stored with ⟨subscription, mem, ofUser⟩
  have perm := inStep subscription mem 3 (by decide +kernel)
  rw [ofUser] at perm
  exact absurd perm.length_eq (by decide +kernel)

end Samples

end ImigrAI.Billing
