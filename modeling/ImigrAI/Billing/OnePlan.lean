import ImigrAI.Billing.AccessEffects
import ImigrAI.Billing.PlanInStep

/-!
# The entitlements of one plan

Calls that grant entitlements and webhooks, one after another by a clock that does not go back.
Who has been seen has the entitlements of exactly one plan, whatever the calls were and however
they ended.
-/

namespace ImigrAI.Billing

open Python Runs

/-- A call of the billing service that may grant entitlements. -/
inductive AccessCall where
  | ensureUserAccessBaseline (ids : AccessIds) (times : BaselineTimes) (userId : UUID)
  | requireEntitlement (ids : AccessIds) (times : BaselineTimes) (checkedAt : Instant)
      (userId : UUID) (featureKey : String)
  | consumeAssessmentQuota (ids : AccessIds) (counterId : UUID) (times : QuotaTimes)
      (userId : UUID)
  | processStripeWebhook (delivery : Delivery)

/-- The baseline that the call begins with: its ids, its readings and the user. -/
def AccessCall.access : AccessCall → Option (AccessIds × BaselineTimes × UUID)
  | .ensureUserAccessBaseline ids times userId => some (ids, times, userId)
  | .requireEntitlement ids times _ userId _ => some (ids, times, userId)
  | .consumeAssessmentQuota ids _ times userId => some (ids, times.toBaselineTimes, userId)
  | .processStripeWebhook _ => none

/-- The readings of the clock, in the order of the code. -/
def AccessCall.readings : AccessCall → List Instant
  | .ensureUserAccessBaseline _ times _ => [times.listedAt, times.appliedAt]
  | .requireEntitlement _ times checkedAt _ _ => [times.listedAt, times.appliedAt, checkedAt]
  | .consumeAssessmentQuota _ _ times _ =>
      [times.listedAt, times.appliedAt, times.checkedAt, times.countedAt, times.priorityAt]
  | .processStripeWebhook delivery => [delivery.times.syncedAt, delivery.times.createdAt,
      delivery.times.appliedAt, delivery.times.processedAt]

/-- The clock does not go back. -/
def Clocked (moment : Moment) (call : AccessCall) : Prop :=
  (moment.clock :: call.readings).Pairwise (· ≤ ·)

instance (moment : Moment) (call : AccessCall) : Decidable (Clocked moment call) :=
  inferInstanceAs (Decidable (List.Pairwise _ _))

section Calls

variable [UnicodeData] (settings : Settings)

/-- What the call leaves in the database, whether it returns or raises. -/
def AccessCall.after (db : Database) : AccessCall → Database
  | .ensureUserAccessBaseline ids times userId =>
      (Billing.ensureUserAccessBaseline settings db ids times userId).1
  | .requireEntitlement ids times checkedAt userId featureKey =>
      (Billing.requireEntitlement settings db ids times checkedAt userId featureKey).1
  | .consumeAssessmentQuota ids counterId times userId =>
      (Billing.consumeAssessmentQuota settings db ids counterId times userId).1
  | .processStripeWebhook delivery => (Billing.processStripeWebhook settings db delivery).1

def accessStep (moment : Moment) (call : AccessCall) : Moment where
  db := call.after settings moment.db
  clock := call.readings.getLastD moment.clock

end Calls

section Steps

variable {settings : Settings} {entitlements : List Entitlement}

/-- The entitlements stay, or one user is granted a plan. -/
def GrantsOnce (settings : Settings) (readings : List Instant) (before after : List Entitlement) :
    Prop :=
  after = before ∨ ∃ ids userId plan subscriptionId, ∃ now ∈ readings,
    after = granted settings before ids userId plan subscriptionId now

theorem entitlements_planned (settings : Settings) (db : Database) (ids : AccessIds) :
    (planned settings db ids).val.entitlements = db.val.entitlements :=
  (ensureDefaultPlans_extends settings db ids).keepsAccess.entitlements

theorem baseline_grantsOnce (settings : Settings) (db : Database) (ids : AccessIds)
    (times : BaselineTimes) (userId : UUID) {readings : List Instant}
    (appliedMem : times.appliedAt ∈ readings) :
    GrantsOnce settings readings db.val.entitlements
      (baseline settings db ids times userId).val.entitlements := by
  rw [← entitlements_planned settings db ids]
  unfold baseline
  rcases ensureUserAccessBaseline_cases settings db ids times userId with
    ⟨error, raises⟩ | ⟨finds, -⟩ | ⟨applied, grants, -, plan, -, tables⟩
  · left
    rw [raises]
  · left
    rw [finds]
  · right
    refine ⟨ids.entitlement, userId, plan, none, times.appliedAt, appliedMem, ?_⟩
    rw [grants, tables]

theorem requireEntitlement_fst (settings : Settings) (db : Database) (ids : AccessIds)
    (times : BaselineTimes) (checkedAt : Instant) (userId : UUID) (featureKey : String) :
    (requireEntitlement settings db ids times checkedAt userId featureKey).1 =
      baseline settings db ids times userId := by
  unfold requireEntitlement baseline
  split
  · simp_all
  · split <;> simp_all

theorem entitlements_consumeAssessmentQuota (settings : Settings) (db : Database)
    (ids : AccessIds) (counterId : UUID) (times : QuotaTimes) (userId : UUID) :
    (consumeAssessmentQuota settings db ids counterId times userId).1.val.entitlements =
      (baseline settings db ids times.toBaselineTimes userId).val.entitlements := by
  rcases consumeAssessmentQuota_rest settings db ids counterId times userId with ⟨_, quota⟩
  rw [quota]

/-- A call that begins with a baseline leaves its entitlements. -/
theorem entitlements_after_of_access [UnicodeData] (settings : Settings) (db : Database)
    {call : AccessCall} {ids : AccessIds} {times : BaselineTimes} {userId : UUID}
    (accesses : call.access = some (ids, times, userId)) :
    (times.listedAt ∈ call.readings ∧ times.appliedAt ∈ call.readings) ∧
      (call.after settings db).val.entitlements =
        (baseline settings db ids times userId).val.entitlements := by
  cases call with
  | ensureUserAccessBaseline =>
      cases accesses
      exact ⟨by simp [AccessCall.readings], rfl⟩
  | requireEntitlement =>
      cases accesses
      rw [AccessCall.after, requireEntitlement_fst]
      exact ⟨by simp [AccessCall.readings], rfl⟩
  | consumeAssessmentQuota =>
      cases accesses
      rw [AccessCall.after, entitlements_consumeAssessmentQuota]
      exact ⟨by simp [AccessCall.readings], rfl⟩
  | processStripeWebhook => cases accesses

theorem after_grantsOnce [UnicodeData] (settings : Settings) (db : Database) (call : AccessCall) :
    GrantsOnce settings call.readings db.val.entitlements
      (call.after settings db).val.entitlements := by
  cases accesses : call.access with
  | some access =>
      rcases entitlements_after_of_access settings db accesses with ⟨⟨-, appliedMem⟩, same⟩
      rw [same]
      exact baseline_grantsOnce settings db _ _ _ appliedMem
  | none =>
      cases call with
      | processStripeWebhook delivery =>
          rw [← entitlements_planned settings db delivery.ids.toAccessIds]
          rcases processStripeWebhook_cases settings db delivery with
            ⟨billingEvents, only⟩ | ⟨change, -, stores⟩
          · left
            rw [AccessCall.after, only]
          · rcases stores.entitlements with ⟨plan, -, grants⟩
            right
            exact ⟨_, _, plan, _, delivery.times.appliedAt, by simp [AccessCall.readings], grants⟩
      | _ => cases accesses

/-- The specification of a plan. -/
def IsPlanSpecs (settings : Settings) (specs : List EntitlementSpec) : Prop :=
  specs = settings.freeEntitlements ∨ specs = settings.proEntitlements

theorem isPlanSpecs_entitlementsForPlan (settings : Settings) (planCode : String) :
    IsPlanSpecs settings (settings.entitlementsForPlan planCode) := by
  unfold Settings.entitlementsForPlan
  split
  · exact Or.inr rfl
  · exact Or.inl rfl

theorem IsPlanSpecs.ne_nil {specs : List EntitlementSpec} (isPlan : IsPlanSpecs settings specs) :
    specs ≠ [] := by
  rcases isPlan with rfl | rfl
  · simp [Settings.freeEntitlements]
  · simp [Settings.proEntitlements]

theorem IsPlanSpecs.nodup {specs : List EntitlementSpec} (isPlan : IsPlanSpecs settings specs) :
    (specs.map (·.featureKey)).Nodup := by
  rcases isPlan with rfl | rfl
  · exact List.nodup_singleton _
  · exact settings.featuresDiffer

/-- From the clock on, the active entitlements of the user are those specified. -/
def Holds (moment : Moment) (userId : UUID) (specs : List EntitlementSpec) : Prop :=
  ∀ instant, moment.clock ≤ instant →
    (activeSpecs moment.db.val.entitlements userId instant).Perm specs

/-- Every user holds nothing or a plan, and what is stored has started. -/
structure OnePlan (settings : Settings) (moment : Moment) : Prop where
  started : StartedBy moment.clock moment.db.val.entitlements
  holds : ∀ userId, ∃ specs, (specs = [] ∨ IsPlanSpecs settings specs) ∧
    Holds moment userId specs

variable {before after : Moment} {readings : List Instant} {userId : UUID}
  {specs : List EntitlementSpec}

theorem Holds.of_grantsOnce (after : Moment) (holds : Holds before userId specs)
    (started : StartedBy before.clock before.db.val.entitlements)
    (between : ∀ now ∈ readings, before.clock ≤ now ∧ now ≤ after.clock)
    (le : before.clock ≤ after.clock)
    (grants : GrantsOnce settings readings before.db.val.entitlements after.db.val.entitlements) :
    ∃ later, (later = specs ∨ IsPlanSpecs settings later) ∧ Holds after userId later := by
  rcases grants with same | ⟨ids, grantee, plan, subscriptionId, now, nowMem, grants⟩
  · refine ⟨specs, Or.inl rfl, ?_⟩
    intro instant instantLe
    rw [same]
    exact holds instant (le.trans instantLe)
  · rcases between now nowMem with ⟨clockLe, nowLe⟩
    by_cases ofUser : userId = grantee
    · subst ofUser
      refine ⟨_, Or.inr (isPlanSpecs_entitlementsForPlan settings plan.code), ?_⟩
      intro instant instantLe
      rw [grants]
      exact activeSpecs_granted (started.mono clockLe) (nowLe.trans instantLe)
    · refine ⟨specs, Or.inl rfl, ?_⟩
      intro instant instantLe
      rw [activeSpecs, grants, listActiveEntitlements_granted_of_ne ofUser]
      exact holds instant (le.trans instantLe)

theorem StartedBy.of_grantsOnce {clock later : Instant}
    (started : StartedBy clock entitlements) {granted : List Entitlement}
    (between : ∀ now ∈ readings, clock ≤ now ∧ now ≤ later) (le : clock ≤ later)
    (grants : GrantsOnce settings readings entitlements granted) : StartedBy later granted := by
  rcases grants with rfl | ⟨ids, grantee, plan, subscriptionId, now, nowMem, rfl⟩
  · exact started.mono le
  · rcases between now nowMem with ⟨clockLe, nowLe⟩
    exact (startedBy_granted (started.mono clockLe)).mono nowLe

variable [UnicodeData] {moment : Moment} {call : AccessCall}

omit [UnicodeData] in
theorem le_getLastD_of_pairwise {first : Instant} {rest : List Instant}
    (sorted : (first :: rest).Pairwise (· ≤ ·)) :
    first ≤ rest.getLastD first ∧ ∀ now ∈ rest, now ≤ rest.getLastD first := by
  induction rest generalizing first with
  | nil => simp
  | cons second rest ih =>
      rcases List.pairwise_cons.mp sorted with ⟨firstLe, sortedRest⟩
      rcases ih sortedRest with ⟨secondLe, restLe⟩
      rw [List.getLastD_cons]
      refine ⟨(firstLe second (by simp)).trans secondLe, ?_⟩
      intro now nowMem
      rcases List.mem_cons.mp nowMem with rfl | nowMem
      · exact secondLe
      · exact restLe now nowMem

omit [UnicodeData] in
/-- The readings of a call lie between the clock before it and the last of them. -/
theorem Clocked.between (clocked : Clocked moment call) :
    moment.clock ≤ call.readings.getLastD moment.clock ∧
      ∀ now ∈ call.readings, moment.clock ≤ now ∧ now ≤ call.readings.getLastD moment.clock := by
  rcases le_getLastD_of_pairwise clocked with ⟨le, restLe⟩
  refine ⟨le, fun now nowMem => ⟨?_, restLe now nowMem⟩⟩
  exact (List.pairwise_cons.mp clocked).1 now nowMem

theorem OnePlan.step (onePlan : OnePlan settings moment) (clocked : Clocked moment call) :
    OnePlan settings (accessStep settings moment call) := by
  rcases clocked.between with ⟨le, between⟩
  have grants := after_grantsOnce settings moment.db call
  refine ⟨onePlan.started.of_grantsOnce between le grants, ?_⟩
  intro userId
  rcases onePlan.holds userId with ⟨specs, isPlan, holds⟩
  rcases holds.of_grantsOnce (accessStep settings moment call) onePlan.started between le
    grants with ⟨later, rfl | laterIsPlan, laterHolds⟩
  · exact ⟨later, isPlan, laterHolds⟩
  · exact ⟨later, Or.inr laterIsPlan, laterHolds⟩

/-- The user holds a plan. -/
def HoldsPlan (settings : Settings) (userId : UUID) (moment : Moment) : Prop :=
  ∃ specs, IsPlanSpecs settings specs ∧ Holds moment userId specs

theorem HoldsPlan.step (holdsPlan : HoldsPlan settings userId moment)
    (onePlan : OnePlan settings moment) (clocked : Clocked moment call) :
    HoldsPlan settings userId (accessStep settings moment call) := by
  rcases clocked.between with ⟨le, between⟩
  rcases holdsPlan with ⟨specs, isPlan, holds⟩
  rcases holds.of_grantsOnce (accessStep settings moment call) onePlan.started between le
    (after_grantsOnce settings moment.db call) with ⟨later, rfl | laterIsPlan, laterHolds⟩
  · exact ⟨later, isPlan, laterHolds⟩
  · exact ⟨later, laterIsPlan, laterHolds⟩

omit [UnicodeData] in
/-- Who has active entitlements once holds a plan. -/
theorem OnePlan.holdsPlan_of_ne_nil (onePlan : OnePlan settings moment) {instant : Instant}
    (le : moment.clock ≤ instant)
    (active : activeSpecs moment.db.val.entitlements userId instant ≠ []) :
    HoldsPlan settings userId moment := by
  rcases onePlan.holds userId with ⟨specs, rfl | isPlan, holds⟩
  · exact absurd (holds instant le).eq_nil active
  · exact ⟨specs, isPlan, holds⟩

omit [UnicodeData] in
theorem HoldsPlan.ne_nil (holdsPlan : HoldsPlan settings userId moment) {instant : Instant}
    (le : moment.clock ≤ instant) :
    activeSpecs moment.db.val.entitlements userId instant ≠ [] := by
  rcases holdsPlan with ⟨specs, isPlan, holds⟩
  intro none
  have perm := holds instant le
  rw [none] at perm
  exact isPlan.ne_nil perm.nil_eq.symm

/-- The baseline of the call for the user has not raised. -/
def Serves (settings : Settings) (db : Database) (userId : UUID) (call : AccessCall) : Prop :=
  ∃ ids times, call.access = some (ids, times, userId) ∧
    (ensureUserAccessBaseline settings db ids times userId).2 = .ok ()

/-- Who has been served holds a plan. -/
theorem OnePlan.holdsPlan_of_serves (onePlan : OnePlan settings moment)
    (clocked : Clocked moment call) (serves : Serves settings moment.db userId call) :
    HoldsPlan settings userId (accessStep settings moment call) := by
  rcases clocked.between with ⟨le, between⟩
  rcases serves with ⟨ids, times, accesses, done⟩
  rcases entitlements_after_of_access settings moment.db accesses with
    ⟨⟨listedMem, appliedMem⟩, sameEntitlements⟩
  have plannedSame := entitlements_planned settings moment.db ids
  rcases ensureUserAccessBaseline_cases settings moment.db ids times userId with
    ⟨error, raises⟩ | ⟨finds, active⟩ | ⟨applied, grants, -, plan, -, tables⟩
  · rw [raises] at done
    exact absurd done (by simp)
  · rw [plannedSame] at active
    have held : HoldsPlan settings userId moment := by
      apply onePlan.holdsPlan_of_ne_nil (between _ listedMem).1
      exact fun none => active (List.map_eq_nil_iff.mp none)
    exact held.step onePlan clocked
  · refine ⟨_, isPlanSpecs_entitlementsForPlan settings plan.code, ?_⟩
    intro instant instantLe
    have granting : (accessStep settings moment call).db.val.entitlements =
        granted settings moment.db.val.entitlements ids.entitlement userId plan none
          times.appliedAt := by
      rw [← plannedSame, accessStep, sameEntitlements, baseline, grants, tables]
    rw [granting]
    apply activeSpecs_granted (onePlan.started.mono (between _ appliedMem).1)
    exact (between _ appliedMem).2.trans instantLe

end Steps

/-- In every history by a clock that does not go back, each user has at every later instant no
entitlements or those of one plan, each feature once, and never again none. -/
theorem onePlan_calls [UnicodeData] (settings : Settings) (start : Moment)
    (unseen : start.db.val.entitlements = []) (calls : List AccessCall)
    (clocked : Along (accessStep settings) Clocked start calls) :
    (∀ visited ∈ states (accessStep settings) start calls,
      ∀ userId instant, visited.clock ≤ instant →
        let specs := activeSpecs visited.db.val.entitlements userId instant
        (specs = [] ∨ specs.Perm settings.freeEntitlements ∨
          specs.Perm settings.proEntitlements) ∧ (specs.map (·.featureKey)).Nodup) ∧
    (∀ earlier later rest, calls = earlier ++ later ++ rest →
      let first := run (accessStep settings) start earlier
      let second := run (accessStep settings) start (earlier ++ later)
      ∀ userId instant laterInstant, first.clock ≤ instant → second.clock ≤ laterInstant →
        activeSpecs first.db.val.entitlements userId instant ≠ [] →
          activeSpecs second.db.val.entitlements userId laterInstant ≠ []) ∧
    ∀ earlier call rest, calls = earlier ++ call :: rest →
      let before := run (accessStep settings) start earlier
      let after := accessStep settings before call
      ∀ userId instant, Serves settings before.db userId call → after.clock ≤ instant →
        activeSpecs after.db.val.entitlements userId instant ≠ [] := by
  have initially : OnePlan settings start := by
    refine ⟨?_, fun userId => ⟨[], Or.inl rfl, ?_⟩⟩
    · intro entitlement mem
      rw [unseen] at mem
      exact absurd mem List.not_mem_nil
    · intro instant _
      rw [unseen]
      exact List.Perm.nil
  have preserved : ∀ moment call, OnePlan settings moment → Clocked moment call →
      OnePlan settings (accessStep settings moment call) :=
    fun moment call onePlan met => onePlan.step met
  refine ⟨?_, ?_, ?_⟩
  · intro visited visitedMem userId instant instantLe
    have onePlan := invariant_states_of_along preserved initially clocked visited visitedMem
    rcases onePlan.holds userId with ⟨specs, isPlan, holds⟩
    have perm := holds instant instantLe
    refine ⟨?_, ?_⟩
    · rcases isPlan with rfl | rfl | rfl
      · exact Or.inl perm.eq_nil
      · exact Or.inr (Or.inl perm)
      · exact Or.inr (Or.inr perm)
    · rw [(perm.map (·.featureKey)).nodup_iff]
      rcases isPlan with rfl | isPlan
      · exact List.nodup_nil
      · exact isPlan.nodup
  · intro earlier later rest split first second userId instant laterInstant firstLe secondLe active
    rw [split, along_append, along_append] at clocked
    have onePlan : OnePlan settings first := invariant_run_of_along preserved initially clocked.1.1
    have held : ∀ visited ∈ states (accessStep settings) first later,
        OnePlan settings visited ∧ HoldsPlan settings userId visited := by
      refine invariant_states_of_along ?_ ⟨onePlan, ?_⟩ clocked.1.2
      · intro moment call invariant met
        exact ⟨invariant.1.step met, invariant.2.step invariant.1 met⟩
      · exact onePlan.holdsPlan_of_ne_nil firstLe active
    have reached : second = run (accessStep settings) first later := run_append _ _ _
    rw [reached] at secondLe ⊢
    exact (held _ (run_mem_states first later)).2.ne_nil secondLe
  · intro earlier call rest split before after userId instant serves instantLe
    rw [split, along_append, along_cons] at clocked
    have onePlan : OnePlan settings before := invariant_run_of_along preserved initially clocked.1
    exact (onePlan.holdsPlan_of_serves clocked.2.1 serves).ne_nil instantLe

section Samples

local instance onePlanUnicodeData : UnicodeData := UnicodeData.ascii

def sampleAccessCalls : List AccessCall :=
  [.ensureUserAccessBaseline ⟨100, 101, fun index => Fin.ofNat _ (1000 + index)⟩ ⟨1, 1⟩ 1,
    .processStripeWebhook (sampleUpdate 2 "sub_a" "active")]

def sampleAccessEnd : Moment :=
  run (accessStep sampleSettings) ⟨sampleDatabase, 0⟩ sampleAccessCalls

theorem onePlan_calls_sample :
    let specs := activeSpecs sampleAccessEnd.db.val.entitlements 1 5
    (specs = [] ∨ specs.Perm sampleSettings.freeEntitlements ∨
      specs.Perm sampleSettings.proEntitlements) ∧ (specs.map (·.featureKey)).Nodup := by
  have clocked : Along (accessStep sampleSettings) Clocked ⟨sampleDatabase, 0⟩
      sampleAccessCalls := by
    rw [sampleAccessCalls, along_cons, along_cons, along_nil]
    decide +kernel
  exact (onePlan_calls sampleSettings ⟨sampleDatabase, 0⟩ rfl sampleAccessCalls clocked).1 _
    (run_mem_states _ _) 1 5 (by decide +kernel)

end Samples

end ImigrAI.Billing
