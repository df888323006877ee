import ImigrAI.Billing.Access
import ImigrAI.Billing.WebhookEffects

/-!
# What access calls change

The baseline grants the Free plan to a user without active entitlements; the quota raises one
usage counter by one.
-/

namespace ImigrAI.Billing

open Python Fallible Rows

variable {settings : Settings} {db after : Database} {ids : AccessIds} {userId : UUID}

/-- The baseline has granted the Free plan to a user without active entitlements. -/
def GrantsBaseline (settings : Settings) (ids : AccessIds) (times : BaselineTimes) (userId : UUID)
    (before after : Tables) : Prop :=
  listActiveEntitlements before.entitlements userId times.listedAt = [] ∧
    ∃ plan, plan.code = settings.freePlanCode ∧ after = { before with
      entitlements :=
        granted settings before.entitlements ids.entitlement userId plan none times.appliedAt }

/-- The baseline raises, finds active entitlements, or grants the Free plan. -/
theorem ensureUserAccessBaseline_cases (settings : Settings) (db : Database) (ids : AccessIds)
    (times : BaselineTimes) (userId : UUID) :
    (∃ error, ensureUserAccessBaseline settings db ids times userId =
      (planned settings db ids, .error error)) ∨
    (ensureUserAccessBaseline settings db ids times userId = (planned settings db ids, .ok ()) ∧
      listActiveEntitlements (planned settings db ids).val.entitlements userId times.listedAt ≠
        []) ∨
    ∃ applied, ensureUserAccessBaseline settings db ids times userId = (applied, .ok ()) ∧
      GrantsBaseline settings ids times userId (planned settings db ids).val applied.val := by
  rcases planning : ensureDefaultPlans settings db ids with ⟨plans, result⟩
  simp only [ensureUserAccessBaseline, planned, planning]
  cases result with
  | error error => exact Or.inl ⟨_, rfl⟩
  | ok done =>
      dsimp only
      by_cases active : listActiveEntitlements plans.val.entitlements userId times.listedAt = []
      · rw [if_neg (not_not.mpr active)]
        cases lookup : getPlanByCode plans.val settings.freePlanCode with
        | none => exact Or.inl ⟨_, rfl⟩
        | some freePlan =>
            dsimp only
            split
            · exact Or.inl ⟨_, rfl⟩
            · next applied applying =>
                refine Or.inr (Or.inr ⟨applied, rfl, active, freePlan, ?_, ?_⟩)
                · exact (getPlanByCode_eq_some lookup).2.1
                · exact applyPlanEntitlements_eq_ok applying
      · rw [if_pos active]
        exact Or.inr (Or.inl ⟨rfl, active⟩)

/-- The baseline changes plans and entitlements only. -/
theorem ensureUserAccessBaseline_rest (settings : Settings) (db : Database) (ids : AccessIds)
    (times : BaselineTimes) (userId : UUID) :
    ∃ plans entitlements, (ensureUserAccessBaseline settings db ids times userId).1.val =
      { db.val with plans := plans, entitlements := entitlements } := by
  rcases (ensureDefaultPlans_extends settings db ids).1 with ⟨plans, extended⟩
  rcases ensureUserAccessBaseline_cases settings db ids times userId with
    ⟨error, raises⟩ | ⟨finds, -⟩ | ⟨applied, grants, -, plan, -, tables⟩
  · exact ⟨plans, db.val.entitlements, by rw [raises, planned, extended]⟩
  · exact ⟨plans, db.val.entitlements, by rw [finds, planned, extended]⟩
  · exact ⟨plans, applied.val.entitlements, by rw [grants, tables, planned, extended]⟩

/-- The used count of a month; no counter counts as zero. -/
def usedCount (counters : List UsageCounter) (userId : UUID) (featureKey : String)
    (windowStart : Instant) : ℤ :=
  match findUsageCounter counters userId featureKey windowStart with
  | some counter => counter.usedCount
  | none => 0

section Usage

variable {featureKey : String} {windowStart : Instant} {counter : UsageCounter}

/-- The counter is the one of this user, feature and month. -/
def UsageCounter.IsFor (userId : UUID) (featureKey : String) (windowStart : Instant)
    (counter : UsageCounter) : Prop :=
  counter.userId = userId ∧ counter.featureKey = featureKey ∧ counter.windowStart = windowStart

theorem findUsageCounter_eq_some {counters : List UsageCounter}
    (found : findUsageCounter counters userId featureKey windowStart = some counter) :
    counter ∈ counters ∧ counter.IsFor userId featureKey windowStart := by
  have selected := List.find?_some found
  rw [decide_eq_true_eq] at selected
  exact ⟨List.mem_of_find?_eq_some found, selected⟩

theorem usedCount_of_mem (mem : counter ∈ db.val.usageCounters)
    (isFor : counter.IsFor userId featureKey windowStart) :
    usedCount db.val.usageCounters userId featureKey windowStart = counter.usedCount := by
  unfold usedCount
  split
  · next other found =>
      rcases findUsageCounter_eq_some found with ⟨otherMem, otherFor⟩
      have sameWindow : (other.userId, other.featureKey, other.windowStart) =
          (counter.userId, counter.featureKey, counter.windowStart) := by
        rw [otherFor.1, otherFor.2.1, otherFor.2.2, isFor.1, isFor.2.1, isFor.2.2]
      rw [List.inj_on_of_nodup_map db.property.2.counterWindows otherMem mem sameWindow]
  · next missing =>
      have none := List.find?_eq_none.mp missing counter mem
      exact absurd isFor (by simpa [UsageCounter.IsFor] using none)

theorem usedCount_of_forall_not {counters : List UsageCounter}
    (none : ∀ counter ∈ counters, ¬ counter.IsFor userId featureKey windowStart) :
    usedCount counters userId featureKey windowStart = 0 := by
  unfold usedCount
  split
  · next counter found =>
      rcases findUsageCounter_eq_some found with ⟨mem, isFor⟩
      exact absurd isFor (none counter mem)
  · rfl

/-- Two stores with the same counters for a key, or none, have the same count. -/
theorem usedCount_congr
    (same : ∀ counter, counter.IsFor userId featureKey windowStart →
      (counter ∈ after.val.usageCounters ↔ counter ∈ db.val.usageCounters)) :
    usedCount after.val.usageCounters userId featureKey windowStart =
      usedCount db.val.usageCounters userId featureKey windowStart := by
  by_cases stored : ∃ counter ∈ db.val.usageCounters,
      counter.IsFor userId featureKey windowStart
  · rcases stored with ⟨counter, mem, isFor⟩
    rw [usedCount_of_mem mem isFor, usedCount_of_mem ((same counter isFor).mpr mem) isFor]
  · have none : ∀ counter ∈ db.val.usageCounters,
        ¬ counter.IsFor userId featureKey windowStart :=
      fun counter mem isFor => stored ⟨counter, mem, isFor⟩
    rw [usedCount_of_forall_not none]
    apply usedCount_of_forall_not
    intro counter mem isFor
    exact none counter ((same counter isFor).mp mem) isFor

end Usage

/-- The quota of the month is raised by one, and no other one is changed. -/
structure RaisesUsage (userId : UUID) (featureKey : String) (windowStart : Instant)
    (before after : List UsageCounter) : Prop where
  raised : usedCount after userId featureKey windowStart =
    usedCount before userId featureKey windowStart + 1
  others : ∀ otherUser otherFeature otherStart,
    (otherUser, otherFeature, otherStart) ≠ (userId, featureKey, windowStart) →
      usedCount after otherUser otherFeature otherStart =
        usedCount before otherUser otherFeature otherStart

theorem forall_not_isFor_of_findUsageCounter {counters : List UsageCounter} {featureKey : String}
    {windowStart : Instant}
    (missing : findUsageCounter counters userId featureKey windowStart = none) :
    ∀ counter ∈ counters, ¬ counter.IsFor userId featureKey windowStart := by
  intro counter mem isFor
  have none := List.find?_eq_none.mp missing counter mem
  exact absurd isFor (by simpa [UsageCounter.IsFor] using none)

theorem consistent_addCounter (db : Database) (counter : UsageCounter)
    (userMem : counter.userId ∈ db.val.users)
    (idFree : counter.id ∉ db.val.usageCounters.map (·.id))
    (windowFree : ∀ other ∈ db.val.usageCounters,
      ¬ other.IsFor counter.userId counter.featureKey counter.windowStart) :
    Consistent { db.val with usageCounters := db.val.usageCounters ++ [counter] } := by
  refine ⟨⟨db.property.1.1, db.property.1.2, db.property.1.3, db.property.1.4, db.property.1.5,
    db.property.1.6, db.property.1.7⟩, { db.property.2 with
      counterIds := ?_, counterWindows := ?_, counterUsers := ?_ }⟩
  · exact nodup_map_append_singleton.mpr ⟨idFree, db.property.2.counterIds⟩
  · refine nodup_map_append_singleton.mpr ⟨?_, db.property.2.counterWindows⟩
    intro taken
    rcases List.mem_map.mp taken with ⟨other, mem, same⟩
    simp only [Prod.mk.injEq] at same
    exact windowFree other mem same
  · intro other mem
    rcases List.mem_append.mp mem with old | new
    · exact db.property.2.counterUsers other old
    · rw [List.mem_singleton.mp new]
      exact userMem

theorem consistent_replaceCounter {counter : UsageCounter} (mem : counter ∈ db.val.usageCounters)
    (usedCount : ℤ) :
    Consistent { db.val with
      usageCounters :=
        replaceRow (·.id) { counter with usedCount := usedCount } db.val.usageCounters } := by
  have same : ∀ old ∈ db.val.usageCounters, old.id = counter.id → old = counter :=
    fun old oldMem sameId =>
      List.inj_on_of_nodup_map db.property.2.counterIds oldMem mem sameId
  have columns : ∀ {Column : Type} (column : UsageCounter → Column),
      (∀ row : UsageCounter, column { row with usedCount := usedCount } = column row) →
      (replaceRow (·.id) { counter with usedCount := usedCount } db.val.usageCounters).map column =
        db.val.usageCounters.map column := by
    intro Column column ignores
    apply map_replaceRow
    intro old oldMem sameId
    rw [same old oldMem sameId, ignores]
  refine ⟨⟨db.property.1.1, db.property.1.2, db.property.1.3, db.property.1.4, db.property.1.5,
    db.property.1.6, db.property.1.7⟩, { db.property.2 with
      counterIds := ?_, counterWindows := ?_, counterUsers := ?_ }⟩
  · rw [columns (·.id) fun _ => rfl]
    exact db.property.2.counterIds
  · rw [columns (fun row => (row.userId, row.featureKey, row.windowStart)) fun _ => rfl]
    exact db.property.2.counterWindows
  · intro other otherMem
    rcases of_mem_replaceRow otherMem with rfl | ⟨old, -⟩
    · exact db.property.2.counterUsers counter mem
    · exact db.property.2.counterUsers other old

section Counting

variable {featureKey : String} {windowStart windowEnd : Instant} {counterId : UUID}
  {counter : UsageCounter}

/-- A new counter starts with the count that no counter has. -/
theorem getOrCreateUsageCounter_eq_ok
    (done : getOrCreateUsageCounter db counterId userId featureKey windowStart windowEnd =
      .ok (after, counter)) :
    counter ∈ after.val.usageCounters ∧ counter.IsFor userId featureKey windowStart ∧
      (∃ counters, after.val = { db.val with usageCounters := counters }) ∧
      ∀ otherUser otherFeature otherStart,
        usedCount after.val.usageCounters otherUser otherFeature otherStart =
          usedCount db.val.usageCounters otherUser otherFeature otherStart := by
  unfold getOrCreateUsageCounter at done
  split at done
  · next existing found =>
      cases done
      rcases findUsageCounter_eq_some found with ⟨mem, isFor⟩
      exact ⟨mem, isFor, ⟨_, rfl⟩, fun _ _ _ => rfl⟩
  · next missing =>
      rcases bind_eq_ok_iff.mp done with ⟨created, creating, done⟩
      cases done
      have tables := ensure_eq_ok_iff.mp creating
      have counters : after.val.usageCounters = db.val.usageCounters ++
          [⟨counterId, userId, featureKey, windowStart, windowEnd, 0⟩] := by rw [tables]
      have newMem : (⟨counterId, userId, featureKey, windowStart, windowEnd, 0⟩ : UsageCounter) ∈
          after.val.usageCounters := by simp [counters]
      refine ⟨newMem, ⟨rfl, rfl, rfl⟩, ⟨_, tables⟩, ?_⟩
      intro otherUser otherFeature otherStart
      by_cases isFor : UsageCounter.IsFor otherUser otherFeature otherStart
          ⟨counterId, userId, featureKey, windowStart, windowEnd, 0⟩
      · rw [usedCount_of_mem newMem isFor]
        symm
        apply usedCount_of_forall_not
        rcases isFor with ⟨rfl, rfl, rfl⟩
        intro old oldMem oldFor
        have none := List.find?_eq_none.mp missing old oldMem
        exact absurd oldFor (by simpa [UsageCounter.IsFor] using none)
      · apply usedCount_congr
        intro old oldFor
        rw [counters, List.mem_append, List.mem_singleton]
        constructor
        · rintro (oldMem | rfl)
          · exact oldMem
          · exact absurd oldFor isFor
        · exact Or.inl

/-- A counter that is raised is the only one that changes. -/
theorem raisesUsage_of_replaceRow (mem : counter ∈ db.val.usageCounters)
    (isFor : counter.IsFor userId featureKey windowStart)
    (counters : after.val.usageCounters =
      replaceRow (·.id) { counter with usedCount := counter.usedCount + 1 }
        db.val.usageCounters) :
    RaisesUsage userId featureKey windowStart db.val.usageCounters after.val.usageCounters := by
  have raisedMem : { counter with usedCount := counter.usedCount + 1 } ∈
      after.val.usageCounters := by
    rw [counters]
    exact self_mem_replaceRow _ _ mem rfl
  constructor
  · rw [usedCount_of_mem raisedMem isFor, usedCount_of_mem mem isFor]
  · intro otherUser otherFeature otherStart different
    apply usedCount_congr
    intro other otherFor
    have otherKey : (other.userId, other.featureKey, other.windowStart) ≠
        (counter.userId, counter.featureKey, counter.windowStart) := by
      rw [otherFor.1, otherFor.2.1, otherFor.2.2, isFor.1, isFor.2.1, isFor.2.2]
      exact different
    rw [counters]
    constructor
    · intro otherMem
      rcases of_mem_replaceRow otherMem with rfl | ⟨old, -⟩
      · exact absurd rfl otherKey
      · exact old
    · intro old
      apply mem_replaceRow_of_ne old
      intro sameId
      rw [List.inj_on_of_nodup_map db.property.2.counterIds old mem sameId] at otherKey
      exact otherKey rfl

/-- A unit of the quota is left: the month can be built, its count is below the limit, and there
is a counter or a free id for one. -/
def HasQuota (settings : Settings) (counters : List UsageCounter) (counterId userId : UUID)
    (limit : ℤ) (now : Instant) : Prop :=
  ∃ windowStart windowEnd, currentMonthWindow now = .ok (windowStart, windowEnd) ∧
    usedCount counters userId settings.assessmentFeatureKey windowStart < limit ∧
    ((findUsageCounter counters userId settings.assessmentFeatureKey windowStart).isSome ∨
      counterId ∉ counters.map (·.id))

variable {limit : ℤ} {now : Instant}

theorem countUsage_eq_ok (done : countUsage settings db counterId userId limit now = .ok after) :
    ∃ windowStart windowEnd, currentMonthWindow now = .ok (windowStart, windowEnd) ∧
      usedCount db.val.usageCounters userId settings.assessmentFeatureKey windowStart < limit ∧
      (∃ counters, after.val = { db.val with usageCounters := counters }) ∧
      RaisesUsage userId settings.assessmentFeatureKey windowStart db.val.usageCounters
        after.val.usageCounters := by
  rcases bind_eq_ok_iff.mp done with ⟨⟨windowStart, windowEnd⟩, month, done⟩
  rcases bind_eq_ok_iff.mp done with ⟨⟨created, counter⟩, creating, done⟩
  rw [mapError_eq_ok_iff] at month creating
  rcases getOrCreateUsageCounter_eq_ok creating with ⟨mem, isFor, ⟨counters, tables⟩, sameCounts⟩
  dsimp only at done
  split_ifs at done with reached
  rw [mapError_eq_ok_iff, flush, ensure_eq_ok_iff] at done
  have replaced : after.val.usageCounters = replaceRow (·.id)
      { counter with usedCount := counter.usedCount + 1 } created.val.usageCounters := by
    rw [done]
  have raises := raisesUsage_of_replaceRow mem isFor replaced
  refine ⟨windowStart, windowEnd, month, ?_, ⟨after.val.usageCounters, ?_⟩, ⟨?_, ?_⟩⟩
  · rw [← sameCounts, usedCount_of_mem mem isFor]
    exact not_le.mp reached
  · rw [done, tables]
  · rw [raises.raised, sameCounts]
  · intro otherUser otherFeature otherStart different
    rw [raises.others _ _ _ different, sameCounts]

theorem hasQuota_of_countUsage
    (done : countUsage settings db counterId userId limit now = .ok after) :
    HasQuota settings db.val.usageCounters counterId userId limit now := by
  rcases countUsage_eq_ok done with ⟨windowStart, windowEnd, month, below, -⟩
  refine ⟨windowStart, windowEnd, month, below, ?_⟩
  cases found : findUsageCounter db.val.usageCounters userId settings.assessmentFeatureKey
    windowStart with
  | some counter => exact Or.inl rfl
  | none =>
      rcases bind_eq_ok_iff.mp done with ⟨_, month', done⟩
      rcases bind_eq_ok_iff.mp done with ⟨⟨created, counter⟩, creating, -⟩
      rw [mapError_eq_ok_iff, month] at month'
      cases month'
      simp only [getOrCreateUsageCounter, found] at creating
      rw [mapError_eq_ok_iff] at creating
      rcases bind_eq_ok_iff.mp creating with ⟨stored, storing, -⟩
      have unique := stored.property.2.counterIds
      rw [ensure_eq_ok_iff.mp storing] at unique
      exact Or.inr (nodup_map_append_singleton.mp unique).1

/-- With a unit left the count succeeds. -/
theorem exists_countUsage_eq_ok (userMem : userId ∈ db.val.users)
    (quota : HasQuota settings db.val.usageCounters counterId userId limit now) :
    ∃ after, countUsage settings db counterId userId limit now = .ok after := by
  rcases quota with ⟨windowStart, windowEnd, month, below, available⟩
  have creates : ∃ created counter, getOrCreateUsageCounter db counterId userId
      settings.assessmentFeatureKey windowStart windowEnd = .ok (created, counter) := by
    unfold getOrCreateUsageCounter
    cases found : findUsageCounter db.val.usageCounters userId settings.assessmentFeatureKey
      windowStart with
    | some counter => exact ⟨db, counter, rfl⟩
    | none =>
        have idFree := available.resolve_left (by simp [found])
        have consistent := consistent_addCounter db
          ⟨counterId, userId, settings.assessmentFeatureKey, windowStart, windowEnd, 0⟩
          userMem idFree (forall_not_isFor_of_findUsageCounter found)
        refine ⟨⟨_, consistent⟩,
          ⟨counterId, userId, settings.assessmentFeatureKey, windowStart, windowEnd, 0⟩, ?_⟩
        simp only [flush, ensure_of_met consistent, bind, Except.bind]
  rcases creates with ⟨created, counter, creating⟩
  rcases getOrCreateUsageCounter_eq_ok creating with ⟨mem, isFor, -, sameCounts⟩
  have notReached : ¬ limit ≤ counter.usedCount := by
    rw [not_le, ← usedCount_of_mem mem isFor, sameCounts]
    exact below
  have consistent := consistent_replaceCounter mem (counter.usedCount + 1)
  refine ⟨⟨_, consistent⟩, ?_⟩
  simp only [countUsage, month, creating, Except.mapError, bind, Except.bind]
  rw [if_neg notReached, flush, ensure_of_met consistent]

end Counting

theorem getActiveEntitlement_eq_some {entitlements : List Entitlement} {featureKey : String}
    {instant : Instant} {entitlement : Entitlement}
    (found : getActiveEntitlement entitlements userId featureKey instant = some entitlement) :
    entitlement ∈ entitlements ∧ entitlement.userId = userId := by
  rcases List.mem_filter.mp (Sorting.mem_of_head?_sortBy found) with ⟨mem, selected⟩
  rw [decide_eq_true_eq] at selected
  exact ⟨mem, selected.1⟩

section Consuming

variable {counterId : UUID} {times : QuotaTimes}

/-- The database after the baseline. -/
def baseline (settings : Settings) (db : Database) (ids : AccessIds) (times : BaselineTimes)
    (userId : UUID) : Database :=
  (ensureUserAccessBaseline settings db ids times userId).1

/-- The limit of the entitlement that the quota is consumed under. -/
def limitInForce (settings : Settings) (db : Database) (ids : AccessIds) (times : QuotaTimes)
    (userId : UUID) : Option ℤ :=
  match ensureUserAccessBaseline settings db ids times.toBaselineTimes userId with
  | (_, .error _) => none
  | (baseline, .ok ()) => (getActiveEntitlement baseline.val.entitlements userId
      settings.assessmentFeatureKey times.checkedAt).bind (·.limitValue)

/-- A quota that is consumed counts under a limit, and leaves the counters alone without one; a
quota that is refused leaves what the baseline has left. -/
theorem consumeAssessmentQuota_cases (settings : Settings) (db : Database) (ids : AccessIds)
    (counterId : UUID) (times : QuotaTimes) (userId : UUID) :
    ∃ committed result,
      consumeAssessmentQuota settings db ids counterId times userId = (committed, result) ∧
        match result with
        | .error _ => committed = baseline settings db ids times.toBaselineTimes userId
        | .ok _ =>
            match limitInForce settings db ids times userId with
            | none => committed = baseline settings db ids times.toBaselineTimes userId
            | some limit => countUsage settings (baseline settings db ids times.toBaselineTimes userId)
                counterId userId limit times.countedAt = .ok committed := by
  refine ⟨_, _, rfl, ?_⟩
  rcases granting : ensureUserAccessBaseline settings db ids times.toBaselineTimes userId with
    ⟨granted, result⟩
  simp only [limitInForce, baseline, granting]
  cases result with
  | error error => rfl
  | ok done =>
      dsimp only
      cases lookup : getActiveEntitlement granted.val.entitlements userId
        settings.assessmentFeatureKey times.checkedAt with
      | none => rfl
      | some entitlement =>
          dsimp only [Option.bind_some]
          cases limited : entitlement.limitValue with
          | none => rfl
          | some limit =>
              dsimp only
              cases counting : countUsage settings granted counterId userId limit
                times.countedAt with
              | error error => rfl
              | ok counted => rfl

theorem hasPriorityProcessing_fst (settings : Settings) (db : Database) (ids : AccessIds)
    (times : BaselineTimes) (checkedAt : Instant) (userId : UUID) :
    (hasPriorityProcessing settings db ids times checkedAt userId).1 =
      baseline settings db ids times userId := by
  unfold hasPriorityProcessing baseline
  split <;> simp_all

theorem usageCounters_baseline (times : BaselineTimes) :
    (baseline settings db ids times userId).val.usageCounters = db.val.usageCounters := by
  rcases ensureUserAccessBaseline_rest settings db ids times userId with ⟨_, _, tables⟩
  rw [baseline, tables]

theorem userMem_of_getActiveEntitlement {featureKey : String} {instant : Instant}
    {entitlement : Entitlement}
    (found : getActiveEntitlement db.val.entitlements userId featureKey instant =
      some entitlement) : userId ∈ db.val.users := by
  rcases getActiveEntitlement_eq_some found with ⟨mem, ofUser⟩
  rw [← ofUser]
  exact db.property.2.entitlementUsers entitlement mem

/-- Who has a limit exists. -/
theorem userMem_of_limitInForce {limit : ℤ}
    (limited : limitInForce settings db ids times userId = some limit) :
    userId ∈ db.val.users := by
  rcases ensureUserAccessBaseline_rest settings db ids times.toBaselineTimes userId with
    ⟨plans, entitlements, tables⟩
  rcases granting : ensureUserAccessBaseline settings db ids times.toBaselineTimes userId with
    ⟨granted, result⟩
  simp only [limitInForce, granting] at limited tables
  cases result with
  | error error => exact absurd limited (by simp)
  | ok done =>
      rcases Option.bind_eq_some_iff.mp limited with ⟨entitlement, lookup, -⟩
      have userMem := userMem_of_getActiveEntitlement lookup
      rwa [tables] at userMem

/-- After the baseline the quota changes counters only. -/
theorem consumeAssessmentQuota_rest (settings : Settings) (db : Database) (ids : AccessIds)
    (counterId : UUID) (times : QuotaTimes) (userId : UUID) :
    ∃ counters, (consumeAssessmentQuota settings db ids counterId times userId).1.val =
      { (baseline settings db ids times.toBaselineTimes userId).val with
        usageCounters := counters } := by
  rcases consumeAssessmentQuota_cases settings db ids counterId times userId with
    ⟨committed, result, consumes, spec⟩
  rw [consumes]
  cases result with
  | error error => exact ⟨committed.val.usageCounters, by rw [spec]⟩
  | ok priority =>
      cases limited : limitInForce settings db ids times userId with
      | none =>
          rw [limited] at spec
          exact ⟨committed.val.usageCounters, by rw [spec]⟩
      | some limit =>
          rw [limited] at spec
          rcases countUsage_eq_ok spec with ⟨_, _, -, -, rest, -⟩
          exact rest

theorem users_consumeAssessmentQuota (settings : Settings) (db : Database) (ids : AccessIds)
    (counterId : UUID) (times : QuotaTimes) (userId : UUID) :
    (consumeAssessmentQuota settings db ids counterId times userId).1.val.users =
      db.val.users := by
  rcases consumeAssessmentQuota_rest settings db ids counterId times userId with ⟨_, quota⟩
  rcases ensureUserAccessBaseline_rest settings db ids times.toBaselineTimes userId with
    ⟨_, _, tables⟩
  rw [quota, baseline, tables]

/-- Under a limit the quota is consumed exactly if a unit of it is left. -/
theorem isOk_consumeAssessmentQuota_iff {limit : ℤ} (counterId : UUID)
    (limited : limitInForce settings db ids times userId = some limit) :
    (∃ committed priority,
      consumeAssessmentQuota settings db ids counterId times userId = (committed, .ok priority)) ↔
      HasQuota settings (baseline settings db ids times.toBaselineTimes userId).val.usageCounters
        counterId userId limit times.countedAt := by
  constructor
  · rintro ⟨committed, priority, consumes⟩
    rcases consumeAssessmentQuota_cases settings db ids counterId times userId with
      ⟨committed, result, consumed, spec⟩
    cases consumes.symm.trans consumed
    dsimp only at spec
    rw [limited] at spec
    exact hasQuota_of_countUsage spec
  · intro quota
    rcases granting : ensureUserAccessBaseline settings db ids times.toBaselineTimes userId with
      ⟨granted, result⟩
    simp only [limitInForce, baseline, granting] at limited quota
    cases result with
    | error error => exact absurd limited (by simp)
    | ok done =>
        rcases Option.bind_eq_some_iff.mp limited with ⟨entitlement, lookup, limited⟩
        have userMem := userMem_of_getActiveEntitlement lookup
        rcases exists_countUsage_eq_ok userMem quota with ⟨counted, counting⟩
        refine ⟨counted, (getActiveEntitlement counted.val.entitlements userId
          settings.processingPriorityFeatureKey times.priorityAt).isSome, ?_⟩
        simp only [consumeAssessmentQuota, granting, lookup, limited, counting]

end Consuming

end ImigrAI.Billing
