import ImigrAI.Assessments.CreationEffects
import ImigrAI.Assessments.Score

/-!
# Charging for an assessment

The quota is committed before the snapshot and the assessment are written. A call with a new
key is charged exactly for what it stores if the constraints admit its rows, or if the quota
refuses it before.
-/

namespace ImigrAI.Assessments.Creation

open Python
open Billing (Settings UsageCounter AccessIds HasQuota limitInForce usedCount baseline
  consumeAssessmentQuota consumeAssessmentQuota_cases isOk_consumeAssessmentQuota_iff
  usageCounters_baseline currentMonthWindow countUsage_eq_ok
  users_consumeAssessmentQuota userMem_of_limitInForce)

/-- The used count of the month of an instant. -/
def usedInMonthOf (settings : Settings) (counters : List UsageCounter) (userId : UUID)
    (now : Instant) : ℤ :=
  match currentMonthWindow now with
  | .ok (windowStart, _) => usedCount counters userId settings.assessmentFeatureKey windowStart
  | .error _ => 0

section Charging

variable [Hashlib]

/-- The call has raised the count of its month by one. -/
def Charged (settings : Settings) (meanwhile : Meanwhile) (db : Database) (call : CreationCall) :
    Prop :=
  usedInMonthOf settings (createAssessment settings meanwhile db call).1.billing.val.usageCounters
      call.userId call.times.countedAt =
    usedInMonthOf settings db.billing.val.usageCounters call.userId call.times.countedAt + 1

/-- The call has added its assessment to those of the other sessions. -/
def Stored (settings : Settings) (meanwhile : Meanwhile) (db : Database) (call : CreationCall) :
    Prop :=
  call.assessment ∈ (createAssessment settings meanwhile db call).1.store.val.assessments ∧
    call.assessment ∉ (meanwhile.untilAssessment db.store).val.assessments

variable {settings : Settings} {meanwhile : Meanwhile} {db : Database} {call : CreationCall}

/-- A call with a new key is refused by the quota, or goes on to store its rows. -/
theorem createAssessment_of_new (settings : Settings) (meanwhile : Meanwhile)
    (isNew : getAssessmentByUserIdempotency db.store.val call.userId call.payload.idempotencyKey =
      none) :
    ∃ committed result, consumeAssessmentQuota settings db.billing call.ids.toAccessIds
        call.ids.counter call.times.toQuotaTimes call.userId = (committed, result) ∧
      (createAssessment settings meanwhile db call).1.billing = committed ∧
      match result with
      | .error _ => (createAssessment settings meanwhile db call).1.store = db.store
      | .ok _ => (createAssessment settings meanwhile db call).1.store.val.assessments =
          (storeAssessment committed.val.users meanwhile db.store call).1.val.assessments := by
  rcases consuming : consumeAssessmentQuota settings db.billing call.ids.toAccessIds
    call.ids.counter call.times.toQuotaTimes call.userId with ⟨committed, result⟩
  refine ⟨committed, result, rfl, ?_⟩
  cases result with
  | error error =>
      simp only [createAssessment, isNew, consuming]
      exact ⟨trivial, trivial⟩
  | ok priority =>
      rcases storing : storeAssessment committed.val.users meanwhile db.store call with
        ⟨stored, outcome⟩
      cases outcome with
      | error error =>
          simp only [createAssessment, isNew, consuming, storing]
          exact ⟨trivial, trivial⟩
      | ok assessment =>
          simp only [createAssessment, isNew, consuming, storing]
          rcases queueAssessment_rest { db with billing := committed, store := stored } call
            assessment priority with ⟨sameBilling, jobs, sameStore⟩
          exact ⟨sameBilling, by rw [sameStore]⟩

/-- The assessment is new in what is committed exactly if its rows can be inserted. -/
theorem stored_iff_insertable {users : List UUID} {store : Store} (userMem : call.userId ∈ users) :
    (call.assessment ∈ (storeAssessment users meanwhile store call).1.val.assessments ∧
      call.assessment ∉ (meanwhile.untilAssessment store).val.assessments) ↔
      Insertable meanwhile store call := by
  constructor
  · rintro ⟨mem, notMem⟩
    rcases storeAssessment_cases users meanwhile store call with
      ⟨insertable, -⟩ | ⟨error, storing⟩
    · exact insertable
    · rw [storing] at mem
      exact absurd mem notMem
  · intro insertable
    have idFree := insertable.assessment.2.1
    refine ⟨?_, fun mem => idFree (List.mem_map_of_mem mem)⟩
    rcases storeAssessment_of_insertable userMem insertable with ⟨stored, storing⟩
    rcases storeAssessment_cases users meanwhile store call with
      ⟨-, _, stores, tables⟩ | ⟨error, fails⟩
    · rw [stores, tables]
      simp [Tables.addAssessment]
    · exact absurd (congrArg Prod.snd (storing.symm.trans fails)) (by simp)

omit [Hashlib] in
/-- A count of the month raises it. -/
theorem usedInMonthOf_of_countUsage {before after : Billing.Database} {counterId userId : UUID}
    {limit : ℤ} {now : Instant}
    (done : Billing.countUsage settings before counterId userId limit now = .ok after) :
    usedInMonthOf settings after.val.usageCounters userId now =
      usedInMonthOf settings before.val.usageCounters userId now + 1 := by
  rcases countUsage_eq_ok done with ⟨windowStart, windowEnd, month, -, -, raises⟩
  simp only [usedInMonthOf, month]
  exact raises.raised

/-- A new assessment under a limit is charged for exactly if it is stored, provided that the
constraints admit what the quota does. -/
theorem charged_iff_stored_iff_insertable {limit : ℤ}
    (isNew : getAssessmentByUserIdempotency db.store.val call.userId call.payload.idempotencyKey =
      none)
    (limited : limitInForce settings db.billing call.ids.toAccessIds call.times.toQuotaTimes
      call.userId = some limit) :
    (Charged settings meanwhile db call ↔ Stored settings meanwhile db call) ↔
      (HasQuota settings db.billing.val.usageCounters call.ids.counter call.userId limit
        call.times.countedAt → Insertable meanwhile db.store call) := by
  rcases createAssessment_of_new settings meanwhile isNew with
    ⟨committed, result, consuming, sameBilling, sameStore⟩
  have quotaIff := isOk_consumeAssessmentQuota_iff call.ids.counter limited
  rw [usageCounters_baseline] at quotaIff
  rcases consumeAssessmentQuota_cases settings db.billing call.ids.toAccessIds call.ids.counter
    call.times.toQuotaTimes call.userId with ⟨_, _, consumed, spec⟩
  cases consuming.symm.trans consumed
  cases result with
  | error error =>
      have refused : ¬ HasQuota settings db.billing.val.usageCounters call.ids.counter call.userId
          limit call.times.countedAt := by
        intro quota
        rcases quotaIff.mpr quota with ⟨_, _, succeeds⟩
        exact absurd (congrArg Prod.snd (consuming.symm.trans succeeds)) (by simp)
      refine iff_of_true (iff_of_false ?_ ?_) fun quota => absurd quota refused
      · unfold Charged
        dsimp only at spec
        rw [sameBilling, spec, usageCounters_baseline]
        omega
      · rintro ⟨mem, -⟩
        dsimp only at sameStore
        rw [sameStore] at mem
        have unmatched := List.find?_eq_none.mp isNew _ mem
        simp [CreationCall.assessment] at unmatched
  | ok priority =>
      dsimp only at spec sameStore
      rw [limited] at spec
      have quota := quotaIff.mp ⟨committed, priority, consuming⟩
      have charged : Charged settings meanwhile db call := by
        unfold Charged
        rw [sameBilling, usedInMonthOf_of_countUsage spec, usageCounters_baseline]
      have storedIff : Stored settings meanwhile db call ↔ Insertable meanwhile db.store call := by
        have userMem : call.userId ∈ committed.val.users := by
          have sameUsers := users_consumeAssessmentQuota settings db.billing call.ids.toAccessIds
            call.ids.counter call.times.toQuotaTimes call.userId
          rw [consuming] at sameUsers
          rw [sameUsers]
          exact userMem_of_limitInForce limited
        unfold Stored
        rw [sameStore]
        exact stored_iff_insertable userMem
      simp only [charged, quota, true_iff, forall_const]
      exact storedIff

end Charging

section Samples

local instance chargingHashlib : Hashlib := sampleHashlib

/-- One program and nothing else. -/
def sampleStore : Store := ⟨⟨[500], [], [], []⟩, by decide⟩

def sampleStart : Database := ⟨Billing.sampleDatabase, sampleStore, []⟩

/-- A call of the only user; the number makes ids and the key new. -/
def sampleCall (number : ℕ) (programId : UUID) (idempotencyKey : String) : CreationCall where
  userId := 1
  payload := ⟨programId, [], idempotencyKey⟩
  traceId := none
  ids := ⟨⟨100, 101, fun index => Fin.ofNat _ (1000 * number + index)⟩, Fin.ofNat _ (200 + number),
    Fin.ofNat _ (300 + number), Fin.ofNat _ (400 + number), Fin.ofNat _ (600 + number)⟩
  times := ⟨⟨⟨Fin.ofNat _ number, Fin.ofNat _ number⟩, Fin.ofNat _ number, Fin.ofNat _ number,
    Fin.ofNat _ number⟩, Fin.ofNat _ number⟩

theorem charged_iff_stored_iff_insertable_sample :
    (Charged Billing.sampleSettings .idle sampleStart (sampleCall 1 500 "first") ↔
        Stored Billing.sampleSettings .idle sampleStart (sampleCall 1 500 "first")) ↔
      (HasQuota Billing.sampleSettings sampleStart.billing.val.usageCounters 201 1 3 1 →
        Insertable .idle sampleStore (sampleCall 1 500 "first")) :=
  charged_iff_stored_iff_insertable (by decide +kernel) (by decide +kernel)

/-- A request for an unknown program uses a unit of the quota up. -/
theorem unknown_program_charged :
    ¬ (Charged Billing.sampleSettings .idle sampleStart (sampleCall 1 501 "first") ↔
      Stored Billing.sampleSettings .idle sampleStart (sampleCall 1 501 "first")) := by
  have charged : Charged Billing.sampleSettings .idle sampleStart (sampleCall 1 501 "first") := by
    unfold Charged
    decide +kernel
  have notStored : ¬ Stored Billing.sampleSettings .idle sampleStart
      (sampleCall 1 501 "first") := by
    unfold Stored
    decide +kernel
  exact fun same => notStored (same.mp charged)

end Samples

end ImigrAI.Assessments.Creation
