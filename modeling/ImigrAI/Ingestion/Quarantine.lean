import ImigrAI.Foundations.Runs
import ImigrAI.Foundations.Streaks
import ImigrAI.ImmigrationRules.ActiveVersions
import ImigrAI.Ingestion.ProcessingEffects

/-!
# Quarantine after failures

A source is quarantined when its counter of consecutive failures reaches the limit. A completed
execution resets the counter, an execution that finds the raw content unchanged does not, so
failures on both sides of such an execution count as consecutive. The bookkeeping of a failure
is taken to succeed.
-/

namespace ImigrAI.Ingestion.Pipeline

open Python ImmigrationRules Fallible Rows Runs Streaks

section Processing

variable [UnicodeData] [Pydantic] [Sha256]

/-- `process_run_item` with the bookkeeping of every failure as it is after a failed fetch. -/
def processSourceItem (settings : Settings) (tables : Tables) (execution : Execution) :
    Tables × Except ProcessingError IngestionRunItemStatus :=
  match getRunItem tables execution.runItemId with
  | none => (tables, .error .runItemNotFound)
  | some (item, source) =>
      let running := markRunning tables item
      match executeProcessing running source item execution with
      | .ok (processed, status) => (processed, .ok status)
      | .error error =>
          ((handleProcessingError settings running source item execution .fetch).1, .error error)

/-- How an execution that was not refused has ended. -/
inductive Ended where
  | finished
  | raised
deriving DecidableEq

/-- The tables, and how the executions of one source have ended, the last one first. -/
structure Tracked where
  tables : Tables
  history : List Ended

/-- `session.get(SourceRegistry, source_id)`. -/
def sourceOf (tables : Tables) (sourceId : UUID) : Option Source :=
  tables.sources.find? fun source => decide (source.id = sourceId)

/-- The execution is refused because the source is in quarantine. -/
def Refused (source : Source) (execution : Execution) : Prop :=
  source.quarantineUntil.any (execution.now < ·)

instance (source : Source) (execution : Execution) : Decidable (Refused source execution) :=
  inferInstanceAs (Decidable (_ = true))

/-- How the execution ends, if it is one of this source and is not refused. -/
def endedOf (settings : Settings) (sourceId : UUID) (tables : Tables) (execution : Execution) :
    Option Ended :=
  match getRunItem tables execution.runItemId with
  | none => none
  | some (_, source) =>
      if source.id = sourceId ∧ ¬ Refused source execution then
        match (processSourceItem settings tables execution).2 with
        | .ok _ => some .finished
        | .error _ => some .raised
      else none

/-- An execution of a run item of any source. -/
def track (settings : Settings) (sourceId : UUID) (tracked : Tracked) (execution : Execution) :
    Tracked where
  tables := (processSourceItem settings tracked.tables execution).1
  history := (endedOf settings sourceId tracked.tables execution).toList ++ tracked.history

variable {settings : Settings} {tables : Tables} {execution : Execution}

omit [UnicodeData] in
theorem examine_of_refused {source : Source} {item : IngestionRunItem}
    (refused : Refused source execution) :
    examine tables source item execution = .ok .quarantined := by
  rw [Refused] at refused
  rw [examine, if_pos refused]

omit [UnicodeData] in
theorem refused_of_examine {source : Source} {item : IngestionRunItem}
    (examined : examine tables source item execution = .ok .quarantined) :
    Refused source execution := by
  rcases examine_eq_ok examined with
    ⟨refused, -⟩ | ⟨-, content, -, ⟨-, other⟩ | ⟨-, _, _, -, other⟩⟩
  · exact refused
  · cases other
  · cases other

/-- The ways in which an execution can end, with what they do to the sources. -/
inductive Effect where
  | refused
  | rawHashUnchanged
  | completed
  | raised

/-- The source after an execution. -/
def Effect.source (settings : Settings) (execution : Execution) (source : Source) : Effect → Source
  | .refused | .rawHashUnchanged => source
  | .completed => resetSourceHealth source
  | .raised => (markSourceFailure settings source execution.failedAt).1

/-- What is recorded of an execution. -/
def Effect.ended : Effect → Option Ended
  | .refused => none
  | .rawHashUnchanged | .completed => some .finished
  | .raised => some .raised

/-- How an execution of a found item ends. -/
def effectOf (tables : Tables) (source : Source) (item : IngestionRunItem) (execution : Execution) :
    Effect :=
  match examine (markRunning tables item) source item execution with
  | .error _ => .raised
  | .ok .quarantined => .refused
  | .ok (.rawHashUnchanged _) => .rawHashUnchanged
  | .ok (.compared rawHash rawStorageUri payload diff) =>
      match complete (markRunning tables item) source item execution rawHash rawStorageUri payload
        diff with
      | .ok _ => .completed
      | .error _ => .raised

omit [Pydantic] [Sha256] in
theorem sources_complete {left : Tables} {source : Source} {item : IngestionRunItem}
    {rawHash rawStorageUri : String} {payload : NormalizedProgramPayload} {diff : DiffSummary}
    {status : IngestionRunItemStatus}
    (done : complete tables source item execution rawHash rawStorageUri payload diff =
      .ok (left, status)) :
    left.sources = replaceRow (·.id) (resetSourceHealth source) tables.sources := by
  rw [complete] at done
  split_ifs at done
  split at done
  · cases done
  · cases done
    rfl

omit [UnicodeData] [Pydantic] [Sha256] in
theorem sourceOf_getRunItem {item : IngestionRunItem} {source : Source}
    (found : getRunItem tables execution.runItemId = some (item, source)) :
    sourceOf tables source.id = some source := by
  rcases Option.bind_eq_some_iff.mp found with ⟨foundItem, -, rest⟩
  rcases Option.bind_eq_some_iff.mp rest with ⟨foundSource, sourceFound, same⟩
  cases same
  have sourceId : source.id = item.sourceId := by
    simpa using List.find?_some sourceFound
  rw [sourceOf, sourceId]
  exact sourceFound

omit [UnicodeData] [Pydantic] [Sha256] in
theorem sourceOf_replaceRow {left : Tables} {source : Source}
    (stored : sourceOf tables source.id = some source) (new : Source) (sameId : new.id = source.id)
    (sources : left.sources = replaceRow (·.id) new tables.sources) (sourceId : UUID) :
    sourceOf left sourceId =
      if source.id = sourceId then some new else sourceOf tables sourceId := by
  rw [sourceOf, sources, find?_replaceRow, ← sourceOf, sameId]
  split_ifs with same
  · rw [← same, stored]
    simp
  · cases other : sourceOf tables sourceId with
    | none => rfl
    | some old =>
        have oldId : old.id = sourceId := by
          simpa using List.find?_some other
        simp [oldId, Ne.symm same]

section Found

variable {item : IngestionRunItem} {source : Source}
  (found : getRunItem tables execution.runItemId = some (item, source))

include found

theorem processSourceItem_eq (settings : Settings) :
    processSourceItem settings tables execution =
      match executeProcessing (markRunning tables item) source item execution with
      | .ok (processed, status) => (processed, .ok status)
      | .error error => ((handleProcessingError settings (markRunning tables item) source item
          execution .fetch).1, .error error) := by
  rw [processSourceItem, found]

omit [UnicodeData] [Pydantic] [Sha256] in
theorem sourceOf_self (sourceId : UUID) :
    sourceOf tables sourceId =
      if source.id = sourceId then some source else sourceOf tables sourceId := by
  split_ifs with same
  · rw [← same, sourceOf_getRunItem found]
  · rfl

/-- An exception counts as a failure of the source. -/
theorem processSourceItem_of_error (settings : Settings) {error : ProcessingError}
    (raised : executeProcessing (markRunning tables item) source item execution = .error error)
    (sourceId : UUID) :
    sourceOf (processSourceItem settings tables execution).1 sourceId =
        (if source.id = sourceId then some (Effect.raised.source settings execution source)
          else sourceOf tables sourceId) ∧
      ∃ error, (processSourceItem settings tables execution).2 = .error error := by
  have stored := sourceOf_getRunItem found
  have failing : sourceOf (handleProcessingError settings (markRunning tables item) source item
      execution .fetch).1 sourceId =
      if source.id = sourceId then some (markSourceFailure settings source execution.failedAt).1
      else sourceOf tables sourceId :=
    sourceOf_replaceRow stored (markSourceFailure settings source execution.failedAt).1 rfl rfl
      sourceId
  rw [processSourceItem_eq found, raised]
  exact ⟨failing, error, rfl⟩

/-- What an execution makes of the sources, and whether it raises. -/
theorem sourceOf_processSourceItem (settings : Settings) (sourceId : UUID) :
    (sourceOf (processSourceItem settings tables execution).1 sourceId =
      if source.id = sourceId then
        some ((effectOf tables source item execution).source settings execution source)
      else sourceOf tables sourceId) ∧
    (effectOf tables source item execution = .raised ↔
      ∃ error, (processSourceItem settings tables execution).2 = .error error) := by
  cases examined : examine (markRunning tables item) source item execution with
  | error error =>
      have raised := executeProcessing_of_error examined
      rcases processSourceItem_of_error found settings raised sourceId with ⟨sources, outcome⟩
      rw [effectOf, examined]
      exact ⟨sources, iff_of_true rfl outcome⟩
  | ok examination =>
      cases examination with
      | quarantined =>
          have result : processSourceItem settings tables execution =
              (setItem (markRunning tables item) { item with status := .quarantined },
                .ok .quarantined) := by
            rw [processSourceItem_eq found, executeProcessing, examined]
            rfl
          rw [effectOf, examined, result]
          exact ⟨sourceOf_self found sourceId, by simp⟩
      | rawHashUnchanged rawHash =>
          have result : processSourceItem settings tables execution =
              (setItem (markRunning tables item)
                { item with status := .skipped, rawHashSha256 := rawHash }, .ok .skipped) := by
            rw [processSourceItem_eq found, executeProcessing, examined]
            rfl
          rw [effectOf, examined, result]
          exact ⟨sourceOf_self found sourceId, by simp⟩
      | compared rawHash rawStorageUri payload diff =>
          have goes := executeProcessing_of_compared examined
          cases done : complete (markRunning tables item) source item execution rawHash
              rawStorageUri payload diff with
          | error error =>
              rcases processSourceItem_of_error found settings (goes.trans done) sourceId with
                ⟨sources, outcome⟩
              simp only [effectOf, examined, done]
              exact ⟨sources, iff_of_true trivial outcome⟩
          | ok processed =>
              rcases processed with ⟨left, status⟩
              have stored := sourceOf_getRunItem found
              have sources := sources_complete done
              have completing : sourceOf left sourceId =
                  if source.id = sourceId then some (resetSourceHealth source)
                  else sourceOf tables sourceId :=
                sourceOf_replaceRow stored (resetSourceHealth source) rfl sources sourceId
              rw [processSourceItem_eq found, goes, done]
              simp only [effectOf, examined, done]
              exact ⟨completing, by simp⟩

omit found in
theorem effectOf_eq_refused_iff :
    effectOf tables source item execution = .refused ↔ Refused source execution := by
  constructor
  · intro effect
    rw [effectOf] at effect
    split at effect
    · cases effect
    · rename_i examined
      exact refused_of_examine examined
    · cases effect
    · split at effect <;> cases effect
  · intro refused
    rw [effectOf, examine_of_refused refused]

/-- The history shows how the execution ends. -/
theorem endedOf_eq (settings : Settings) (sourceId : UUID) :
    endedOf settings sourceId tables execution =
      if source.id = sourceId then (effectOf tables source item execution).ended else none := by
  have raises := (sourceOf_processSourceItem found settings sourceId).2
  rw [endedOf, found]
  dsimp only
  by_cases same : source.id = sourceId
  · by_cases refused : Refused source execution
    · rw [if_neg fun ran => ran.2 refused, if_pos same, effectOf_eq_refused_iff.mpr refused]
      rfl
    · rw [if_pos ⟨same, refused⟩, if_pos same]
      cases result : (processSourceItem settings tables execution).2 with
      | error error =>
          rw [raises.mpr ⟨error, result⟩]
          rfl
      | ok status =>
          cases effect : effectOf tables source item execution with
          | refused => exact absurd (effectOf_eq_refused_iff.mp effect) refused
          | raised =>
              rcases raises.mp effect with ⟨error, raised⟩
              rw [result] at raised
              cases raised
          | rawHashUnchanged => rfl
          | completed => rfl
  · rw [if_neg fun ran => same ran.1, if_neg same]

end Found

/-- The execution sets a quarantine, anew or for longer. -/
def PutsInQuarantine (settings : Settings) (sourceId : UUID) (tables : Tables)
    (execution : Execution) : Prop :=
  ∃ after, sourceOf (processSourceItem settings tables execution).1 sourceId = some after ∧
    after.quarantineUntil.isSome ∧
    (endedOf settings sourceId tables execution = some .raised ∨
      ∀ before, sourceOf tables sourceId = some before →
        after.quarantineUntil ≠ before.quarantineUntil)

/-- A quarantine follows as many failures in a row as the limit asks for, this execution among
them, and an execution that ends without an exception resets the counter. -/
structure FollowsFailures (settings : Settings) (sourceId : UUID) (tracked : Tracked)
    (execution : Execution) : Prop where
  quarantine : PutsInQuarantine settings sourceId tracked.tables execution →
    endedOf settings sourceId tracked.tables execution = some .raised ∧
      InARow (· = Ended.raised) settings.quarantineAfterFailures.toNat
        (track settings sourceId tracked execution).history
  resets : endedOf settings sourceId tracked.tables execution = some .finished →
    ∀ after,
      sourceOf (processSourceItem settings tracked.tables execution).1 sourceId = some after →
        after.consecutiveFailures = 0

/-- The execution is not refused and fetches the content that was collected last. -/
def FindsUnchanged (tables : Tables) (source : Source) (execution : Execution) : Prop :=
  ¬ Refused source execution ∧ ∃ content, execution.content = some content ∧
    (getLatestBronzeDocument tables source.id).any (·.checksumSha256 = Sha256.hexdigest content)

/-- An execution does not find the content unchanged while failures of the source are counted. -/
def NoSkipAfterFailure (sourceId : UUID) (tracked : Tracked) (execution : Execution) : Prop :=
  ∀ item source, getRunItem tracked.tables execution.runItemId = some (item, source) →
    source.id = sourceId → source.consecutiveFailures ≠ 0 →
      ¬ FindsUnchanged tracked.tables source execution

omit [UnicodeData] in
theorem examine_eq_rawHashUnchanged_iff {source : Source} {item : IngestionRunItem} :
    (∃ rawHash, examine tables source item execution = .ok (.rawHashUnchanged rawHash)) ↔
      FindsUnchanged tables source execution := by
  constructor
  · rintro ⟨rawHash, examined⟩
    rcases examine_eq_ok examined with
      ⟨-, other⟩ | ⟨notRefused, content, fetched, ⟨same, -⟩ | ⟨-, _, _, -, other⟩⟩
    · cases other
    · exact ⟨notRefused, content, fetched, same⟩
    · cases other
  · rintro ⟨refused, content, fetched, same⟩
    rw [Refused] at refused
    refine ⟨Sha256.hexdigest content, ?_⟩
    rw [examine, if_neg refused, fetched]
    exact if_pos same

theorem effectOf_eq_rawHashUnchanged_iff {source : Source} {item : IngestionRunItem} :
    effectOf tables source item execution = .rawHashUnchanged ↔
      FindsUnchanged tables source execution := by
  have same : FindsUnchanged (markRunning tables item) source execution ↔
      FindsUnchanged tables source execution := Iff.rfl
  rw [← same, ← examine_eq_rawHashUnchanged_iff, effectOf]
  cases examined : examine (markRunning tables item) source item execution with
  | error error => simp
  | ok examination =>
      cases examination with
      | compared rawHash rawStorageUri payload diff =>
          simp only
          split <;> simp
      | _ => simp

/-- The counter of the source is the number of failures since the last execution that has not
failed. -/
def CountsStreak (sourceId : UUID) (tracked : Tracked) : Prop :=
  ∀ source, sourceOf tracked.tables sourceId = some source →
    source.consecutiveFailures = streak (· = Ended.raised) tracked.history

section Steps

variable {sourceId : UUID} {tracked : Tracked}

/-- What is to be shown of every step of a source whose failures are counted. -/
structure StepAgrees (settings : Settings) (sourceId : UUID) (tracked : Tracked)
    (execution : Execution) : Prop where
  counts : NoSkipAfterFailure sourceId tracked execution →
    CountsStreak sourceId (track settings sourceId tracked execution)
  follows : FollowsFailures settings sourceId tracked execution ↔
    NoSkipAfterFailure sourceId tracked execution

/-- An execution that does not concern the source. -/
theorem stepAgrees_of_idle (counts : CountsStreak sourceId tracked)
    (sources : sourceOf (processSourceItem settings tracked.tables execution).1 sourceId =
      sourceOf tracked.tables sourceId)
    (ended : endedOf settings sourceId tracked.tables execution = none)
    (noSkip : NoSkipAfterFailure sourceId tracked execution) :
    StepAgrees settings sourceId tracked execution := by
  refine ⟨?_, iff_of_true ⟨?_, ?_⟩ noSkip⟩
  · intro _ source stored
    rw [track, ended]
    exact counts source (sources ▸ stored)
  · rintro ⟨after, stored, -, raised | different⟩
    · simp [ended] at raised
    · exact absurd rfl (different after (sources ▸ stored))
  · intro finished
    simp [ended] at finished

section Found

variable {item : IngestionRunItem} {source : Source}
  (found : getRunItem tracked.tables execution.runItemId = some (item, source))
  (same : source.id = sourceId)

include found same

omit [UnicodeData] [Pydantic] in
theorem noSkipAfterFailure_iff :
    NoSkipAfterFailure sourceId tracked execution ↔
      (source.consecutiveFailures ≠ 0 → ¬ FindsUnchanged tracked.tables source execution) := by
  constructor
  · intro noSkip
    exact noSkip item source found same
  · intro noSkip other otherSource otherFound
    rw [found] at otherFound
    cases otherFound
    exact fun _ => noSkip

theorem noSkipAfterFailure_of_effect
    (other : effectOf tracked.tables source item execution ≠ .rawHashUnchanged) :
    NoSkipAfterFailure sourceId tracked execution := by
  rw [noSkipAfterFailure_iff found same]
  intro _ unchanged
  exact other (effectOf_eq_rawHashUnchanged_iff.mpr unchanged)

theorem sourceOf_after (settings : Settings) :
    sourceOf (processSourceItem settings tracked.tables execution).1 sourceId =
      some ((effectOf tracked.tables source item execution).source settings execution source) := by
  rw [(sourceOf_processSourceItem found settings sourceId).1, if_pos same]

theorem endedOf_after (settings : Settings) :
    endedOf settings sourceId tracked.tables execution =
      (effectOf tracked.tables source item execution).ended := by
  rw [endedOf_eq found settings sourceId, if_pos same]

omit [UnicodeData] [Pydantic] [Sha256] in
theorem sourceOf_before : sourceOf tracked.tables sourceId = some source := by
  rw [← same, sourceOf_getRunItem found]

/-- The only end after which the counter may keep its value. -/
theorem stepAgrees_of_rawHashUnchanged
    (effect : effectOf tracked.tables source item execution = .rawHashUnchanged) :
    StepAgrees settings sourceId tracked execution := by
  have before := sourceOf_before found same
  have after := sourceOf_after found same settings
  have ended := endedOf_after found same settings
  rw [effect] at after ended
  have unchanged := effectOf_eq_rawHashUnchanged_iff.mp effect
  have noSkip : NoSkipAfterFailure sourceId tracked execution ↔ source.consecutiveFailures = 0 := by
    rw [noSkipAfterFailure_iff found same]
    simp [unchanged]
  refine ⟨?_, ?_⟩
  · intro condition stored isStored
    rw [track, after] at isStored
    cases isStored
    rw [track, ended]
    exact noSkip.mp condition
  · rw [noSkip]
    constructor
    · intro follows
      exact follows.resets ended source after
    · intro zero
      refine ⟨?_, ?_⟩
      · rintro ⟨stored, isStored, -, raised | different⟩
        · simp [ended, Effect.ended] at raised
        · rw [after] at isStored
          cases isStored
          exact absurd rfl (different source before)
      · intro _ stored isStored
        rw [after] at isStored
        cases isStored
        exact zero

theorem stepAgrees_of_completed
    (effect : effectOf tracked.tables source item execution = .completed) :
    StepAgrees settings sourceId tracked execution := by
  have after := sourceOf_after found same settings
  have ended := endedOf_after found same settings
  have noSkip : NoSkipAfterFailure sourceId tracked execution := by
    apply noSkipAfterFailure_of_effect found same
    simp [effect]
  rw [effect] at after ended
  refine ⟨?_, iff_of_true ⟨?_, ?_⟩ noSkip⟩
  · intro _ stored isStored
    rw [track, after] at isStored
    cases isStored
    rw [track, ended]
    rfl
  · rintro ⟨stored, isStored, quarantined, -⟩
    rw [after] at isStored
    cases isStored
    cases quarantined
  · intro _ stored isStored
    rw [after] at isStored
    cases isStored
    rfl

/-- A failure is counted, and the counter is what the limit is compared with. -/
theorem stepAgrees_of_raised (counts : CountsStreak sourceId tracked)
    (effect : effectOf tracked.tables source item execution = .raised) :
    StepAgrees settings sourceId tracked execution := by
  have after := sourceOf_after found same settings
  have ended := endedOf_after found same settings
  have noSkip : NoSkipAfterFailure sourceId tracked execution := by
    apply noSkipAfterFailure_of_effect found same
    simp [effect]
  rw [effect] at after ended
  have longer : streak (· = Ended.raised) (track settings sourceId tracked execution).history =
      streak (· = Ended.raised) tracked.history + 1 := by
    rw [track, ended]
    apply streak_cons_of_pos
    simp
  have total : streak (· = Ended.raised) (track settings sourceId tracked execution).history =
      source.consecutiveFailures + 1 := by
    rw [longer, counts source (sourceOf_before found same)]
    simp
  refine ⟨?_, iff_of_true ⟨?_, ?_⟩ noSkip⟩
  · intro _ stored isStored
    rw [track, after] at isStored
    cases isStored
    exact total.symm
  · rintro ⟨stored, isStored, quarantined, -⟩
    rw [after] at isStored
    cases isStored
    have reached : settings.quarantineAfterFailures ≤ source.consecutiveFailures + 1 := by
      by_contra below
      simp only [Effect.source, markSourceFailure] at quarantined
      rw [if_neg below] at quarantined
      cases quarantined
    refine ⟨ended, ?_⟩
    rw [inARow_iff_le_streak]
    omega
  · intro finished
    simp [ended, Effect.ended] at finished

end Found

theorem stepAgrees (counts : CountsStreak sourceId tracked) :
    StepAgrees settings sourceId tracked execution := by
  cases found : getRunItem tracked.tables execution.runItemId with
  | none =>
      apply stepAgrees_of_idle counts
      · rw [processSourceItem, found]
      · rw [endedOf, found]
      · intro item source otherFound
        rw [found] at otherFound
        cases otherFound
  | some pair =>
      rcases pair with ⟨item, source⟩
      by_cases same : source.id = sourceId
      · cases effect : effectOf tracked.tables source item execution with
        | refused =>
            apply stepAgrees_of_idle counts
            · rw [sourceOf_after found same, effect, sourceOf_before found same]
              rfl
            · rw [endedOf_after found same, effect]
              rfl
            · apply noSkipAfterFailure_of_effect found same
              simp [effect]
        | rawHashUnchanged => exact stepAgrees_of_rawHashUnchanged found same effect
        | completed => exact stepAgrees_of_completed found same effect
        | raised => exact stepAgrees_of_raised found same counts effect
      · apply stepAgrees_of_idle counts
        · rw [(sourceOf_processSourceItem found settings sourceId).1, if_neg same]
        · rw [endedOf_eq found, if_neg same]
        · intro item source otherFound isSame
          rw [found] at otherFound
          cases otherFound
          exact absurd isSame same

end Steps

/-- A source is put in quarantine by nothing but failures in a row, and every execution that ends
without an exception resets the counter, in exactly the sequences of executions in which none finds
the content unchanged while failures are counted. -/
theorem quarantine_follows_failures (settings : Settings) (tables : Tables) (sourceId : UUID)
    (fresh : ∀ source, sourceOf tables sourceId = some source → source.consecutiveFailures = 0)
    (executions : List Execution) :
    Along (track settings sourceId) (FollowsFailures settings sourceId) ⟨tables, []⟩ executions ↔
      Along (track settings sourceId) (NoSkipAfterFailure sourceId) ⟨tables, []⟩ executions := by
  have counted : CountsStreak sourceId ⟨tables, []⟩ := fresh
  refine along_iff_along ?_ ?_ counted
  · intro tracked execution counts follows
    have agrees : StepAgrees settings sourceId tracked execution := stepAgrees counts
    exact agrees.counts (agrees.follows.mp follows)
  · intro tracked execution counts
    exact (stepAgrees counts).follows

end Processing

section Sample

local instance skippingUnicodeData : UnicodeData := UnicodeData.ascii

local instance skippingPydantic : Pydantic where
  toInt _ := none
  toBool _ := none
  toDecimal _ := none
  toDatetime _ := none
  isoformat datetime := datetime.wallClock.isoformat

/-- The digest of the content "A". -/
local instance skippingSha256 : Sha256 where
  sha256Hex _ := "559aead08264d5795d3909718cdd05abd49572e84fe55590eef31a88a08fdffd"
  hexdigest _ := "559aead08264d5795d3909718cdd05abd49572e84fe55590eef31a88a08fdffd"
  sha256Hex_ne_empty _ := by decide

/-- A source that was collected once, with the content "A", and three more items of it. -/
def collectedOnce : Tables where
  rules := sampleCatalogue
  sources := [{
    id := 19
    sourceKey := "ca-express-entry"
    countryCode := "CA"
    parserVersion := "1.0.0"
    confidenceThreshold := ⟨false, 60, -2⟩
    quarantineUntil := none
    consecutiveFailures := 0 }]
  items := [⟨30, 19, .completed, 0, none, none⟩, ⟨31, 19, .pending, 1, none, none⟩,
    ⟨32, 19, .pending, 2, none, none⟩, ⟨33, 19, .pending, 3, none, none⟩]
  bronzeDocuments :=
    [⟨19, 30, "559aead08264d5795d3909718cdd05abd49572e84fe55590eef31a88a08fdffd", 0⟩]

def twoFailures : Settings := ⟨fun failedAt => failedAt + 3600000000, 2⟩

/-- An execution that comes no further than to what it fetches. -/
def collecting (runItemId : UUID) (content : Option (List UInt8)) : Execution where
  runItemId := runItemId
  now := 10
  content := content
  rawStorageUri := none
  bronzeCreatedAt := 10
  deterministic := none
  llmFallback := none
  replacesSilverSections := true
  ids := {
    country := 100
    program := 200
    version := 300
    group position := Fin.ofNat _ position
    condition position index := Fin.ofNat _ (10 * position + index)
    outcome position index := Fin.ofNat _ (10 * position + index)
    sourceDocument := 400
    sourceExtraction := 500 }
  times := ⟨10, 10, 10⟩
  failedAt := 10

theorem quarantine_follows_failures_collectedOnce :
    Along (track twoFailures 19) (FollowsFailures twoFailures 19) ⟨collectedOnce, []⟩
      [collecting 31 none, collecting 33 none] := by
  apply (quarantine_follows_failures twoFailures collectedOnce 19 _ _).mpr
  · refine ⟨?_, ?_, trivial⟩ <;>
    · rintro item source - - - ⟨-, content, fetched, -⟩
      cases fetched
  · intro source stored
    cases stored
    rfl

/-- A failure, the content "A" again and one more failure: the source is put in quarantine, although
two failures in a row are asked for. -/
theorem skipped_execution_keeps_counter :
    ¬ Along (track twoFailures 19) (FollowsFailures twoFailures 19) ⟨collectedOnce, []⟩
      [collecting 31 none, collecting 32 (some [65]), collecting 33 none] := by
  rintro ⟨-, -, follows, -⟩
  generalize reached : track twoFailures 19
    (track twoFailures 19 ⟨collectedOnce, []⟩ (collecting 31 none))
    (collecting 32 (some [65])) = tracked at follows
  have ended : endedOf twoFailures 19 tracked.tables (collecting 33 none) = some .raised := by
    rw [← reached]
    decide +kernel
  have quarantined : (sourceOf (processSourceItem twoFailures tracked.tables
      (collecting 33 none)).1 19).any (·.quarantineUntil.isSome) := by
    rw [← reached]
    decide +kernel
  rcases Option.any_eq_true .. |>.mp quarantined with ⟨after, stored, isQuarantined⟩
  have row := (follows.quarantine ⟨after, stored, isQuarantined, Or.inl ended⟩).2
  rw [inARow_iff_le_streak, ← reached] at row
  exact absurd row (by decide +kernel)

end Sample

end ImigrAI.Ingestion.Pipeline
