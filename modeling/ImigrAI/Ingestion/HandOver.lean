import ImigrAI.Foundations.Runs
import ImigrAI.ImmigrationRules.ActiveVersions
import ImigrAI.Ingestion.ProcessingEffects

/-!
# Handing over the semantic hash

A payload is compared with the hash that the last completed item of its source carries, and
"last" means created last. Executions hand the hash of the last computation over to each other
exactly as long as this item is one that carries it. A new item whose raw content is unchanged
carries no hash, so after it the next equal payload counts as changed and is published again.
-/

namespace ImigrAI.Ingestion.Pipeline

open Python ImmigrationRules Fallible Rows Runs Sorting

/-- The tables, and of each source the payload of the last execution that computed a semantic
hash and finished. -/
structure History where
  tables : Tables
  lastComputed : UUID → Option NormalizedProgramPayload

inductive Action where
  | createRunItem (id sourceId : UUID) (createdAt : Instant)
  | process (execution : Execution)
  /-- Whatever else changes the rules and the sources. -/
  | others (rules : Database) (sources : List Source)

def createRunItem (tables : Tables) (id sourceId : UUID) (createdAt : Instant) : Tables :=
  if id ∈ tables.items.map (·.id) then tables
  else { tables with
    items := tables.items ++ [⟨id, sourceId, .pending, createdAt, none, none⟩] }

section Histories

variable [UnicodeData] [Pydantic] [Sha256]

def recordComputed (settings : Settings) (history : History) (execution : Execution) :
    UUID → Option NormalizedProgramPayload :=
  match getRunItem history.tables execution.runItemId with
  | none => history.lastComputed
  | some (item, source) =>
      match outcome settings history.tables source item execution with
      | .computed payload => Function.update history.lastComputed source.id (some payload)
      | _ => history.lastComputed

def step (settings : Settings) (history : History) : Action → History
  | .createRunItem id sourceId createdAt =>
      { history with tables := createRunItem history.tables id sourceId createdAt }
  | .process execution => {
      tables := (processRunItem settings history.tables execution).1
      lastComputed := recordComputed settings history execution }
  | .others rules sources =>
      { history with tables := { history.tables with rules := rules, sources := sources } }

/-- No items yet. -/
def initial (rules : Database) (sources : List Source) : History where
  tables := ⟨rules, sources, [], []⟩
  lastComputed _ := none

omit [UnicodeData] in
/-- The payload and the diff of an execution that comes as far as the comparison. -/
def comparison (tables : Tables) (execution : Execution) :
    Option (UUID × NormalizedProgramPayload × DiffSummary) :=
  match getRunItem tables execution.runItemId with
  | none => none
  | some (item, source) =>
      match examine (markRunning tables item) source item execution with
      | .ok (.compared _ _ payload diff) => some (source.id, payload, diff)
      | _ => none

/-- A payload equal to the last one that was computed is found unchanged, and no program version
is published. -/
def RepeatUnchanged (settings : Settings) (history : History) : Action → Prop
  | .process execution => ∀ sourceId payload diff previous,
      comparison history.tables execution = some (sourceId, payload, diff) →
      history.lastComputed sourceId = some previous → SameContent previous payload →
      diff.changed = false ∧
        (processRunItem settings history.tables execution).1.rules.versions =
          history.tables.rules.versions
  | _ => True

def Carries (payload : NormalizedProgramPayload) (item : IngestionRunItem) : Prop :=
  item.semanticHashSha256 = some (computeSemanticHash payload)

/-- The finished items of its source but the item itself. -/
def othersFinished (items : List IngestionRunItem) (item : IngestionRunItem) :
    List IngestionRunItem :=
  (finishedItems items item.sourceId).filter fun other => other.id ≠ item.id

/-- If the item was finished, those created last among the others carry the hash of the last
computation. -/
def CarriedWithout (history : History) (item : IngestionRunItem) : Prop :=
  Finished item.status → ∀ previous ∈ history.lastComputed item.sourceId,
    EveryFirst creation (Carries previous) (othersFinished history.tables.items item)

/-- The execution of an item leaves an item that carries the hash of the last computation as the
one created last among the finished items of its source, however it ends:

* if the raw content is unchanged, a finished item was created later, or the item carries the
  hash already;
* if the payload is compared, a finished item that was created last, and not before this one, has
  the same hash; and as long as the item is not finished again, the others carry the hash;
* if it is quarantined or raises before, the others carry the hash. -/
def HandsOver (history : History) : Action → Prop
  | .process execution =>
      match getRunItem history.tables execution.runItemId with
      | none => True
      | some (item, source) =>
          let others := othersFinished history.tables.items item
          match examine (markRunning history.tables item) source item execution with
          | .ok (.rawHashUnchanged _) => ∀ previous ∈ history.lastComputed item.sourceId,
              (∃ later ∈ others, item.createdAt < later.createdAt) ∨ Carries previous item
          | .ok (.compared _ _ payload _) =>
              (∀ last, FirstBy creation others last → item.createdAt ≤ last.createdAt →
                Carries payload last) ∧ CarriedWithout history item
          | _ => CarriedWithout history item
  | _ => True

/-- An execution that compares a repeated payload finds its hash with the item that was created
last among the other finished items of the source. -/
def FindsHash (history : History) : Action → Prop
  | .process execution =>
      match getRunItem history.tables execution.runItemId with
      | none => True
      | some (item, source) =>
          match examine (markRunning history.tables item) source item execution with
          | .ok (.compared _ _ payload _) =>
              ∀ previous ∈ history.lastComputed source.id, SameContent previous payload →
                ∃ last, (sortBy creation (othersFinished history.tables.items item)).head? =
                  some last ∧ Carries previous last
          | _ => True
  | _ => True

end Histories

/-- Items have distinct ids, and an item that carries a hash has a collected document. -/
structure Sound (tables : Tables) : Prop where
  itemIds : (tables.items.map (·.id)).Nodup
  collected : ∀ item ∈ tables.items, item.semanticHashSha256 ≠ none →
    item.id ∈ tables.bronzeDocuments.map (·.ingestionRunItemId)

variable [Pydantic] [Sha256] in
/-- The finished items that were created last carry the hash of the last computation. -/
def CarriesLast (history : History) : Prop :=
  ∀ sourceId previous, history.lastComputed sourceId = some previous →
    EveryFirst creation (Carries previous) (finishedItems history.tables.items sourceId)

section FinishedItems

variable {items left : List IngestionRunItem} {item row other : IngestionRunItem} {sourceId : UUID}

theorem mem_finishedItems :
    other ∈ finishedItems items sourceId ↔
      other ∈ items ∧ other.sourceId = sourceId ∧ Finished other.status := by
  simp [finishedItems]

theorem mem_othersFinished :
    other ∈ othersFinished items item ↔
      (other ∈ items ∧ other.id ≠ item.id) ∧ other.sourceId = item.sourceId ∧
        Finished other.status := by
  simp only [othersFinished, List.mem_filter, mem_finishedItems, decide_eq_true_eq]
  tauto

/-- A new item has not finished. -/
theorem finishedItems_createRunItem (tables : Tables) (id sourceId createdFor : UUID)
    (createdAt : Instant) :
    finishedItems (createRunItem tables id createdFor createdAt).items sourceId =
      finishedItems tables.items sourceId := by
  rw [createRunItem]
  split_ifs
  · rfl
  · simp [finishedItems, Finished]

/-- While an item is running, the finished items of its source are the others. -/
theorem finishedItems_markRunning (tables : Tables) (item : IngestionRunItem) :
    finishedItems (markRunning tables item).items item.sourceId =
      othersFinished tables.items item := by
  simp only [markRunning, setItem, othersFinished, finishedItems]
  induction tables.items with
  | nil => rfl
  | cons first rest ih =>
      rw [replaceRow, List.map_cons, ← replaceRow]
      by_cases same : first.id = item.id
      · simpa [same, not_finished_running] using ih
      · by_cases kept : first.sourceId = item.sourceId ∧ Finished first.status
        · simpa [same, kept] using ih
        · simpa [same, kept] using ih

variable (replaces : Replaces item row items left)

include replaces

theorem mem_left_iff : other ∈ left ↔ other = row ∨ other ∈ items ∧ other.id ≠ item.id := by
  rw [replaces.items, mem_replaceRow_iff ⟨item, replaces.mem, replaces.id.symm⟩, replaces.id]

theorem mem_finishedItems_left :
    other ∈ finishedItems left item.sourceId ↔
      other = row ∧ Finished row.status ∨ other ∈ othersFinished items item := by
  rw [mem_finishedItems, mem_left_iff replaces, mem_othersFinished]
  constructor
  · rintro ⟨rfl | stays, ofSource, finished⟩
    · exact Or.inl ⟨rfl, finished⟩
    · exact Or.inr ⟨stays, ofSource, finished⟩
  · rintro (⟨rfl, finished⟩ | ⟨stays, ofSource, finished⟩)
    · exact ⟨Or.inl rfl, replaces.sourceId, finished⟩
    · exact ⟨Or.inr stays, ofSource, finished⟩

/-- The items of the other sources stay as they are. -/
theorem mem_finishedItems_left_of_ne (distinct : (items.map (·.id)).Nodup)
    (different : sourceId ≠ item.sourceId) :
    other ∈ finishedItems left sourceId ↔ other ∈ finishedItems items sourceId := by
  rw [mem_finishedItems, mem_finishedItems, mem_left_iff replaces]
  constructor
  · rintro ⟨rfl | ⟨otherMem, -⟩, ofSource, finished⟩
    · exact absurd (ofSource.symm.trans replaces.sourceId) different
    · exact ⟨otherMem, ofSource, finished⟩
  · rintro ⟨otherMem, ofSource, finished⟩
    refine ⟨Or.inr ⟨otherMem, ?_⟩, ofSource, finished⟩
    intro same
    rw [List.inj_on_of_nodup_map distinct otherMem replaces.mem same] at ofSource
    exact different ofSource.symm

end FinishedItems

section Sound

variable {tables left : Tables} {item row : IngestionRunItem}

theorem sound_replaces (sound : Sound tables) (replaces : Replaces item row tables.items left.items)
    (bronze : ∀ id ∈ tables.bronzeDocuments.map (·.ingestionRunItemId),
      id ∈ left.bronzeDocuments.map (·.ingestionRunItemId))
    (collected : row.semanticHashSha256 ≠ none →
      item.id ∈ left.bronzeDocuments.map (·.ingestionRunItemId)) : Sound left := by
  refine ⟨?_, ?_⟩
  · rw [replaces.items, map_replaceRow fun _ _ same => same]
    exact sound.itemIds
  · intro other otherMem carries
    rcases (mem_left_iff replaces).mp otherMem with rfl | ⟨stored, -⟩
    · rw [replaces.id]
      exact collected carries
    · exact bronze other.id (sound.collected other stored carries)

theorem sound_leavesWith (sound : Sound tables) {status : IngestionRunItemStatus}
    (leaves : LeavesWith status tables item left) : Sound left := by
  rcases leaves.row with ⟨row, replaces, -, sameHash⟩
  apply sound_replaces sound replaces
  · rw [leaves.bronze]
    exact fun id mem => mem
  · rw [leaves.bronze, sameHash]
    exact sound.collected item replaces.mem

theorem sound_completes (sound : Sound tables) {diff : DiffSummary}
    (completes : Completes tables item diff left) : Sound left := by
  rcases completes.row with ⟨row, replaces, -, -⟩
  apply sound_replaces sound replaces
  · intro id mem
    rw [completes.bronze]
    exact List.mem_append_left _ mem
  · intro _
    rw [completes.bronze]
    exact List.mem_append_right _ List.mem_cons_self

theorem sound_createRunItem (sound : Sound tables) (id sourceId : UUID) (createdAt : Instant) :
    Sound (createRunItem tables id sourceId createdAt) := by
  rw [createRunItem]
  split_ifs with taken
  · exact sound
  · refine ⟨?_, ?_⟩
    · exact nodup_map_append_singleton.mpr ⟨taken, sound.itemIds⟩
    · intro item itemMem carries
      rcases List.mem_append.mp itemMem with stored | new
      · exact sound.collected item stored carries
      · rw [List.mem_singleton.mp new] at carries
        exact absurd rfl carries

variable [UnicodeData] [Pydantic] [Sha256]

theorem sound_processRunItem (settings : Settings) (sound : Sound tables) (execution : Execution) :
    Sound (processRunItem settings tables execution).1 := by
  cases found : getRunItem tables execution.runItemId with
  | none =>
      rw [processRunItem, found]
      exact sound
  | some pair =>
      rcases processRunItem_cases found settings with
        ⟨-, leaves⟩ | ⟨_, _, _, _, -, -, completes⟩ | ⟨-, status, -, leaves⟩
      · exact sound_leavesWith sound leaves
      · exact sound_completes sound completes
      · exact sound_leavesWith sound leaves

theorem sound_step (settings : Settings) (history : History) (action : Action)
    (sound : Sound history.tables) : Sound (step settings history action).tables := by
  cases action with
  | createRunItem id sourceId createdAt => exact sound_createRunItem sound id sourceId createdAt
  | process execution => exact sound_processRunItem settings sound execution
  | others rules sources => exact ⟨sound.itemIds, sound.collected⟩

end Sound

section HandOver

variable [Pydantic] [Sha256] {items left : List IngestionRunItem} {item row : IngestionRunItem}

/-- What the finished items carry, in terms of the item and the others. -/
theorem everyFirst_carries_left_iff (replaces : Replaces item row items left)
    (payload : NormalizedProgramPayload) :
    EveryFirst creation (Carries payload) (finishedItems left item.sourceId) ↔
      if Finished row.status then
        ((∃ later ∈ othersFinished items item, item.createdAt < later.createdAt) ∨
          Carries payload row) ∧
        ∀ last, FirstBy creation (othersFinished items item) last →
          item.createdAt ≤ last.createdAt → Carries payload last
      else EveryFirst creation (Carries payload) (othersFinished items item) := by
  split_ifs with finished
  · rw [← replaces.createdAt]
    apply everyFirst_add_iff
    intro other
    rw [mem_finishedItems_left replaces]
    simp [finished]
  · apply everyFirst_congr
    intro other
    rw [mem_finishedItems_left replaces]
    simp [finished]

omit [Pydantic] [Sha256] in
theorem replaces_self (distinct : (items.map (·.id)).Nodup) (itemMem : item ∈ items) :
    Replaces item item items items := by
  refine ⟨itemMem, rfl, rfl, rfl, ?_⟩
  symm
  apply replaceRow_self
  intro old oldMem same
  exact List.inj_on_of_nodup_map distinct oldMem itemMem same

/-- The others that are not before the item carry what the last items carry. -/
theorem others_carry (distinct : (items.map (·.id)).Nodup) (itemMem : item ∈ items)
    {payload : NormalizedProgramPayload}
    (before : EveryFirst creation (Carries payload) (finishedItems items item.sourceId)) :
    ∀ last, FirstBy creation (othersFinished items item) last →
      item.createdAt ≤ last.createdAt → Carries payload last := by
  rw [everyFirst_carries_left_iff (replaces_self distinct itemMem)] at before
  split_ifs at before
  · exact before.2
  · exact fun last firstBy _ => before.2 last firstBy

end HandOver

section Step

variable [Pydantic] [Sha256] {settings : Settings} {history after : History}
  {item row : IngestionRunItem}

/-- An execution concerns the source of its item only. -/
theorem carriesLast_iff_of_replaces (sound : Sound history.tables) (carries : CarriesLast history)
    (replaces : Replaces item row history.tables.items after.tables.items)
    (records : ∀ sourceId, sourceId ≠ item.sourceId →
      after.lastComputed sourceId = history.lastComputed sourceId) :
    CarriesLast after ↔ ∀ previous, after.lastComputed item.sourceId = some previous →
      EveryFirst creation (Carries previous) (finishedItems after.tables.items item.sourceId) := by
  constructor
  · intro carriesAfter previous computed
    exact carriesAfter item.sourceId previous computed
  · intro ofSource sourceId previous computed
    by_cases same : sourceId = item.sourceId
    · rw [same] at computed ⊢
      exact ofSource previous computed
    · rw [records sourceId same] at computed
      apply (everyFirst_congr ?_).mpr (carries sourceId previous computed)
      intro other
      exact mem_finishedItems_left_of_ne replaces sound.itemIds same

theorem carriesLast_iff_of_skipped (sound : Sound history.tables) (carries : CarriesLast history)
    (leaves : LeavesWith .skipped history.tables item after.tables)
    (records : after.lastComputed = history.lastComputed) :
    CarriesLast after ↔ ∀ previous ∈ history.lastComputed item.sourceId,
      (∃ later ∈ othersFinished history.tables.items item, item.createdAt < later.createdAt) ∨
        Carries previous item := by
  rcases leaves.row with ⟨row, replaces, skipped, sameHash⟩
  have finished : Finished row.status := Or.inr (Or.inr skipped)
  rw [carriesLast_iff_of_replaces sound carries replaces fun _ _ => congrFun records _, records]
  apply forall_congr'
  intro previous
  apply imp_congr_right
  intro computed
  rw [everyFirst_carries_left_iff replaces, if_pos finished, Carries, sameHash]
  apply and_iff_left
  exact others_carry sound.itemIds replaces.mem (carries item.sourceId previous computed)

theorem carriesLast_iff_of_completes (sound : Sound history.tables) (carries : CarriesLast history)
    {payload : NormalizedProgramPayload} {diff : DiffSummary}
    (completes : Completes history.tables item diff after.tables)
    (current : diff.currentHash = computeSemanticHash payload)
    (records : after.lastComputed =
      Function.update history.lastComputed item.sourceId (some payload)) :
    CarriesLast after ↔ ∀ last, FirstBy creation (othersFinished history.tables.items item) last →
      item.createdAt ≤ last.createdAt → Carries payload last := by
  rcases completes.row with ⟨row, replaces, finished, hash⟩
  have unrelated : ∀ sourceId, sourceId ≠ item.sourceId →
      after.lastComputed sourceId = history.lastComputed sourceId := by
    intro sourceId different
    rw [records, Function.update_of_ne different]
  have carriesRow : Carries payload row := by
    rw [Carries, hash, current]
  rw [carriesLast_iff_of_replaces sound carries replaces unrelated, records, Function.update_self]
  constructor
  · intro every
    have all := every payload rfl
    rw [everyFirst_carries_left_iff replaces, if_pos finished] at all
    exact all.2
  · intro all previous computed
    cases computed
    rw [everyFirst_carries_left_iff replaces, if_pos finished]
    exact ⟨Or.inr carriesRow, all⟩

theorem carriesLast_iff_of_unfinished (sound : Sound history.tables) (carries : CarriesLast history)
    {status : IngestionRunItemStatus} (unfinished : ¬ Finished status)
    (leaves : LeavesWith status history.tables item after.tables)
    (records : after.lastComputed = history.lastComputed) :
    CarriesLast after ↔ CarriedWithout history item := by
  rcases leaves.row with ⟨row, replaces, same, -⟩
  rw [← same] at unfinished
  rw [carriesLast_iff_of_replaces sound carries replaces fun _ _ => congrFun records _, records]
  constructor
  · intro every _ previous computed
    have all := every previous computed
    rwa [everyFirst_carries_left_iff replaces, if_neg unfinished] at all
  · intro hands previous computed
    rw [everyFirst_carries_left_iff replaces, if_neg unfinished]
    by_cases finished : Finished item.status
    · exact hands finished previous computed
    · -- The item was not among the finished ones, so these are the others.
      have before := carries item.sourceId previous computed
      rwa [everyFirst_carries_left_iff (replaces_self sound.itemIds replaces.mem),
        if_neg finished] at before

variable [UnicodeData]

/-- What an execution hands over if it stops before an item is finished. -/
theorem carriedWithout_of_handsOver {execution : Execution} {source : Source}
    (found : getRunItem history.tables execution.runItemId = some (item, source))
    (stopped : outcome settings history.tables source item execution = .stopped)
    (hands : HandsOver history (.process execution)) : CarriedWithout history item := by
  rw [HandsOver, found] at hands
  dsimp only at hands
  rw [outcome] at stopped
  split at stopped
  · cases stopped
  · next examined =>
      rw [examined] at hands
      exact hands.2
  · next fetched compared =>
      split at hands
      · next examined => exact absurd examined (fetched _)
      · next examined => exact absurd examined (compared _ _ _ _)
      · exact hands

/-- The last items keep carrying the last hash if the execution hands it over. -/
theorem carriesLast_process (sound : Sound history.tables) (carries : CarriesLast history)
    {execution : Execution} (hands : HandsOver history (.process execution)) :
    CarriesLast (step settings history (.process execution)) := by
  cases found : getRunItem history.tables execution.runItemId with
  | none =>
      have idle : step settings history (.process execution) = history := by
        simp only [step, processRunItem, recordComputed, found]
      rwa [idle]
  | some pair =>
      rcases pair with ⟨item, source⟩
      have ofSource := (getRunItem_eq_some found).2
      have records : (step settings history (.process execution)).lastComputed =
          recordComputed settings history execution := rfl
      rw [recordComputed, found] at records
      dsimp only at records
      rw [ofSource] at records
      rcases processRunItem_cases found settings with
        ⟨goes, leaves⟩ | ⟨_, _, payload, diff, goes, examined, completes⟩ |
          ⟨goes, status, unfinished, leaves⟩
      · rw [goes] at records
        rcases examine_of_rawHashUnchanged goes with ⟨rawHash, examined⟩
        rw [HandsOver, found] at hands
        dsimp only at hands
        rw [examined] at hands
        exact (carriesLast_iff_of_skipped sound carries leaves records).mpr hands
      · rw [goes] at records
        have current : diff.currentHash = computeSemanticHash payload := by
          rw [(examine_eq_compared examined).2.2]
          rfl
        rw [HandsOver, found] at hands
        dsimp only at hands
        rw [examined] at hands
        exact (carriesLast_iff_of_completes sound carries completes current records).mpr hands.1
      · have without := carriedWithout_of_handsOver found goes hands
        rw [goes] at records
        exact (carriesLast_iff_of_unfinished sound carries unfinished leaves records).mpr without

theorem carriesLast_step (sound : Sound history.tables) (carries : CarriesLast history)
    {action : Action} (hands : HandsOver history action) :
    CarriesLast (step settings history action) := by
  cases action with
  | createRunItem id sourceId createdAt =>
      intro source previous computed
      have every := carries source previous computed
      rwa [← finishedItems_createRunItem history.tables id source sourceId createdAt] at every
  | process execution => exact carriesLast_process sound carries hands
  | others rules sources => exact carries

omit [UnicodeData] in
/-- An item created after all finished ones hands the hash over unless its raw content is
unchanged. -/
theorem handsOver_of_newest {execution : Execution}
    (newest : ∀ found ∈ getRunItem history.tables execution.runItemId,
      ¬ Finished found.1.status ∧
        (∀ other ∈ othersFinished history.tables.items found.1,
          other.createdAt < found.1.createdAt) ∧
        ∀ content ∈ execution.content,
          (getLatestBronzeDocument history.tables found.2.id).any
            (·.checksumSha256 = Sha256.hexdigest content) = false) :
    HandsOver history (.process execution) := by
  rw [HandsOver]
  cases found : getRunItem history.tables execution.runItemId with
  | none => trivial
  | some pair =>
      rcases newest pair found with ⟨unfinished, later, changed⟩
      have without : CarriedWithout history pair.1 := fun finished => absurd finished unfinished
      dsimp only
      split
      · next examined =>
          rcases examine_eq_ok examined with ⟨-, other⟩ | ⟨-, content, fetched, same | other⟩
          · cases other
          · have isSame : (getLatestBronzeDocument history.tables pair.2.id).any
                (·.checksumSha256 = Sha256.hexdigest content) = true := same.1
            rw [changed content fetched] at isSame
            cases isSame
          · rcases other with ⟨-, _, _, -, other⟩
            cases other
      · refine ⟨?_, without⟩
        rintro last ⟨lastMem, -⟩ notBefore
        exact absurd (later last lastMem) (not_lt.mpr notBefore)
      · exact without

end Step

section Repeats

variable [Pydantic] [Sha256] {tables : Tables} {item : IngestionRunItem}
  {previous : NormalizedProgramPayload}

/-- The other finished items carry the hash that the last ones carry, if the item has no collected
document. -/
theorem carries_others (sound : Sound tables) (itemMem : item ∈ tables.items)
    (notCollected : item.id ∉ tables.bronzeDocuments.map (·.ingestionRunItemId))
    (carries : EveryFirst creation (Carries previous) (finishedItems tables.items item.sourceId)) :
    EveryFirst creation (Carries previous) (othersFinished tables.items item) := by
  have noHash : item.semanticHashSha256 = none := by
    by_contra carriesHash
    exact notCollected (sound.collected item itemMem carriesHash)
  have stays := replaces_self sound.itemIds itemMem
  by_cases finished : Finished item.status
  · -- A finished item without a hash is not the last one.
    have before := carries
    rw [everyFirst_carries_left_iff stays, if_pos finished, Carries, noHash] at before
    have later := before.1.resolve_right (by simp)
    apply (everyFirst_add_of_before ?_ later).mp carries
    intro other
    rw [mem_finishedItems_left stays]
    simp [finished]
  · rwa [everyFirst_carries_left_iff stays, if_neg finished] at carries

variable [UnicodeData] {history : History}

/-- A repeated payload is found unchanged exactly if its hash is found. -/
theorem repeatUnchanged_iff_findsHash (settings : Settings) (action : Action) :
    RepeatUnchanged settings history action ↔ FindsHash history action := by
  cases action with
  | createRunItem id sourceId createdAt => exact Iff.rfl
  | others rules sources => exact Iff.rfl
  | process execution =>
      rw [RepeatUnchanged, FindsHash]
      cases found : getRunItem history.tables execution.runItemId with
      | none => simp [comparison, found]
      | some pair =>
          rcases pair with ⟨item, source⟩
          have ofSource := (getRunItem_eq_some found).2
          simp only [comparison, found]
          cases examined : examine (markRunning history.tables item) source item execution with
          | error error => simp
          | ok examination =>
              cases examination with
              | quarantined => simp
              | rawHashUnchanged rawHash => simp
              | compared rawHash rawStorageUri payload diff =>
                  have isDiff := (examine_eq_compared examined).2.2
                  rw [getLastCompletedItem, ofSource, finishedItems_markRunning] at isDiff
                  have versions : diff.changed = false →
                      (processRunItem settings history.tables execution).1.rules.versions =
                        history.tables.rules.versions := by
                    intro unchanged
                    rcases processRunItem_cases found settings with
                      ⟨-, leaves⟩ | ⟨_, _, _, _, -, again, completes⟩ | ⟨-, status, -, leaves⟩
                    · rw [leaves.rules]
                    · rw [examined] at again
                      cases again
                      exact completes.versions unchanged
                    · rw [leaves.rules]
                  constructor
                  · intro repeats previous computed same
                    have unchanged := (repeats source.id payload diff previous rfl computed same).1
                    rw [isDiff, changed_compare_eq_false] at unchanged
                    rcases Option.bind_eq_some_iff.mp unchanged with ⟨last, isLast, carries⟩
                    refine ⟨last, isLast, ?_⟩
                    rw [Carries, carries, computeSemanticHash_of_sameContent same]
                  · rintro finds sourceId other otherDiff previous ⟨⟩ computed same
                    rcases finds previous computed same with ⟨last, isLast, carries⟩
                    have unchanged : diff.changed = false := by
                      rw [isDiff, changed_compare_eq_false, isLast, Option.bind_some, carries,
                        computeSemanticHash_of_sameContent same]
                    exact ⟨unchanged, versions unchanged⟩

omit [UnicodeData] in
theorem findsHash_of_carriesLast (sound : Sound history.tables) (carries : CarriesLast history)
    (action : Action) : FindsHash history action := by
  cases action with
  | createRunItem id sourceId createdAt => trivial
  | others rules sources => trivial
  | process execution =>
      rw [FindsHash]
      cases found : getRunItem history.tables execution.runItemId with
      | none => trivial
      | some pair =>
          rcases pair with ⟨item, source⟩
          rcases getRunItem_eq_some found with ⟨itemMem, ofSource⟩
          dsimp only
          split
          · next examined =>
              intro previous computed same
              have every := carries source.id previous computed
              rw [ofSource] at every
              exact (carries_others sound itemMem (examine_eq_compared examined).1 every).head?
          · trivial

end Repeats

section Runs

theorem sound_initial (rules : Database) (sources : List Source) :
    Sound (initial rules sources).tables :=
  ⟨List.nodup_nil, fun _ mem => absurd mem List.not_mem_nil⟩

variable [Pydantic] [Sha256]

theorem carriesLast_initial (rules : Database) (sources : List Source) :
    CarriesLast (initial rules sources) := by
  intro sourceId previous computed
  exact absurd computed (by simp [initial])

variable [UnicodeData]

/-- In a run whose executions all hand the hash over, every repeated payload finds its hash. -/
theorem along_findsHash (settings : Settings) (rules : Database) (sources : List Source)
    {actions : List Action}
    (handsOver : Along (step settings) HandsOver (initial rules sources) actions) :
    Along (step settings) FindsHash (initial rules sources) actions := by
  have kept : ∀ history action, Sound history.tables ∧ CarriesLast history →
      HandsOver history action →
      Sound (step settings history action).tables ∧ CarriesLast (step settings history action) := by
    rintro history action ⟨sound, carries⟩ hands
    exact ⟨sound_step settings history action sound, carriesLast_step sound carries hands⟩
  refine handsOver.sharpen kept ?_ ⟨sound_initial rules sources, carriesLast_initial rules sources⟩
  rintro history action ⟨sound, carries⟩ -
  exact findsHash_of_carriesLast sound carries action

/-- Every repeated payload of a run is found unchanged exactly if it finds its hash, and so it is
in a run whose executions all hand the hash over. -/
theorem along_repeatUnchanged (settings : Settings) (rules : Database) (sources : List Source)
    (actions : List Action) :
    (Along (step settings) (RepeatUnchanged settings) (initial rules sources) actions ↔
      Along (step settings) FindsHash (initial rules sources) actions) ∧
    (Along (step settings) HandsOver (initial rules sources) actions →
      Along (step settings) (RepeatUnchanged settings) (initial rules sources) actions) := by
  have same : Along (step settings) (RepeatUnchanged settings) (initial rules sources) actions ↔
      Along (step settings) FindsHash (initial rules sources) actions := by
    constructor
    · intro along
      exact along.imp fun history action => (repeatUnchanged_iff_findsHash settings action).mp
    · intro along
      exact along.imp fun history action => (repeatUnchanged_iff_findsHash settings action).mpr
  refine ⟨same, ?_⟩
  intro handsOver
  exact same.mpr (along_findsHash settings rules sources handsOver)

end Runs

section Extracted

variable [Pydantic] [Sha256]

theorem extracts_of_comparison {tables : Tables} {execution : Execution} {sourceId : UUID}
    {payload : NormalizedProgramPayload} {diff : DiffSummary}
    (compared : comparison tables execution = some (sourceId, payload, diff)) :
    Extracts execution payload := by
  rw [comparison] at compared
  split at compared
  · exact absurd compared (by simp)
  · split at compared
    · next examined =>
        cases compared
        exact (examine_eq_compared examined).2.1
    · exact absurd compared (by simp)

variable [UnicodeData] {settings : Settings} {history : History} {execution : Execution}

theorem extracts_of_recordComputed {sourceId : UUID} {payload : NormalizedProgramPayload}
    (recorded : recordComputed settings history execution sourceId = some payload) :
    history.lastComputed sourceId = some payload ∨ Extracts execution payload := by
  rw [recordComputed] at recorded
  cases found : getRunItem history.tables execution.runItemId with
  | none => exact Or.inl (by simpa [found] using recorded)
  | some pair =>
      rcases processRunItem_cases found settings with
        ⟨goes, -⟩ | ⟨_, _, computed, _, goes, examined, -⟩ | ⟨goes, -⟩
      · exact Or.inl (by simpa [found, goes] using recorded)
      · rw [found] at recorded
        dsimp only at recorded
        rw [goes] at recorded
        dsimp only at recorded
        by_cases same : sourceId = pair.2.id
        · subst same
          rw [Function.update_self] at recorded
          cases recorded
          exact Or.inr (examine_eq_compared examined).2.1
        · rw [Function.update_of_ne same] at recorded
          exact Or.inl recorded
      · exact Or.inl (by simpa [found, goes] using recorded)

end Extracted

section Sample

local instance pipelineUnicodeData : UnicodeData := UnicodeData.ascii

local instance pipelinePydantic : Pydantic where
  toInt _ := none
  toBool _ := none
  toDecimal _ := none
  toDatetime _ := none
  isoformat datetime := datetime.wallClock.isoformat

/-- The digests of the contents "A" and "B" and of the canonical form of `repeatedPayload`. -/
local instance pipelineSha256 : Sha256 where
  sha256Hex _ := "301a40baead48bcfb61796809f7c325f533ab0a4fc7c5eb34d3649932cc7f820"
  hexdigest content :=
    if content = [65] then "559aead08264d5795d3909718cdd05abd49572e84fe55590eef31a88a08fdffd"
    else "df7e70e5021544f4834bbee64a9e3789febc4be81470df629cad6ddb03320a5c"
  sha256Hex_ne_empty _ := by decide

def repeatedPayload : NormalizedProgramPayload :=
  { samplePayload with manualReviewRequired := false }

def sampleSettings : Settings := ⟨fun failedAt => failedAt + 3600000000, 3⟩

def collectedSource : Source where
  id := 19
  sourceKey := "ca-express-entry"
  countryCode := "CA"
  parserVersion := "1.0.0"
  confidenceThreshold := ⟨false, 60, -2⟩
  quarantineUntil := none
  consecutiveFailures := 0

/-- An execution that extracts the payload from what it fetches. -/
def sampleExecution (runItemId : ℕ) (content : List UInt8) (now : Instant) : Execution where
  runItemId := Fin.ofNat _ runItemId
  now := now
  content := some content
  rawStorageUri := some "bronze/ca-express-entry"
  bronzeCreatedAt := now
  deterministic := some repeatedPayload
  llmFallback := none
  replacesSilverSections := true
  ids := {
    country := Fin.ofNat _ (runItemId + 100)
    program := Fin.ofNat _ (runItemId + 200)
    version := Fin.ofNat _ (runItemId + 300)
    group position := Fin.ofNat _ (1000 * runItemId + position)
    condition position index := Fin.ofNat _ (1000 * runItemId + 10 * position + index)
    outcome position index := Fin.ofNat _ (1000 * runItemId + 10 * position + index)
    sourceDocument := Fin.ofNat _ (runItemId + 400)
    sourceExtraction := Fin.ofNat _ (runItemId + 500) }
  times := ⟨now, now, now⟩
  failedAt := now

/-- A new item and its execution. -/
def sampleActions (runItemId : ℕ) (content : List UInt8) (now : Instant) : List Action :=
  [.createRunItem (Fin.ofNat _ runItemId) collectedSource.id now,
    .process (sampleExecution runItemId content now)]

def sampleInitial : History := initial sampleCatalogue [collectedSource]

theorem eq_of_extracts_sampleExecution {runItemId : ℕ} {content : List UInt8} {now : Instant}
    {payload : NormalizedProgramPayload}
    (extracts : Extracts (sampleExecution runItemId content now) payload) :
    payload = repeatedPayload := by
  rcases extracts with deterministic | fallback
  · exact (Option.some.inj deterministic).symm
  · exact absurd fallback (by simp [sampleExecution])

theorem lastComputed_sampleActions {history : History} {runItemId : ℕ} {content : List UInt8}
    {now : Instant} {sourceId : UUID} {previous : NormalizedProgramPayload}
    (computed : (run (step sampleSettings) history
      (sampleActions runItemId content now)).lastComputed sourceId = some previous) :
    history.lastComputed sourceId = some previous ∨ previous = repeatedPayload := by
  rcases extracts_of_recordComputed computed with before | extracts
  · exact Or.inl before
  · exact Or.inr (eq_of_extracts_sampleExecution extracts)

theorem repeatUnchanged_sample :
    Along (step sampleSettings) (RepeatUnchanged sampleSettings) sampleInitial
      (sampleActions 31 [65] 20000000 ++ sampleActions 32 [66] 30000000) := by
  apply (along_repeatUnchanged sampleSettings _ _ _).2
  refine ⟨trivial, handsOver_of_newest ?_, trivial, handsOver_of_newest ?_, trivial⟩
  · decide +kernel
  · decide +kernel

/-- "A", again "A" and then "B" with the same payload: the third execution finds it changed and
publishes it again. -/
theorem skipped_item_loses_hash :
    ¬ Along (step sampleSettings) (RepeatUnchanged sampleSettings) sampleInitial
      (sampleActions 31 [65] 20000000 ++ sampleActions 32 [65] 30000000 ++
        sampleActions 33 [66] 40000000) := by
  intro along
  rw [along_append] at along
  rcases along with ⟨-, -, repeats, -⟩
  generalize reached : step sampleSettings (run (step sampleSettings) sampleInitial
    (sampleActions 31 [65] 20000000 ++ sampleActions 32 [65] 30000000)) _ = history at repeats
  have changes : ((comparison history.tables (sampleExecution 33 [66] 40000000)).map
      fun compared => (compared.1, compared.2.2.changed)) = some (19, true) := by
    rw [← reached]
    decide +kernel
  have computes : (history.lastComputed 19).isSome := by
    rw [← reached]
    decide +kernel
  rcases Option.isSome_iff_exists.mp computes with ⟨previous, computed⟩
  rcases Option.map_eq_some_iff.mp changes with ⟨⟨sourceId, payload, diff⟩, compared, isChanged⟩
  rcases Prod.mk.inj isChanged with ⟨ofSource, changed⟩
  dsimp only at ofSource changed
  rw [← ofSource] at computed
  have isPayload : payload = repeatedPayload :=
    eq_of_extracts_sampleExecution (extracts_of_comparison compared)
  have isPrevious : previous = repeatedPayload := by
    rw [← reached, run_append] at computed
    rcases lastComputed_sampleActions computed with earlier | same
    · rcases lastComputed_sampleActions earlier with initially | same
      · exact absurd initially (by simp [sampleInitial, initial])
      · exact same
    · exact same
  have same : SameContent previous payload := by
    rw [isPayload, isPrevious]
    rfl
  have unchanged := (repeats sourceId payload diff previous compared computed same).1
  rw [changed] at unchanged
  exact absurd unchanged (by decide)

end Sample

end ImigrAI.Ingestion.Pipeline
