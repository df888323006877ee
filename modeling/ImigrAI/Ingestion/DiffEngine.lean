import ImigrAI.ImmigrationRules.ActiveVersions
import ImigrAI.Ingestion.Pipeline
import Mathlib.Data.Finset.Basic
import Mathlib.Data.Finset.Card

/-!
# The diff of a payload and a published version

`DiffEngine.compare` in full. The rule groups are compared by their codes and the conditions by
signatures, which are made of the payload on one side and of the stored rows on the other. A
published version has the codes and signatures of its payload.
-/

namespace ImigrAI.Ingestion.DiffEngine

open Python ImmigrationRules Fallible

structure DiffSummary where
  changed : Bool
  previousHash : Option String
  currentHash : String
  semanticSimilarity : PyFloat
  addedRuleGroups : ℕ
  removedRuleGroups : ℕ
  addedConditions : ℕ
  removedConditions : ℕ
  notes : Option String

/-- `program_version.rule_groups`. -/
def ruleGroupsOf (tables : Tables) (programVersionId : UUID) : List RuleGroup :=
  tables.ruleGroups.filter fun group => group.programVersionId = programVersionId

def similarity (current previous : Finset String) : PyFloat :=
  if current ∪ previous = ∅ then .ofRat 0
  else .ofRat ((current ∩ previous).card / (current ∪ previous).card)

/-- What is added to a set less what is removed from it is how much it grows. -/
theorem card_sdiff_sub_card_sdiff (current previous : Finset String) :
    ((current \ previous).card : ℤ) - (previous \ current).card = current.card - previous.card := by
  have added := Finset.card_sdiff_add_card_inter current previous
  have removed := Finset.card_sdiff_add_card_inter previous current
  rw [Finset.inter_comm] at removed
  omega

theorem inUnit_similarity (current previous : Finset String) :
    (similarity current previous).InUnit := by
  unfold similarity
  split_ifs with empty
  · exact PyFloat.inUnit_ofRat le_rfl zero_le_one
  · have positive : (0 : ℚ) < (current ∪ previous).card := by
      exact_mod_cast Finset.card_pos.mpr (Finset.nonempty_iff_ne_empty.mpr empty)
    have part : ((current ∩ previous).card : ℚ) ≤ (current ∪ previous).card := by
      exact_mod_cast Finset.card_le_card Finset.inter_subset_union
    apply PyFloat.inUnit_ofRat
    · positivity
    · exact (div_le_one positive).mpr part

theorem similarity_self {codes : Finset String} (nonempty : codes ≠ ∅) :
    similarity codes codes = .ofRat 1 := by
  have positive : (codes.card : ℚ) ≠ 0 := by
    exact_mod_cast Finset.card_ne_zero.mpr (Finset.nonempty_iff_ne_empty.mpr nonempty)
  rw [similarity, Finset.union_self, Finset.inter_self, if_neg nonempty, div_self positive]

section Compare

variable [Hashlib]

def signature (code fieldKey operator : String) (valueJson : Value) : String :=
  Hashlib.sha256Hex
    (Value.list [.str code, .str fieldKey, .str operator, valueJson]).dumpsSpaced

/-- `_condition_signatures_from_payload`; `str` of a `StrEnum` is its value. -/
def conditionSignaturesFromPayload (payload : NormalizedProgramPayload) : Finset String :=
  (payload.ruleGroups.flatMap fun group => group.conditions.map fun condition =>
    signature group.code condition.fieldKey condition.operator.value
      condition.valueJson.value).toFinset

def conditionSignaturesFromProgramVersion (ruleGroups : List RuleGroup) : Finset String :=
  (ruleGroups.flatMap fun group => group.conditions.map fun condition =>
    signature group.code condition.fieldKey condition.operator.value
      condition.valueJson.value).toFinset

/-- The rest of `compare` when the hashes differ, with the rule groups of the previous version. -/
def structuralDiff (payload : NormalizedProgramPayload) (currentHash : String)
    (previousHash : Option String) (previousRuleGroups : Option (List RuleGroup)) :
    DiffSummary :=
  let currentGroups := (payload.ruleGroups.map (·.code)).toFinset
  let currentConditions := conditionSignaturesFromPayload payload
  let previousGroups := ((previousRuleGroups.getD []).map (·.code)).toFinset
  let previousConditions := conditionSignaturesFromProgramVersion (previousRuleGroups.getD [])
  { changed := true
    previousHash := previousHash
    currentHash := currentHash
    semanticSimilarity := (similarity currentGroups previousGroups).roundTo 4
    addedRuleGroups := (currentGroups \ previousGroups).card
    removedRuleGroups := (previousGroups \ currentGroups).card
    addedConditions := (currentConditions \ previousConditions).card
    removedConditions := (previousConditions \ currentConditions).card
    notes :=
      if previousRuleGroups.isSome then none
      else "First published version for this program." }

def compare (payload : NormalizedProgramPayload) (currentHash : String)
    (previousHash : Option String) (previousRuleGroups : Option (List RuleGroup)) :
    DiffSummary :=
  if previousHash.any (· ≠ "") ∧ previousHash = some currentHash then {
    changed := false
    previousHash := previousHash
    currentHash := currentHash
    semanticSimilarity := .ofRat 1
    addedRuleGroups := 0
    removedRuleGroups := 0
    addedConditions := 0
    removedConditions := 0
    notes := "No change detected by semantic hash." }
  else structuralDiff payload currentHash previousHash previousRuleGroups

variable (payload : NormalizedProgramPayload) (currentHash : String) (previousHash : Option String)

/-- No rule group and no condition is added or removed, and the similarity is 1.0. -/
structure ReportsNoDifference (diff : DiffSummary) : Prop where
  addedRuleGroups : diff.addedRuleGroups = 0
  removedRuleGroups : diff.removedRuleGroups = 0
  addedConditions : diff.addedConditions = 0
  removedConditions : diff.removedConditions = 0
  similar : payload.ruleGroups ≠ [] → diff.semanticSimilarity = .ofRat 1

/-- The counts account for the numbers of codes and of signatures. -/
structure Balances (ruleGroups : List RuleGroup) (diff : DiffSummary) : Prop where
  groups : (diff.addedRuleGroups : ℤ) - diff.removedRuleGroups =
    (payload.ruleGroups.map (·.code)).toFinset.card - (ruleGroups.map (·.code)).toFinset.card
  conditions : (diff.addedConditions : ℤ) - diff.removedConditions =
    (conditionSignaturesFromPayload payload).card -
      (conditionSignaturesFromProgramVersion ruleGroups).card

/-- The pipeline decides on the same fields. -/
theorem compare_pipeline (previousRuleGroups : Option (List RuleGroup)) :
    let diff := compare payload currentHash previousHash previousRuleGroups
    Pipeline.compare currentHash previousHash =
      ⟨diff.changed, diff.previousHash, diff.currentHash⟩ := by
  dsimp only
  by_cases same : previousHash.any (· ≠ "") ∧ previousHash = some currentHash
  · rw [compare, if_pos same, Pipeline.compare, decide_eq_true same.2, same.1]
    rfl
  · have differs : (previousHash.any (· ≠ "") && decide (previousHash = some currentHash)) =
        false := by
      rw [Bool.eq_false_iff]
      intro equal
      rw [Bool.and_eq_true, decide_eq_true_eq] at equal
      exact same equal
    rw [compare, if_neg same, Pipeline.compare, differs]
    rfl

theorem inUnit_compare (previousRuleGroups : Option (List RuleGroup)) :
    (compare payload currentHash previousHash previousRuleGroups).semanticSimilarity.InUnit := by
  rw [compare]
  split
  · exact PyFloat.inUnit_ofRat zero_le_one le_rfl
  · exact PyFloat.inUnit_roundTo (inUnit_similarity _ _) 4

theorem balances_compare (different : previousHash ≠ some currentHash)
    (ruleGroups : List RuleGroup) :
    Balances payload ruleGroups (compare payload currentHash previousHash (some ruleGroups)) := by
  rw [compare, if_neg fun same => different same.2]
  constructor
  · simp only [structuralDiff, Option.getD_some]
    exact card_sdiff_sub_card_sdiff _ _
  · simp only [structuralDiff, Option.getD_some]
    exact card_sdiff_sub_card_sdiff _ _

/-- Rows with the codes and the signatures of the payload. -/
theorem reportsNoDifference_compare {ruleGroups : List RuleGroup}
    (codes : ruleGroups.map (·.code) = payload.ruleGroups.map (·.code))
    (conditions : conditionSignaturesFromProgramVersion ruleGroups =
      conditionSignaturesFromPayload payload) :
    ReportsNoDifference payload (compare payload currentHash previousHash (some ruleGroups)) := by
  rw [compare]
  split
  · exact ⟨rfl, rfl, rfl, rfl, fun _ => rfl⟩
  · refine ⟨?_, ?_, ?_, ?_, ?_⟩
    · simp [structuralDiff, codes]
    · simp [structuralDiff, codes]
    · simp [structuralDiff, conditions]
    · simp [structuralDiff, conditions]
    · intro nonempty
      have someCode : (payload.ruleGroups.map (·.code)).toFinset ≠ ∅ := by
        simpa using nonempty
      simp only [structuralDiff, Option.getD_some, codes]
      rw [similarity_self someCode, PyFloat.roundTo_ofRat_one]

section Stored

variable {ids : PublicationIds} {programVersionId : UUID}

omit [Hashlib] in
theorem code_storedGroup {position : ℕ} {group : NormalizedRuleGroup} {row : RuleGroup}
    (stored : storedGroup ids programVersionId position group = .ok row) :
    row.code = group.code := by
  rcases bind_eq_ok_iff.mp stored with ⟨outcomes, -, made⟩
  cases made
  rfl

/-- The signatures of a stored group are those of the group of the payload. -/
theorem signatures_storedGroup {position : ℕ} {group : NormalizedRuleGroup} {row : RuleGroup}
    (stored : storedGroup ids programVersionId position group = .ok row) :
    (row.conditions.map fun condition =>
        signature row.code condition.fieldKey condition.operator.value condition.valueJson.value) =
      group.conditions.map fun condition =>
        signature group.code condition.fieldKey condition.operator.value
          condition.valueJson.value := by
  rcases bind_eq_ok_iff.mp stored with ⟨outcomes, -, made⟩
  cases made
  rw [List.map_map]
  conv_rhs => rw [← List.zipIdx_map_fst 0 group.conditions, List.map_map]
  rfl

variable {entries : List (NormalizedRuleGroup × ℕ)} {rows : List RuleGroup}

omit [Hashlib] in
theorem codes_storesGroups (stores : StoresGroups ids programVersionId entries rows) :
    rows.map (·.code) = (entries.map Prod.fst).map (·.code) := by
  induction stores with
  | nil => rfl
  | cons stored rest ih =>
      simp only [List.map_cons, ih, code_storedGroup stored]

theorem signatures_storesGroups (stores : StoresGroups ids programVersionId entries rows) :
    (rows.flatMap fun group => group.conditions.map fun condition =>
        signature group.code condition.fieldKey condition.operator.value
          condition.valueJson.value) =
      (entries.map Prod.fst).flatMap fun group => group.conditions.map fun condition =>
        signature group.code condition.fieldKey condition.operator.value
          condition.valueJson.value := by
  induction stores with
  | nil => rfl
  | cons stored rest ih =>
      simp only [List.map_cons, List.flatMap_cons, ih, signatures_storedGroup stored]

end Stored

/-- The version a payload was published as does not differ from the payload, whatever the previous
hash. Against any stored version the counts balance, unless the hash is the previous one, and
the similarity is a number from 0 to 1. -/
theorem compare_agrees_with_publication :
    (∀ (db published : Database) (ids : PublicationIds) (times : PublicationTimes)
        (programId versionId : UUID) (semanticHash : String),
      publishVersion db ids times programId payload semanticHash = .ok (published, versionId) →
        ReportsNoDifference payload (compare payload currentHash previousHash
          (some (ruleGroupsOf published.toTables versionId)))) ∧
    ∀ (db : Database), ∀ version ∈ db.versions,
      let ruleGroups := ruleGroupsOf db.toTables version.id
      let diff := compare payload currentHash previousHash (some ruleGroups)
      (previousHash ≠ some currentHash → Balances payload ruleGroups diff) ∧
        diff.semanticSimilarity.InUnit := by
  constructor
  · intro db published ids times programId versionId semanticHash publishing
    have stores := ruleGroups_publishVersion publishing
    have codes := codes_storesGroups stores
    have signatures := signatures_storesGroups stores
    rw [List.zipIdx_map_fst] at codes signatures
    apply reportsNoDifference_compare payload currentHash previousHash codes
    exact congrArg List.toFinset signatures
  · intro db version _
    refine ⟨?_, inUnit_compare payload currentHash previousHash _⟩
    intro different
    exact balances_compare payload currentHash previousHash different _

end Compare

section Sample

/-- The digest of the signature of the one condition of `samplePayload`. -/
local instance diffedHashlib : Hashlib where
  sha256Hex _ := "d800506abac6bb8bf76ece3e52d4804276a22e5b6f0ae7e7d64ad69f3deeb95f"

example : (Value.list [.str "baseline_publication_guard", .str "escolaridade_rank", .str "gte",
    .int 0]).dumpsSpaced =
      "[\"baseline_publication_guard\", \"escolaridade_rank\", \"gte\", 0]" := by
  decide +kernel

def diffedIds : PublicationIds where
  country := 11
  program := 12
  version := 13
  group position := Fin.ofNat _ (20 + position)
  condition position index := Fin.ofNat _ (100 + 10 * position + index)
  outcome position index := Fin.ofNat _ (200 + 10 * position + index)
  sourceDocument := 17
  sourceExtraction := 18

/-- The payload is published next to a version with another group, and compared with both. -/
theorem compare_agrees_with_publication_sample :
    ∃ published versionId,
      publishVersion sampleCatalogue diffedIds ⟨20, 20, 20⟩ 2 samplePayload "0123456789abcdef" =
        .ok (published, versionId) ∧
      ReportsNoDifference samplePayload (compare samplePayload "0123456789abcdef"
        (some "fedcba9876543210") (some (ruleGroupsOf published.toTables versionId))) ∧
      Balances samplePayload (ruleGroupsOf sampleCatalogue.toTables sampleVersion.id)
        (compare samplePayload "0123456789abcdef" (some "fedcba9876543210")
          (some (ruleGroupsOf sampleCatalogue.toTables sampleVersion.id))) := by
  have succeeds : (publishVersion sampleCatalogue diffedIds ⟨20, 20, 20⟩ 2 samplePayload
      "0123456789abcdef").toOption.isSome := by
    decide +kernel
  rcases Option.isSome_iff_exists.mp succeeds with ⟨⟨published, versionId⟩, publishes⟩
  have publishing := toOption_eq_some_iff.mp publishes
  have agrees := compare_agrees_with_publication samplePayload "0123456789abcdef"
    (some "fedcba9876543210")
  refine ⟨published, versionId, publishing, ?_, ?_⟩
  · exact agrees.1 sampleCatalogue published diffedIds _ 2 versionId _ publishing
  · have stored : sampleVersion ∈ sampleCatalogue.versions := by
      simp [sampleCatalogue]
    exact (agrees.2 sampleCatalogue sampleVersion stored).1 (by decide)

end Sample

end ImigrAI.Ingestion.DiffEngine
