import ImigrAI.ImmigrationRules.Updates

/-!
# How updating calls end

An updating call should end with the set fields changed, or with a response of not found or
conflict and nothing changed. It does not where the database refuses a value, where an update of
an active version meets a constraint or another version at the overlap query, and where several
versions are in the way of an activation.
-/

namespace ImigrAI.ImmigrationRules.Updates

open Python Fallible PartialUpdates Rows Runs Sorting Statements

section Outcomes

variable [Backend]

/-- The error is a response of not found or conflict. -/
def Responds : ServiceError → Prop
  | .http statusCode _ => statusCode = 404 ∨ statusCode = 409
  | _ => False

structure CountryUpdate.Changes (payload : CountryUpdate) (row updated : CountryRow) : Prop where
  id : updated.id = row.id
  code : updated.code = row.code
  name : Sets (Backend.string 120) payload.name (some row.name) (some updated.name)
  priorityRank : Sets Backend.integer payload.priorityRank row.priorityRank updated.priorityRank
  diasporaPopulationEstimate : Sets Backend.integer payload.diasporaPopulationEstimate
    row.diasporaPopulationEstimate updated.diasporaPopulationEstimate
  prioritizationSourceUrl : Sets Backend.text payload.prioritizationSourceUrl
    row.prioritizationSourceUrl updated.prioritizationSourceUrl
  isActive : Sets some payload.isActive (some row.isActive) (some updated.isActive)

structure ImmigrationProgramUpdate.Changes (payload : ImmigrationProgramUpdate)
    (row updated : ImmigrationProgram) : Prop where
  id : updated.id = row.id
  countryId : updated.countryId = row.countryId
  code : updated.code = row.code
  name : Sets (Backend.string 160) payload.name (some row.name) (some updated.name)
  description : Sets Backend.text payload.description row.description updated.description
  isActive : Sets some payload.isActive (some row.isActive) (some updated.isActive)

structure ProgramVersionUpdate.Changes (payload : ProgramVersionUpdate)
    (row updated : ProgramVersion) : Prop where
  id : updated.id = row.id
  programId : updated.programId = row.programId
  version : Sets (Backend.string 32) payload.version (some row.version) (some updated.version)
  status : Sets some payload.status (some row.status) (some updated.status)
  effectiveFrom : Sets Backend.timestamp payload.effectiveFrom (some row.effectiveFrom)
    (some updated.effectiveFrom)
  effectiveTo : Sets Backend.timestamp payload.effectiveTo row.effectiveTo updated.effectiveTo
  createdAt : updated.createdAt = row.createdAt

structure RuleGroupUpdate.Changes (payload : RuleGroupUpdate) (row updated : RuleGroup) :
    Prop where
  id : updated.id = row.id
  programVersionId : updated.programVersionId = row.programVersionId
  code : updated.code = row.code
  name : Sets (Backend.string 160) payload.name (some row.name) (some updated.name)
  description : Sets Backend.text payload.description row.description updated.description
  priority : Sets Backend.integer payload.priority (some row.priority) (some updated.priority)
  matchOperator : Sets some payload.matchOperator (some row.matchOperator)
    (some updated.matchOperator)
  isActive : Sets some payload.isActive (some row.isActive) (some updated.isActive)
  conditions : updated.conditions = row.conditions
  outcomes : updated.outcomes = row.outcomes

structure RuleConditionUpdate.Changes (payload : RuleConditionUpdate)
    (row updated : RuleCondition) : Prop where
  id : updated.id = row.id
  fieldKey : Sets (Backend.string 120) payload.fieldKey (some row.fieldKey) (some updated.fieldKey)
  operator : Sets some payload.operator (some row.operator) (some updated.operator)
  valueJson : Sets (Backend.json row.valueJson) payload.sentJson (some row.valueJson)
    (some updated.valueJson)
  conditionOrder : Sets Backend.integer payload.conditionOrder (some row.conditionOrder)
    (some updated.conditionOrder)
  isRequired : Sets some payload.isRequired (some row.isRequired) (some updated.isRequired)

structure RuleOutcomeUpdate.Changes (payload : RuleOutcomeUpdate) (row updated : RuleOutcome) :
    Prop where
  id : updated.id = row.id
  scoreDelta : Sets (Backend.numeric row.scoreDelta) payload.scoreDelta (some row.scoreDelta)
    (some updated.scoreDelta)
  isBlocking : Sets some payload.isBlocking (some row.isBlocking) (some updated.isBlocking)
  explanationMessage : Sets Backend.text payload.explanationMessage (some row.explanationMessage)
    (some updated.explanationMessage)
  outcomeCode : Sets (Backend.string 64) payload.outcomeCode row.outcomeCode updated.outcomeCode

/-- The row with this key has changed, and no other row has. -/
def Replaces {Row : Type} (rows : List Row) (key : Row → UUID) (id : UUID)
    (changes : Row → Row → Prop) (place : Row → CatalogueRows) (after : CatalogueRows) : Prop :=
  ∃ row ∈ rows, key row = id ∧ ∃ updated, changes row updated ∧ after = place updated

/-- The target is active, and nothing but statuses has changed. -/
def Activates (id : UUID) (before after : CatalogueRows) : Prop :=
  ∃ versions : List ProgramVersion,
    versions.map Exclusion.withoutStatus = before.versions.map Exclusion.withoutStatus ∧
      (∃ target ∈ versions, target.id = id ∧ target.status = .active) ∧
        after = { before with versions := versions }

/-- The changes that a call is to make. -/
def UpdateCall.Changes (before : CatalogueRows) : UpdateCall → CatalogueRows → Prop
  | country id payload => Replaces before.countries (·.id) id payload.Changes before.withCountry
  | program id payload => Replaces before.programs (·.id) id payload.Changes before.withProgram
  | programVersion id payload =>
      Replaces before.versions (·.id) id payload.Changes before.withVersion
  | ruleGroup id payload =>
      Replaces before.ruleGroups (·.id) id payload.Changes before.withRuleGroup
  | ruleCondition id payload =>
      Replaces (before.ruleGroups.flatMap (·.conditions)) (·.id) id payload.Changes
        before.withRuleCondition
  | ruleOutcome id payload =>
      Replaces (before.ruleGroups.flatMap (·.outcomes)) (·.id) id payload.Changes
        before.withRuleOutcome
  | activation id _ => Activates id before

/-- The outcome is a change of this kind or a response. -/
def Settles (changes : CatalogueRows → Prop) : Except ServiceError Store → Prop
  | .ok updated => changes updated.val
  | .error error => Responds error

/-- The call makes the changes and commits them, or it responds and commits nothing. -/
def UpdateCall.Handled (store : Store) (call : UpdateCall) : Prop :=
  match call.execute store with
  | .ok updated => call.Changes store.val updated.val ∧ call.committed store = updated
  | .error error => Responds error ∧ call.committed store = store

/-- An active version may stand beside the stored ones. -/
structure MayStand (versions : List ProgramVersion) (active : ProgramVersion) : Prop where
  label : ∀ version ∈ versions, version.id ≠ active.id →
    (version.programId, version.version) ≠ (active.programId, active.version)
  range : EndsAfter active.effectiveFrom active.effectiveTo
  allowed : Backend.VersionsAllowed (replaceRow (·.id) active versions)
  apart : ∀ version ∈ versions, ¬ Forced.Conflicts active version

/-- Neither the label nor the start of a version is set to null, and as updated it may stand as an
active one. -/
structure ProgramVersionUpdate.KeepsActive (payload : ProgramVersionUpdate)
    (versions : List ProgramVersion) (row : ProgramVersion) : Prop where
  version : payload.version ≠ some none
  effectiveFrom : payload.effectiveFrom ≠ some none
  mayStand : ∀ updated, payload.row? row = some updated → MayStand versions updated

/-- Where its row is stored, the database takes the values that are set; a version that is active
after an update may stand; and one version at most is in the way of an activation. -/
def UpdateCall.Admissible (store : Store) : UpdateCall → Prop
  | country id payload => ∀ row ∈ store.val.countries, row.id = id → payload.Fits
  | program id payload => ∀ row ∈ store.val.programs, row.id = id → payload.Fits
  | programVersion id payload => ∀ row ∈ store.val.versions, row.id = id → payload.Fits ∧
      (payload.status.getD (some row.status) = some .active →
        payload.KeepsActive store.val.versions row)
  | ruleGroup id payload => ∀ row ∈ store.val.ruleGroups, row.id = id → payload.Fits
  | ruleCondition id payload =>
      ∀ row ∈ store.val.ruleGroups.flatMap (·.conditions), row.id = id → payload.Fits row
  | ruleOutcome id payload =>
      ∀ row ∈ store.val.ruleGroups.flatMap (·.outcomes), row.id = id → payload.Fits row
  | activation id _ => ∀ target ∈ store.val.versions, target.id = id →
      ∀ first ∈ store.val.versions, ∀ second ∈ store.val.versions,
        Forced.Conflicts target first → Forced.Conflicts target second → first = second

omit [Backend] in
theorem accepted_some {Value : Type} (setting : Option (Option Value)) : Accepted some setting := by
  intro value _
  rfl

theorem CountryUpdate.changes_of_row? {payload : CountryUpdate} {row updated : CountryRow}
    (fits : payload.Fits) (isUpdated : payload.row? row = some updated) :
    payload.Changes row updated := by
  simp only [row?, Option.bind_eq_bind, Option.bind_eq_some_iff] at isUpdated
  rcases isUpdated with ⟨name, isName, active, isActive, same⟩
  rcases Option.some.inj same with rfl
  constructor
  · rfl
  · rfl
  · simpa only [isName] using sets_assigned fits.1 (some row.name)
  · exact sets_assigned fits.2.1 row.priorityRank
  · exact sets_assigned fits.2.2.1 row.diasporaPopulationEstimate
  · exact sets_assigned fits.2.2.2 row.prioritizationSourceUrl
  · simpa only [isActive] using sets_assigned (accepted_some payload.isActive) (some row.isActive)

theorem ImmigrationProgramUpdate.changes_of_row? {payload : ImmigrationProgramUpdate}
    {row updated : ImmigrationProgram} (fits : payload.Fits)
    (isUpdated : payload.row? row = some updated) : payload.Changes row updated := by
  simp only [row?, Option.bind_eq_bind, Option.bind_eq_some_iff] at isUpdated
  rcases isUpdated with ⟨name, isName, active, isActive, same⟩
  rcases Option.some.inj same with rfl
  constructor
  · rfl
  · rfl
  · rfl
  · simpa only [isName] using sets_assigned fits.1 (some row.name)
  · exact sets_assigned fits.2 row.description
  · simpa only [isActive] using sets_assigned (accepted_some payload.isActive) (some row.isActive)

theorem ProgramVersionUpdate.changes_of_row? {payload : ProgramVersionUpdate}
    {row updated : ProgramVersion} (fits : payload.Fits)
    (isUpdated : payload.row? row = some updated) : payload.Changes row updated := by
  simp only [row?, Option.bind_eq_bind, Option.bind_eq_some_iff] at isUpdated
  rcases isUpdated with ⟨version, isVersion, status, isStatus, start, isStart, same⟩
  rcases Option.some.inj same with rfl
  constructor
  · rfl
  · rfl
  · simpa only [isVersion] using sets_assigned fits.1 (some row.version)
  · simpa only [isStatus] using sets_assigned (accepted_some payload.status) (some row.status)
  · simpa only [isStart] using sets_assigned fits.2.1 (some row.effectiveFrom)
  · exact sets_assigned fits.2.2 row.effectiveTo
  · rfl

theorem RuleGroupUpdate.changes_of_row? {payload : RuleGroupUpdate} {row updated : RuleGroup}
    (fits : payload.Fits) (isUpdated : payload.row? row = some updated) :
    payload.Changes row updated := by
  simp only [row?, Option.bind_eq_bind, Option.bind_eq_some_iff] at isUpdated
  rcases isUpdated with
    ⟨name, isName, priority, isPriority, operator, isOperator, active, isActive, same⟩
  rcases Option.some.inj same with rfl
  constructor
  · rfl
  · rfl
  · rfl
  · simpa only [isName] using sets_assigned fits.1 (some row.name)
  · exact sets_assigned fits.2.1 row.description
  · simpa only [isPriority] using sets_assigned fits.2.2 (some row.priority)
  · simpa only [isOperator] using
      sets_assigned (accepted_some payload.matchOperator) (some row.matchOperator)
  · simpa only [isActive] using sets_assigned (accepted_some payload.isActive) (some row.isActive)
  · rfl
  · rfl

theorem RuleConditionUpdate.changes_of_row? {payload : RuleConditionUpdate}
    {row updated : RuleCondition} (fits : payload.Fits row)
    (isUpdated : payload.row? row = some updated) : payload.Changes row updated := by
  simp only [row?, Option.bind_eq_bind, Option.bind_eq_some_iff] at isUpdated
  rcases isUpdated with ⟨fieldKey, isFieldKey, operator, isOperator, value, isValue, order,
    isOrder, required, isRequired, same⟩
  rcases Option.some.inj same with rfl
  constructor
  · rfl
  · simpa only [isFieldKey] using sets_assigned fits.1 (some row.fieldKey)
  · simpa only [isOperator] using
      sets_assigned (accepted_some payload.operator) (some row.operator)
  · simpa only [isValue] using sets_assigned fits.2.1 (some row.valueJson)
  · simpa only [isOrder] using sets_assigned fits.2.2 (some row.conditionOrder)
  · simpa only [isRequired] using
      sets_assigned (accepted_some payload.isRequired) (some row.isRequired)

theorem RuleOutcomeUpdate.changes_of_row? {payload : RuleOutcomeUpdate}
    {row updated : RuleOutcome} (fits : payload.Fits row)
    (isUpdated : payload.row? row = some updated) : payload.Changes row updated := by
  simp only [row?, Option.bind_eq_bind, Option.bind_eq_some_iff] at isUpdated
  rcases isUpdated with
    ⟨score, isScore, blocking, isBlocking, message, isMessage, same⟩
  rcases Option.some.inj same with rfl
  constructor
  · rfl
  · simpa only [isScore] using sets_assigned fits.1 (some row.scoreDelta)
  · simpa only [isBlocking] using
      sets_assigned (accepted_some payload.isBlocking) (some row.isBlocking)
  · simpa only [isMessage] using sets_assigned fits.2.1 (some row.explanationMessage)
  · exact sets_assigned fits.2.2 row.outcomeCode

section OneRow

variable {store : Store} {Row : Type} {rows : List Row} {key : Row → UUID} {id : UUID}
  {changes : Row → Row → Prop} {place : Row → CatalogueRows}

section Sending

variable {fits : Prop} [Decidable fits] {updated? : Option Row}

theorem settles_commit_sendUpdate {row : Row} (mem : row ∈ rows) (isFit : fits)
    (relates : ∀ updated, updated? = some updated → changes row updated) :
    Settles (Replaces rows key (key row) changes place)
      (commitAndRefresh (sendUpdate fits updated? place) >>= fun sent => .ok sent.2) := by
  cases updated? with
  | none =>
      rw [sendUpdate_null isFit]
      exact Or.inr rfl
  | some updated =>
      rw [sendUpdate_row isFit, ensure]
      split_ifs with met
      · exact ⟨row, mem, rfl, updated, relates updated rfl, rfl⟩
      · exact Or.inr rfl

theorem not_settles_commit_sendUpdate {after : CatalogueRows → Prop} (refused : ¬ fits) :
    ¬ Settles after
      (commitAndRefresh (sendUpdate fits updated? place) >>= fun sent => .ok sent.2) := by
  rw [sendUpdate_refused refused]
  exact id

end Sending

/-- A call that updates one row ends well exactly if the row is missing or the values fit. -/
theorem settles_updateEntity {detail : String} {fits : Row → Prop} [DecidablePred fits]
    {row? : Row → Option Row} (keys : (rows.map key).Nodup)
    (relates : ∀ row updated, fits row → row? row = some updated → changes row updated) :
    Settles (Replaces rows key id changes place)
        (updateEntity (scalarOneOrNone (rows.filter fun row => key row = id)) detail fun row =>
          sendUpdate (fits row) (row? row) place) ↔
      ∀ row ∈ rows, key row = id → fits row := by
  by_cases stored : ∃ row ∈ rows, key row = id
  · rcases stored with ⟨row, mem, rfl⟩
    rw [updateEntity, scalarOneOrNone_filter_key keys mem, forall_key_iff keys mem]
    constructor
    · intro settles
      by_contra refused
      exact not_settles_commit_sendUpdate refused settles
    · intro isFit
      exact settles_commit_sendUpdate mem isFit fun updated => relates row updated isFit
  · push Not at stored
    rw [updateEntity, scalarOneOrNone_filter_eq_none.mpr stored]
    apply iff_of_true
    · exact Or.inl rfl
    · intro row mem isRow
      exact absurd isRow (stored row mem)

end OneRow

section Versions

variable {store : Store} {row updated : ProgramVersion} {payload : ProgramVersionUpdate}

theorem versionIds (store : Store) : (store.val.versions.map (·.id)).Nodup :=
  store.property.1.catalogue.versionIds

/-- The other constraints ask of an updated version that its label is unused and that it ends
after it starts. -/
theorem consistent_withVersion_iff (mem : row ∈ store.val.versions) (sameId : updated.id = row.id)
    (sameProgram : updated.programId = row.programId) :
    Consistent (store.val.withVersion updated).tables ↔
      (∀ version ∈ store.val.versions, version.id ≠ updated.id →
        (version.programId, version.version) ≠ (updated.programId, updated.version)) ∧
      EndsAfter updated.effectiveFrom updated.effectiveTo := by
  have consistent := store.property.1
  have stored : ∃ old ∈ store.val.versions, old.id = updated.id := ⟨row, mem, sameId.symm⟩
  have labels := nodup_map_replaceRow consistent.catalogue.versionIds
    consistent.catalogue.versionLabels stored
  have ids : (replaceRow (·.id) updated store.val.versions).map (·.id) =
      store.val.versions.map (·.id) := map_replaceRow fun _ _ same => same
  constructor
  · intro after
    refine ⟨labels.mp after.catalogue.versionLabels, ?_⟩
    apply after.catalogue.effectiveRanges updated
    exact (mem_replaceRow_iff stored).mpr (Or.inl rfl)
  · rintro ⟨unused, range⟩
    refine ⟨{ consistent.catalogue with
      versionIds := ?_, versionLabels := labels.mpr unused, versionPrograms := ?_,
      effectiveRanges := ?_ }, ?_, ?_⟩
    · exact ids.symm ▸ consistent.catalogue.versionIds
    · intro version versionMem
      rcases of_mem_replaceRow versionMem with rfl | ⟨old, -⟩
      · exact sameProgram ▸ consistent.catalogue.versionPrograms row mem
      · exact consistent.catalogue.versionPrograms version old
    · intro version versionMem
      rcases of_mem_replaceRow versionMem with rfl | ⟨old, -⟩
      · exact range
      · exact consistent.catalogue.effectiveRanges version old
    · exact { consistent.rules with
        groupVersions := fun group groupMem =>
          ids.symm ▸ consistent.rules.groupVersions group groupMem }
    · exact { consistent.documents with
        documentVersions := fun document documentMem =>
          ids.symm ▸ consistent.documents.documentVersions document documentMem }

/-- The query after the UPDATE finds nothing exactly if no stored version conflicts with the
updated one. -/
theorem findActiveOverlap_withVersion :
    findActiveOverlap (store.val.withVersion updated).tables updated.programId (some updated.id)
        updated.effectiveFrom updated.effectiveTo = .ok none ↔
      ∀ version ∈ store.val.versions, ¬ Forced.Conflicts updated version := by
  rw [Forced.findActiveOverlap_eq, scalarOneOrNone_filter_eq_none]
  constructor
  · intro nothing version versionMem conflicts
    exact nothing version (mem_replaceRow_of_ne versionMem conflicts.1.2.2) conflicts
  · intro nothing version versionMem conflicts
    rcases of_mem_replaceRow versionMem with rfl | ⟨old, -⟩
    · exact conflicts.1.2.2 rfl
    · exact nothing version old conflicts

theorem mayStand_iff (mem : row ∈ store.val.versions) (sameId : updated.id = row.id)
    (sameProgram : updated.programId = row.programId) :
    MayStand store.val.versions updated ↔
      Constraints (store.val.withVersion updated) ∧
        findActiveOverlap (store.val.withVersion updated).tables updated.programId
          (some updated.id) updated.effectiveFrom updated.effectiveTo = .ok none := by
  rw [Constraints, consistent_withVersion_iff mem sameId sameProgram,
    findActiveOverlap_withVersion]
  constructor
  · rintro ⟨label, range, allowed, apart⟩
    exact ⟨⟨⟨label, range⟩, allowed⟩, apart⟩
  · rintro ⟨⟨⟨label, range⟩, allowed⟩, apart⟩
    exact ⟨label, range, allowed, apart⟩

/-- With values that fit, a version that is to be active misses only a label or a start. -/
theorem row?_eq_none_iff (fits : payload.Fits)
    (active : payload.status.getD (some row.status) = some .active) :
    payload.row? row = none ↔ payload.version = some none ∨ payload.effectiveFrom = some none := by
  have status : assigned some payload.status (some row.status) = some .active := by
    rw [← active]
    rcases payload.status with _ | _ | _ <;> rfl
  constructor
  · intro missing
    by_contra neither
    push Not at neither
    have version : assigned (Backend.string 32) payload.version (some row.version) ≠ none :=
      (assigned_ne_none fits.1).mpr neither.1
    have start : assigned Backend.timestamp payload.effectiveFrom (some row.effectiveFrom) ≠ none :=
      (assigned_ne_none fits.2.1).mpr neither.2
    rcases Option.ne_none_iff_exists'.mp version with ⟨label, isLabel⟩
    rcases Option.ne_none_iff_exists'.mp start with ⟨instant, isInstant⟩
    simp [ProgramVersionUpdate.row?, isLabel, isInstant, status] at missing
  · rintro (nulled | nulled)
    · simp [ProgramVersionUpdate.row?, nulled, assigned]
    · simp [ProgramVersionUpdate.row?, nulled, assigned]

theorem settles_update_inactive (mem : row ∈ store.val.versions)
    (inactive : payload.status.getD (some row.status) ≠ some .active) :
    Settles (Replaces store.val.versions (·.id) row.id payload.Changes store.val.withVersion)
        (updateProgramVersion store row.id payload) ↔ payload.Fits := by
  have found : getProgramVersion store.val.tables row.id = .ok (some row) :=
    scalarOneOrNone_filter_key (versionIds store) mem
  rw [updateProgramVersion, found]
  simp only [bind, Except.bind, if_neg inactive]
  constructor
  · intro settles
    by_contra refused
    exact not_settles_commit_sendUpdate refused settles
  · intro fits
    exact settles_commit_sendUpdate mem fits
      fun updated => ProgramVersionUpdate.changes_of_row? fits

/-- With values that fit, an update keeps a version active exactly if what it leads to may stand. -/
theorem keepsActive_iff {versions : List ProgramVersion} (fits : payload.Fits)
    (active : payload.status.getD (some row.status) = some .active) :
    payload.KeepsActive versions row ↔
      ∃ updated, payload.row? row = some updated ∧ MayStand versions updated := by
  constructor
  · intro keeps
    cases kept : payload.row? row with
    | none =>
        rcases (row?_eq_none_iff fits active).mp kept with null | null
        · exact absurd null keeps.version
        · exact absurd null keeps.effectiveFrom
    | some updated => exact ⟨updated, rfl, keeps.mayStand updated kept⟩
  · rintro ⟨updated, kept, mayStand⟩
    have notNull : ¬ (payload.version = some none ∨ payload.effectiveFrom = some none) := by
      rw [← row?_eq_none_iff fits active, kept]
      simp
    refine ⟨fun null => notNull (Or.inl null), fun null => notNull (Or.inr null), ?_⟩
    intro other isOther
    rw [kept] at isOther
    rcases Option.some.inj isOther with rfl
    exact mayStand

/-- After the query nothing but the commit of what was sent ends well. -/
theorem settles_afterQuery {changes : CatalogueRows → Prop} {flushed : Store}
    (done : changes flushed.val) {rows : List ProgramVersion} :
    Settles changes (scalarOneOrNone rows >>= fun overlap =>
        match overlap with
        | some _ => .error .missingGreenlet
        | none => commitAndRefresh (.ok flushed)) ↔
      scalarOneOrNone rows = .ok none := by
  cases query : scalarOneOrNone rows with
  | error error =>
      rw [eq_of_scalarOneOrNone_eq_error query]
      apply iff_of_false
      · exact id
      · simp
  | ok overlap =>
      cases overlap with
      | some overlap =>
          apply iff_of_false
          · exact id
          · simp
      | none =>
          apply iff_of_true
          · exact done
          · rfl

theorem settles_update_active (mem : row ∈ store.val.versions)
    (active : payload.status.getD (some row.status) = some .active) :
    Settles (Replaces store.val.versions (·.id) row.id payload.Changes store.val.withVersion)
        (updateProgramVersion store row.id payload) ↔
      payload.Fits ∧ payload.KeepsActive store.val.versions row := by
  have found : getProgramVersion store.val.tables row.id = .ok (some row) :=
    scalarOneOrNone_filter_key (versionIds store) mem
  rw [updateProgramVersion, found]
  simp only [bind, Except.bind, if_pos active]
  by_cases start : payload.effectiveFrom = some none
  · rw [if_pos start]
    apply iff_of_false
    · exact id
    · intro keeps
      exact keeps.2.effectiveFrom start
  rw [if_neg start]
  by_cases fits : payload.Fits
  · rw [and_iff_right fits, keepsActive_iff fits active]
    cases kept : payload.row? row with
    | none =>
        rw [sendUpdate_null fits]
        apply iff_of_false
        · exact id
        · simp
    | some updated =>
        have changed := ProgramVersionUpdate.changes_of_row? fits kept
        simp only [Option.some.injEq, exists_eq_left']
        rw [mayStand_iff mem changed.id changed.programId, sendUpdate_row fits, ensure]
        split_ifs with met
        · simp only [met, true_and]
          exact settles_afterQuery ⟨row, mem, rfl, updated, changed, rfl⟩
        · apply iff_of_false
          · exact id
          · intro both
            exact met both.1
  · rw [sendUpdate_refused fits]
    apply iff_of_false
    · exact id
    · intro keeps
      exact fits keeps.1

theorem settles_updateProgramVersion (id : UUID) :
    Settles (Replaces store.val.versions (·.id) id payload.Changes store.val.withVersion)
        (updateProgramVersion store id payload) ↔
      (UpdateCall.programVersion id payload).Admissible store := by
  by_cases stored : ∃ row ∈ store.val.versions, row.id = id
  · rcases stored with ⟨row, mem, rfl⟩
    rw [UpdateCall.Admissible, forall_key_iff (versionIds store) mem]
    by_cases active : payload.status.getD (some row.status) = some .active
    · rw [settles_update_active mem active]
      simp [active]
    · rw [settles_update_inactive mem active]
      simp [active]
  · push Not at stored
    have missing : getProgramVersion store.val.tables id = .ok none :=
      scalarOneOrNone_filter_eq_none.mpr stored
    rw [updateProgramVersion, missing]
    apply iff_of_true
    · exact Or.inl rfl
    · intro row mem isRow
      exact absurd isRow (stored row mem)

end Versions

section Activations

variable {store : Store} {target : ProgramVersion}

omit [Backend] in
theorem run_withVersion (rows : CatalogueRows) (versions : List ProgramVersion) :
    run CatalogueRows.withVersion rows versions = { rows with
      versions :=
        run (fun stored row => replaceRow (·.id) row stored) rows.versions versions } := by
  induction versions generalizing rows with
  | nil => rfl
  | cons version rest ih =>
      rw [run_cons, ih, run_cons]
      rfl

theorem mem_sentVersions {archiving : Bool} {row : ProgramVersion} :
    row ∈ sentVersions archiving target store ↔
      row ∈ Exclusion.activationRows archiving target store.val.versions ∧
        row ∉ store.val.versions := by
  simp [sentVersions]

theorem sentVersions_distinct (archiving : Bool) :
    ((sentVersions archiving target store).map (·.id)).Nodup := by
  have permuted := (sortBy_perm (·.id)
    ((Exclusion.activationRows archiving target store.val.versions).filter
      fun row => row ∉ store.val.versions)).map (·.id)
  apply permuted.nodup_iff.mpr
  apply (List.filter_sublist.map _).nodup
  exact Exclusion.activationRows_distinct (versionIds store)

/-- Every version that is sent is a stored one but for its status. -/
theorem withoutStatus_of_sent (mem : target ∈ store.val.versions) {archiving : Bool}
    {row old : ProgramVersion} (sent : row ∈ sentVersions archiving target store)
    (oldMem : old ∈ store.val.versions) (same : old.id = row.id) :
    Exclusion.withoutStatus old = Exclusion.withoutStatus row := by
  rcases Exclusion.activationRows_stored mem row (mem_sentVersions.mp sent).1 with
    ⟨version, versionMem, sameId, sameColumns⟩
  rw [List.inj_on_of_nodup_map (versionIds store) oldMem versionMem (same.trans sameId.symm)]
  exact sameColumns

/-- The target is sent, unless it is stored as active already. -/
theorem target_after_sent (mem : target ∈ store.val.versions) (archiving : Bool) :
    { target with status := .active } ∈
      run (fun stored row => replaceRow (·.id) row stored) store.val.versions
        (sentVersions archiving target store) := by
  apply (mem_run_replaceRow (sentVersions_distinct archiving) ?_).mpr
  · by_cases stored : { target with status := .active } ∈ store.val.versions
    · refine Or.inr ⟨stored, ?_⟩
      intro sentId
      rcases List.mem_map.mp sentId with ⟨row, sent, isTarget⟩
      rcases mem_sentVersions.mp sent with ⟨rowMem, notStored⟩
      rcases Exclusion.mem_activationRows.mp rowMem with ⟨-, archived⟩ | rfl
      · rcases Exclusion.mem_archivedOthers.mp archived with ⟨version, -, -, -, other, rfl⟩
        exact other isTarget
      · exact notStored stored
    · refine Or.inl (mem_sentVersions.mpr ⟨?_, stored⟩)
      exact Exclusion.mem_activationRows.mpr (Or.inr rfl)
  · intro row sent
    rcases Exclusion.activationRows_stored mem row (mem_sentVersions.mp sent).1 with
      ⟨version, versionMem, sameId, -⟩
    exact List.mem_map.mpr ⟨version, versionMem, sameId⟩

theorem activates_sendAll (mem : target ∈ store.val.versions) {archiving : Bool} {updated : Store}
    (sent : sendAll CatalogueRows.withVersion ServiceError.integrityError store
      (sentVersions archiving target store) = .ok updated) :
    Activates target.id store.val updated.val := by
  have after := (sendAll_eq_ok_iff.mp sent).2
  rw [run_withVersion] at after
  refine ⟨_, ?_, ⟨_, target_after_sent mem archiving, rfl, rfl⟩, after⟩
  apply map_run_replaceRow
  intro row rowSent old oldMem same
  exact withoutStatus_of_sent mem rowSent oldMem same

theorem settles_commit_sendAll (mem : target ∈ store.val.versions) (archiving : Bool) :
    Settles (Activates target.id store.val) (commitAndRefresh
      (sendAll CatalogueRows.withVersion ServiceError.integrityError store
        (sentVersions archiving target store))) := by
  cases sent : sendAll CatalogueRows.withVersion ServiceError.integrityError store
      (sentVersions archiving target store) with
  | error error =>
      rw [eq_of_sendAll_eq_error sent]
      exact Or.inr rfl
  | ok updated => exact activates_sendAll mem sent

/-- An activation ends well exactly if the target is missing or at most one version is in its
way. -/
theorem settles_activateProgramVersion (id : UUID) (payload : ProgramVersionActivateRequest) :
    Settles (Activates id store.val) (activateProgramVersion store id payload) ↔
      (UpdateCall.activation id payload).Admissible store := by
  by_cases stored : ∃ row ∈ store.val.versions, row.id = id
  · rcases stored with ⟨target, mem, rfl⟩
    have found : getProgramVersion store.val.tables target.id = .ok (some target) :=
      scalarOneOrNone_filter_key (versionIds store) mem
    have only : (UpdateCall.activation target.id payload).Admissible store ↔
        ∃ overlap, findActiveOverlap store.val.tables target.programId (some target.id)
          target.effectiveFrom target.effectiveTo = .ok overlap := by
      rw [UpdateCall.Admissible, forall_key_iff (versionIds store) mem, Forced.findActiveOverlap_eq]
      exact (scalarOneOrNone_filter_isOk_iff (versionIds store).of_map).symm
    rw [only, activateProgramVersion, found]
    simp only [bind, Except.bind]
    cases query : findActiveOverlap store.val.tables target.programId (some target.id)
        target.effectiveFrom target.effectiveTo with
    | error error =>
        rw [eq_of_scalarOneOrNone_eq_error query]
        apply iff_of_false
        · exact id
        · simp
    | ok overlap =>
        apply iff_of_true
        · dsimp only
          split_ifs with refused
          · exact Or.inr rfl
          · exact settles_commit_sendAll mem overlap.isSome
        · exact ⟨overlap, rfl⟩
  · push Not at stored
    have missing : getProgramVersion store.val.tables id = .ok none :=
      scalarOneOrNone_filter_eq_none.mpr stored
    rw [activateProgramVersion, missing]
    apply iff_of_true
    · exact Or.inl rfl
    · intro row mem isRow
      exact absurd isRow (stored row mem)

end Activations

theorem UpdateCall.handled_iff_settles {store : Store} {call : UpdateCall} :
    call.Handled store ↔ Settles (call.Changes store.val) (call.execute store) := by
  rw [Handled, committed]
  cases call.execute store with
  | ok updated => simp [Settles]
  | error error => simp [Settles]

/-- A call is handled exactly if its row is missing, or the database takes the values that are set
and neither the overlap query nor the update that it sends fails. -/
theorem handled_iff_admissible (store : Store) (call : UpdateCall) :
    call.Handled store ↔ call.Admissible store := by
  rw [UpdateCall.handled_iff_settles]
  have consistent := store.property.1
  cases call with
  | country id payload =>
      apply settles_updateEntity
      · simpa [CatalogueRows.tables, Function.comp_def] using consistent.catalogue.countryIds
      · intro row updated fits
        exact CountryUpdate.changes_of_row? fits
  | program id payload =>
      apply settles_updateEntity consistent.catalogue.programIds
      intro row updated fits
      exact ImmigrationProgramUpdate.changes_of_row? fits
  | programVersion id payload => exact settles_updateProgramVersion id
  | ruleGroup id payload =>
      apply settles_updateEntity consistent.rules.groupIds
      intro row updated fits
      exact RuleGroupUpdate.changes_of_row? fits
  | ruleCondition id payload =>
      apply settles_updateEntity
      · rw [List.map_flatMap]
        exact consistent.rules.conditionIds
      · intro row updated fits
        exact RuleConditionUpdate.changes_of_row? fits
  | ruleOutcome id payload =>
      apply settles_updateEntity
      · rw [List.map_flatMap]
        exact consistent.rules.outcomeIds
      · intro row updated fits
        exact RuleOutcomeUpdate.changes_of_row? fits
  | activation id payload => exact settles_activateProgramVersion id payload

end Outcomes

/-- A text without the character that PostgreSQL has no room for. -/
def storableText (text : String) : Option String :=
  if '\x00' ∈ text.toList then none else some text

/-- A text for a column with a limit, from which spaces are cut off, but nothing else. -/
def storableString (limit : ℕ) (text : String) : Option String := do
  let text ← storableText text
  if text.length ≤ limit then some text
  else if (text.toList.drop limit).all (· = ' ') then some (String.ofList (text.toList.take limit))
  else none

/-- A decimal for `NUMERIC(8, 2)`. -/
def storableNumeric (decimal : Decimal) : Option Decimal :=
  let hundredths := Rounding.roundHalfUp (decimal.toRat * 100)
  if hundredths.natAbs < 10 ^ 8 then some ⟨hundredths < 0, hundredths.natAbs, -2⟩ else none

/-- An instant, where a `datetime` without an offset is one in UTC. -/
def storableTimestamp (datetime : Ingestion.Datetime) : Option Instant :=
  let microseconds := (datetime.wallClock : ℤ) - datetime.utcOffset.getD 0 * 1000000
  if bounds : 0 ≤ microseconds ∧ microseconds < 315537897600000000 then
    some ⟨microseconds.toNat, by omega⟩
  else none

/-- The migrated database, for the JSON that it takes. -/
abbrev postgres (json : Json → Json → Option Json) : Backend where
  integer number := if -2 ^ 31 ≤ number ∧ number < 2 ^ 31 then some number else none
  text := storableText
  string := storableString
  numeric _ := storableNumeric
  json := json
  timestamp := storableTimestamp
  VersionsAllowed := Exclusion.ActiveNoOverlap
  decideVersions := inferInstance

section Samples

local instance sampleBackend : Backend := postgres fun _ value => some value

def sampleStore : Store where
  val := {
    countries := [{
      id := 1
      code := "CA"
      name := "Canada"
      priorityRank := some 1
      diasporaPopulationEstimate := none
      prioritizationSourceUrl := none
      isActive := true }]
    programs := sampleCatalogue.programs
    versions := sampleCatalogue.versions
    ruleGroups := sampleCatalogue.ruleGroups
    sourceDocuments := []
    sourceExtractions := [] }
  property := by decide

/-- A label set to null, an overlapping version made active, a forced activation with two versions
in its way, and a rank beyond 32 bits, with what they raise. -/
def sampleFailures : List (UpdateCall × ServiceError) :=
  [(.programVersion 3 ⟨some none, none, none, none, by simp [Within]⟩, .integrityError),
    (.programVersion 5 ⟨none, some (some .active), none, none, by simp [Within]⟩, .integrityError),
    (.activation 5 ⟨true⟩, .multipleResultsFound),
    (.country 1 ⟨none, some (some 3000000000), none, none, none, by simp [Within]⟩, .dataError)]

theorem not_handled_of_raises [Backend] {store : Store} {call : UpdateCall} {error : ServiceError}
    (raises : errorOf (call.execute store) = some error) (unresponsive : ¬ Responds error) :
    ¬ call.Handled store := by
  intro handled
  rw [UpdateCall.Handled, errorOf_eq_some_iff.mp raises] at handled
  exact unresponsive handled.1

/-- These updates end with an exception that is not a response. -/
theorem updates_escape :
    sampleFailures.Forall fun failure =>
      errorOf (failure.1.execute sampleStore) = some failure.2 ∧
        ¬ failure.1.Handled sampleStore := by
  have escapes (call : UpdateCall) (error : ServiceError)
      (raises : errorOf (call.execute sampleStore) = some error) (unresponsive : ¬ Responds error) :
      errorOf (call.execute sampleStore) = some error ∧ ¬ call.Handled sampleStore :=
    ⟨raises, not_handled_of_raises raises unresponsive⟩
  refine ⟨?_, ?_, ?_, ?_⟩
  · exact escapes _ _ (by decide +kernel) id
  · exact escapes _ _ (by decide +kernel) id
  · exact escapes _ _ (by decide +kernel) id
  · exact escapes _ _ (by decide +kernel) id

end Samples

end ImigrAI.ImmigrationRules.Updates
