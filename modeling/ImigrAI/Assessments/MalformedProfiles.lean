import ImigrAI.Assessments.ConditionValues
import ImigrAI.Assessments.InactiveGroups
import ImigrAI.Assessments.TaskAttempts

/-!
# Malformed profiles

What the engine raises is a `ValueError` or a `TypeError`, and so is not retried, unless the
first value that it cannot convert is a number too large: an infinity for `int`, or an integer
beyond the floats for `float`.
-/

namespace ImigrAI.Assessments

open Python Binary64 Numerals Sorting Fallible ImigrAI.Core Common

/-- The classes of an exception among those that the tasks ask for; `ScoreEngineInputError` is a
`ValueError`. -/
def EngineError.classes : EngineError → List ExceptionClass
  | .scoreEngineInput _ => [.valueError]
  | .python .valueError => [.valueError]
  | .python .typeError => [.typeError]
  | .python .overflowError => []
  | .python .attributeError => []

def EngineError.exception (error : EngineError) (text : String) : RaisedException where
  isInstance exceptionClass := exceptionClass ∈ error.classes
  text := text

/-- The error of a conversion that `retry.py` does not list. -/
def Unlisted (error : PyError) : Prop :=
  error = .overflowError ∨ error = .attributeError

/-- The error is not definitive. -/
def EngineError.Retried : EngineError → Prop
  | .scoreEngineInput _ => False
  | .python error => Unlisted error

theorem isDefinitiveError_exception (error : EngineError) (text : String) :
    isDefinitiveError (error.exception text) = true ↔ ¬ error.Retried := by
  cases error with
  | scoreEngineInput message => simp [EngineError.Retried, isDefinitiveError,
      RaisedException.isInstanceOf, EngineError.exception, EngineError.classes]
  | python error =>
      cases error <;> simp [EngineError.Retried, Unlisted, isDefinitiveError,
        RaisedException.isInstanceOf, EngineError.exception, EngineError.classes]

/-- The first attempt of a task whose work raises this exception, with nothing raised in its
failure handler, is its last, and ends in a dead letter. -/
def DeadLetteredAtOnce (exc : RaisedException) : Prop :=
  ∀ (task : Tasks.ProcessAssessmentTask) (job : Job) (attempt : Tasks.Attempt),
    attempt.raised = some (.running, exc) → attempt.interrupted = none →
      (task.execute (Tasks.TaskRun.sent job) attempt).request = none ∧
        (task.execute (Tasks.TaskRun.sent job) attempt).job.status = .deadLetter ∧
        (task.execute (Tasks.TaskRun.sent job) attempt).deadLetters.length = 1

theorem deadLetteredAtOnce_of_definitive {exc : RaisedException}
    (definitive : isDefinitiveError exc = true) : DeadLetteredAtOnce exc := by
  intro task job attempt raised calm
  have givesUp : task.GivesUp 0 exc := Or.inl definitive
  have failed (event : String) :
      let left := task.handleFailure (task.attempted (Tasks.TaskRun.sent job) attempt) 0 attempt
        exc event
      left.request = none ∧ left.job.status = .deadLetter ∧ left.deadLetters.length = 1 := by
    simp only [Tasks.handleFailure_eq, if_pos givesUp, Tasks.ProcessAssessmentTask.giveUp, calm]
    exact ⟨rfl, rfl, rfl⟩
  simp only [Tasks.ProcessAssessmentTask.execute, Tasks.TaskRun.sent, raised]
  rw [if_neg (by decide), ← Tasks.TaskRun.sent]
  split_ifs
  · exact failed "score_job_timeout"
  · exact failed "score_job_failed"

/-- The evaluation returns a result, or raises what is dead-lettered at the first attempt. -/
def Conclusive (computation : Except EngineError ScoreComputationResult) : Prop :=
  ∀ error, computation = .error error → ∀ text,
    isDefinitiveError (error.exception text) = true ∧ DeadLetteredAtOnce (error.exception text)

theorem conclusive_iff {computation : Except EngineError ScoreComputationResult} :
    Conclusive computation ↔ ¬ Raises EngineError.Retried computation := by
  constructor
  · rintro conclusive ⟨error, raised, retried⟩
    exact (isDefinitiveError_exception error "").mp (conclusive error raised "").1 retried
  · intro definitive error raised text
    have isDefinitive : isDefinitiveError (error.exception text) = true :=
      (isDefinitiveError_exception error text).mpr
        fun retried => definitive ⟨error, raised, retried⟩
    exact ⟨isDefinitive, deadLetteredAtOnce_of_definitive isDefinitive⟩

theorem raises_builtin {Result : Type} {computation : Except PyError Result} :
    Raises EngineError.Retried (builtin computation) ↔ Raises Unlisted computation := by
  cases computation with
  | error error => simp [builtin, EngineError.Retried]
  | ok result => simp [builtin]

/-- An infinity, which `int` does not take. -/
def TooLargeForInt (value : Value) : Prop := ∃ negative, value = .float (.infinity negative)

/-- An integer beyond the floats. -/
def TooLargeForFloat (value : Value) : Prop :=
  ∃ number, value = .int number ∧ overflowBound ≤ |nearest number|

section Conversions

variable [UnicodeData]

theorem raises_intOfText (text : String) : ¬ Raises Unlisted (intOfText text) := by
  unfold intOfText
  rcases readSign (Text.numericText text) with ⟨negative, unsigned⟩
  dsimp only
  split
  · split_ifs
    · simp
    · simp
    · simp [Unlisted]
  · simp [Unlisted]

theorem raises_floatOfText (text : String) : ¬ Raises Unlisted (floatOfText text) := by
  unfold floatOfText
  dsimp only
  split_ifs
  · simp
  · simp
  · split
    · simp
    · simp [Unlisted]

theorem raises_toInt (value : Value) :
    Raises Unlisted value.toInt ↔ TooLargeForInt value := by
  cases value with
  | float number => cases number <;> simp [Value.toInt, intOfFloat, TooLargeForInt, Unlisted]
  | str text => simp [Value.toInt, raises_intOfText, TooLargeForInt]
  | _ => simp [Value.toInt, TooLargeForInt, Unlisted]

theorem raises_toFloat (value : Value) :
    Raises Unlisted value.toFloat ↔ TooLargeForFloat value := by
  cases value with
  | int number =>
      simp only [Value.toFloat, floatOfInt, TooLargeForFloat, Value.int.injEq, exists_eq_left']
      split_ifs with bounded
      · simpa using bounded
      · simpa [Unlisted] using bounded
  | str text => simp [Value.toFloat, raises_floatOfText, TooLargeForFloat]
  | _ => simp [Value.toFloat, TooLargeForFloat, Unlisted]

/-- A language level that is read as an infinity or is an IELTS score beyond the floats. -/
inductive LevelTooLarge : Value → Prop where
  | number {payload : Value} (tooLarge : TooLargeForInt payload) : LevelTooLarge payload
  | text {text : String} {negative : Bool}
      (noLevel : cefrLevel (UnicodeData.upper (Text.strip text)) = none)
      (infinite : floatOfText (UnicodeData.upper (Text.strip text)) = .ok (.infinity negative)) :
      LevelTooLarge (.str text)
  | ielts {entries : Dict} {level : Value}
      (framework : UnicodeData.upper
        ((Value.lookup "framework" entries).getD (.str "CEFR")).text = "IELTS")
      (isLevel : Value.lookup "level" entries = some level) (tooLarge : TooLargeForFloat level) :
      LevelTooLarge (.dict entries)

theorem raises_languageLevelToNumeric (payload : Value) :
    Raises EngineError.Retried (languageLevelToNumeric payload) ↔ LevelTooLarge payload := by
  cases payload with
  | none | list items =>
      refine iff_of_false (by simp [languageLevelToNumeric, unsupportedPayload,
        EngineError.Retried]) ?_
      rintro ⟨_, isFloat⟩
      cases isFloat
  | bool value | int value | float value =>
      rw [languageLevelToNumeric, raises_builtin, raises_toInt]
      constructor
      · exact fun tooLarge => .number tooLarge
      · rintro ⟨tooLarge⟩
        exact tooLarge
  | str text =>
      simp only [languageLevelToNumeric]
      constructor
      · intro raises
        split at raises
        · simp at raises
        · next noLevel =>
            rw [raises_bind, raises_builtin, Value.toFloat] at raises
            rcases raises with raises | ⟨number, read, raises⟩
            · exact absurd raises (raises_floatOfText _)
            · rw [raises_builtin, raises_toInt] at raises
              rcases raises with ⟨negative, isInfinity⟩
              cases isInfinity
              exact .text noLevel (builtin_eq_ok_iff.mp read)
      · rintro (⟨negative, isFloat⟩ | ⟨noLevel, infinite⟩)
        · cases isFloat
        · rw [noLevel]
          simp [Value.toFloat, infinite, builtin, bind, Except.bind, Value.toInt, intOfFloat,
            EngineError.Retried, Unlisted]
  | dict entries =>
      simp only [languageLevelToNumeric]
      constructor
      · intro raises
        split_ifs at raises with cefr ielts
        · split at raises <;> simp [EngineError.Retried] at raises
        · rw [raises_bind, raises_builtin, raises_toFloat] at raises
          rcases raises with tooLarge | ⟨score, -, raises⟩
          · cases isLevel : Value.lookup "level" entries with
            | none =>
                rw [isLevel] at tooLarge
                rcases tooLarge with ⟨number, isInt, -⟩
                cases isInt
            | some level =>
                rw [isLevel] at tooLarge
                exact .ielts ielts isLevel tooLarge
          · split at raises <;> simp [EngineError.Retried] at raises
        · simp [unsupportedPayload, EngineError.Retried] at raises
      · rintro (⟨negative, isFloat⟩ | _ | ⟨framework, isLevel, tooLarge⟩)
        · cases isFloat
        · rw [framework, isLevel, if_neg (by decide), if_pos rfl, raises_bind, raises_builtin]
          exact Or.inl ((raises_toFloat _).mpr tooLarge)

/-- The languages are read from the first to the last. -/
theorem raises_normalizeLanguageEntries (entries normalized : Dict) :
    Raises EngineError.Retried (normalizeLanguageEntries entries normalized) ↔
      ∃ before language payload after, entries = before ++ (language, payload) :: after ∧
        (∀ earlier ∈ before, ∃ numeric, languageLevelToNumeric earlier.2 = .ok numeric) ∧
        LevelTooLarge payload := by
  have pass : Raises EngineError.Retried (normalizeLanguageEntries entries normalized) ↔
      Raises EngineError.Retried (entries.mapM fun entry => languageLevelToNumeric entry.2) := by
    induction entries generalizing normalized with
    | nil => simp [normalizeLanguageEntries, pure, Except.pure]
    | cons entry rest ih =>
        rw [normalizeLanguageEntries.eq_2, List.mapM_cons, raises_bind, raises_bind]
        refine or_congr Iff.rfl (exists_congr fun numeric => and_congr Iff.rfl ?_)
        rw [ih, raises_bind]
        simp [pure, Except.pure]
  rw [pass, raises_mapM]
  constructor
  · rintro ⟨before, ⟨language, payload⟩, after, split, earlier, raises⟩
    exact ⟨before, language, payload, after, split, earlier,
      (raises_languageLevelToNumeric payload).mp raises⟩
  · rintro ⟨before, language, payload, after, split, earlier, tooLarge⟩
    exact ⟨before, (language, payload), after, split, earlier,
      (raises_languageLevelToNumeric payload).mpr tooLarge⟩

/-- The first value of a profile that normalisation cannot convert is a number too large. -/
inductive NormalizationTooLarge (profile : Dict) : Prop where
  | idade {idade : Value} (complete : missingFields profile = [])
      (found : Value.lookup "idade" profile = some idade) (tooLarge : TooLargeForInt idade)
  | rendaAtual {idade rendaAtual : Value} (complete : missingFields profile = [])
      (idadeFound : Value.lookup "idade" profile = some idade)
      (integer : ∃ age, idade.toInt = .ok age)
      (found : Value.lookup "renda_atual" profile = some rendaAtual)
      (tooLarge : TooLargeForFloat rendaAtual)
  | idiomas {idade rendaAtual payload : Value} {before after : Dict} {language : String}
      (complete : missingFields profile = [])
      (idadeFound : Value.lookup "idade" profile = some idade)
      (integer : ∃ age, idade.toInt = .ok age)
      (rendaFound : Value.lookup "renda_atual" profile = some rendaAtual)
      (number : ∃ income, rendaAtual.toFloat = .ok income)
      (found : Value.lookup "idiomas" profile =
        some (.dict (before ++ (language, payload) :: after)))
      (earlier : ∀ entry ∈ before, ∃ numeric, languageLevelToNumeric entry.2 = .ok numeric)
      (tooLarge : LevelTooLarge payload)

theorem raises_normalizeLanguages (languages : Value) :
    Raises EngineError.Retried (normalizeLanguages languages) ↔
      ∃ before language payload after, languages = .dict (before ++ (language, payload) :: after) ∧
        (∀ earlier ∈ before, ∃ numeric, languageLevelToNumeric earlier.2 = .ok numeric) ∧
        LevelTooLarge payload := by
  cases languages with
  | dict entries =>
      rw [normalizeLanguages, raises_normalizeLanguageEntries]
      simp only [Value.dict.injEq]
  | _ => simp [normalizeLanguages, EngineError.Retried]

/-- The fields of a profile that lacks none are converted in the order of the source. -/
theorem raises_normalizeProfile_of_complete {profile : Dict}
    (complete : missingFields profile = []) :
    ∃ idade idiomas rendaAtual, Value.lookup "idade" profile = some idade ∧
      Value.lookup "idiomas" profile = some idiomas ∧
      Value.lookup "renda_atual" profile = some rendaAtual ∧
      (Raises EngineError.Retried (normalizeProfile profile) ↔
        TooLargeForInt idade ∨ (∃ age, idade.toInt = .ok age) ∧
          (TooLargeForFloat rendaAtual ∨ (∃ income, rendaAtual.toFloat = .ok income) ∧
            Raises EngineError.Retried (normalizeLanguages idiomas))) := by
  simp only [missingFields, requiredProfileFields, List.filter_eq_nil_iff, List.mem_cons,
    List.not_mem_nil, or_false, forall_eq_or_imp, forall_eq, Bool.not_eq_true,
    Option.isNone_eq_false_iff, Option.isSome_iff_exists] at complete
  rcases complete with ⟨⟨idade, idadeFound⟩, ⟨escolaridade, escolaridadeFound⟩,
    ⟨profissao, profissaoFound⟩, ⟨idiomas, idiomasFound⟩, ⟨rendaAtual, rendaFound⟩⟩
  refine ⟨idade, idiomas, rendaAtual, idadeFound, idiomasFound, rendaFound, ?_⟩
  simp only [normalizeProfile, idadeFound, escolaridadeFound, profissaoFound, idiomasFound,
    rendaFound, raises_bind, raises_builtin, raises_toInt, raises_toFloat, builtin_eq_ok_iff,
    raises_ok, and_false, exists_false, or_false, exists_and_right]

theorem raises_normalizeProfile (profile : Dict) :
    Raises EngineError.Retried (normalizeProfile profile) ↔ NormalizationTooLarge profile := by
  constructor
  · intro raises
    by_cases complete : missingFields profile = []
    · rcases raises_normalizeProfile_of_complete complete with
        ⟨idade, idiomas, rendaAtual, idadeFound, idiomasFound, rendaFound, inOrder⟩
      rcases inOrder.mp raises with tooLarge | ⟨integer, tooLarge | ⟨number, raises⟩⟩
      · exact .idade complete idadeFound tooLarge
      · exact .rendaAtual complete idadeFound integer rendaFound tooLarge
      · rcases (raises_normalizeLanguages idiomas).mp raises with
          ⟨before, language, payload, after, rfl, earlier, tooLarge⟩
        exact .idiomas complete idadeFound integer rendaFound number idiomasFound earlier tooLarge
    · -- A profile that lacks a field is refused before anything is converted.
      rcases List.exists_mem_of_ne_nil _ complete with ⟨field, fieldMem⟩
      rw [missingFields, List.mem_filter, Option.isNone_iff_eq_none] at fieldMem
      rw [normalizeProfile_of_lookup_eq_none fieldMem.1 fieldMem.2] at raises
      simp [missingFieldsError, EngineError.Retried] at raises
  · intro tooLarge
    have complete : missingFields profile = [] := by
      cases tooLarge <;> assumption
    rcases raises_normalizeProfile_of_complete complete with
      ⟨idade, idiomas, rendaAtual, idadeFound, idiomasFound, rendaFound, inOrder⟩
    rw [inOrder]
    cases tooLarge with
    | idade _ found tooLarge =>
        cases idadeFound.symm.trans found
        exact Or.inl tooLarge
    | rendaAtual _ found integer otherFound tooLarge =>
        cases idadeFound.symm.trans found
        cases rendaFound.symm.trans otherFound
        exact Or.inr ⟨integer, Or.inl tooLarge⟩
    | idiomas _ found integer otherFound number languagesFound earlier tooLarge =>
        cases idadeFound.symm.trans found
        cases rendaFound.symm.trans otherFound
        cases idiomasFound.symm.trans languagesFound
        exact Or.inr ⟨integer, Or.inr ⟨number, (raises_normalizeLanguages _).mpr
          ⟨_, _, _, _, rfl, earlier, tooLarge⟩⟩⟩

/-- The first operand that a condition cannot convert is an integer beyond the floats. -/
inductive ConditionTooLarge (operator : String) (actual expected : Value) : Prop where
  | actual (compares : operator ∈ ["gt", "gte", "lt", "lte"])
      (tooLarge : TooLargeForFloat actual)
  | expected (compares : operator ∈ ["gt", "gte", "lt", "lte"]) (number : IsNumber actual)
      (tooLarge : TooLargeForFloat expected)
  | lower {first second : Value} (between : operator = "between") (present : actual ≠ .none)
      (range : expected = .list [first, second]) (tooLarge : TooLargeForFloat first)
  | upper {first second : Value} (between : operator = "between") (present : actual ≠ .none)
      (range : expected = .list [first, second]) (number : IsNumber first)
      (tooLarge : TooLargeForFloat second)
  | within {first second : Value} (between : operator = "between")
      (range : expected = .list [first, second]) (lower : IsNumber first)
      (upper : IsNumber second) (tooLarge : TooLargeForFloat actual)

theorem raises_compareNumeric (comparison : Numeric → Numeric → Bool) (actual expected : Value) :
    Raises EngineError.Retried (compareNumeric comparison actual expected) ↔
      TooLargeForFloat actual ∨ IsNumber actual ∧ TooLargeForFloat expected := by
  by_cases present : actual = .none
  · subst present
    simp [compareNumeric, TooLargeForFloat, IsNumber, Value.toFloat]
  · rw [compareNumeric.eq_2 _ _ _ present, raises_bind, raises_builtin, raises_toFloat]
    refine or_congr Iff.rfl ?_
    simp only [raises_bind, raises_builtin, raises_toFloat, builtin_eq_ok_iff, raises_ok,
      and_false, exists_false, or_false, IsNumber, exists_and_right]

theorem raises_isBetween (actual expected : Value) :
    Raises EngineError.Retried (isBetween actual expected) ↔
      actual ≠ .none ∧ ∃ first second, expected = .list [first, second] ∧
        (TooLargeForFloat first ∨ IsNumber first ∧
          (TooLargeForFloat second ∨ IsNumber second ∧ TooLargeForFloat actual)) := by
  unfold isBetween
  split
  · simp
  · next first second present =>
      simp only [raises_bind, raises_builtin, raises_toFloat, builtin_eq_ok_iff, raises_ok,
        and_false, exists_false, or_false, exists_and_right]
      constructor
      · intro tooLarge
        exact ⟨present, first, second, rfl, tooLarge⟩
      · rintro ⟨-, other, another, isList, tooLarge⟩
        cases isList
        exact tooLarge
  · next present noRange =>
      refine iff_of_false (by simp [EngineError.Retried]) ?_
      rintro ⟨-, first, second, rfl, -⟩
      exact noRange first second rfl

theorem raises_evaluateCondition (operator : String) (actual expected : Value) :
    Raises EngineError.Retried (evaluateCondition operator actual expected) ↔
      ConditionTooLarge operator actual expected := by
  have inList : ¬ Raises EngineError.Retried (isIn actual expected) := by
    cases expected with
    | list items => cases actual <;> simp [isIn]
    | _ => simp [isIn, EngineError.Retried]
  have notInList : ¬ Raises EngineError.Retried
      ((isIn actual expected).map fun found => !found) := by
    cases found : isIn actual expected with
    | error error => simpa [Except.map, found] using inList
    | ok found => simp [Except.map]
  have compared (operator : String) (compares : operator ∈ ["gt", "gte", "lt", "lte"])
      (comparison : Numeric → Numeric → Bool) :
      Raises EngineError.Retried (compareNumeric comparison actual expected) ↔
        ConditionTooLarge operator actual expected := by
    have other : operator ≠ "between" := by
      rintro rfl
      exact absurd compares (by decide)
    rw [raises_compareNumeric]
    constructor
    · rintro (tooLarge | ⟨number, tooLarge⟩)
      · exact .actual compares tooLarge
      · exact .expected compares number tooLarge
    · intro tooLarge
      cases tooLarge with
      | actual _ tooLarge => exact Or.inl tooLarge
      | expected _ number tooLarge => exact Or.inr ⟨number, tooLarge⟩
      | lower between | upper between | within between => exact absurd between other
  have neither {raises : Prop} (not_ : ¬ raises) (compares : operator ∉ ["gt", "gte", "lt", "lte"])
      (between : operator ≠ "between") :
      raises ↔ ConditionTooLarge operator actual expected := by
    refine iff_of_false not_ fun tooLarge => ?_
    cases tooLarge <;> contradiction
  fun_cases evaluateCondition operator actual expected with
  | case1 exists_ => exact neither (by simp) (by simp [exists_]) (by simp [exists_])
  | case2 _ eq => exact neither (by simp) (by simp [eq]) (by simp [eq])
  | case3 _ _ ne => exact neither (by simp) (by simp [ne]) (by simp [ne])
  | case4 _ _ _ gt => exact compared operator (by simp [gt]) _
  | case5 _ _ _ _ gte => exact compared operator (by simp [gte]) _
  | case6 _ _ _ _ _ lt => exact compared operator (by simp [lt]) _
  | case7 _ _ _ _ _ _ lte => exact compared operator (by simp [lte]) _
  | case8 _ _ _ _ _ _ _ between =>
      rw [raises_isBetween]
      constructor
      · rintro ⟨present, first, second, range, tooLarge | ⟨lower, tooLarge | ⟨upper, tooLarge⟩⟩⟩
        · exact .lower between present range tooLarge
        · exact .upper between present range lower tooLarge
        · exact .within between range lower upper tooLarge
      · intro tooLarge
        cases tooLarge with
        | actual compares | expected compares => simp [between] at compares
        | lower _ present range tooLarge => exact ⟨present, _, _, range, Or.inl tooLarge⟩
        | upper _ present range lower tooLarge =>
            exact ⟨present, _, _, range, Or.inr ⟨lower, Or.inl tooLarge⟩⟩
        | within _ range lower upper tooLarge =>
            have present : actual ≠ .none := by
              rcases tooLarge with ⟨number, rfl, -⟩
              simp
            exact ⟨present, _, _, range, Or.inr ⟨lower, Or.inr ⟨upper, tooLarge⟩⟩⟩
  | case9 _ _ _ _ _ _ _ _ in_ => exact neither inList (by simp [in_]) (by simp [in_])
  | case10 _ _ _ _ _ _ _ _ _ notIn => exact neither notInList (by simp [notIn]) (by simp [notIn])
  | case11 _ _ _ gt gte lt lte between =>
      exact neither (by simp [EngineError.Retried]) (by simp [gt, gte, lt, lte]) between

/-- The conditions of all groups in the order in which both passes evaluate them. -/
def conditionsInOrder (groups : List RuleGroupInput) : List RuleConditionInput :=
  (sortedGroups groups).flatMap fun group => sortBy conditionKey group.conditions

/-- The first value that the engine cannot convert is a number too large: one of the profile,
or an operand of a condition. -/
inductive EvaluationTooLarge (profileSnapshot : Dict) (groups : List RuleGroupInput) : Prop where
  | profile (tooLarge : NormalizationTooLarge profileSnapshot)
  | condition {profile : Dict} {before after : List RuleConditionInput}
      {condition : RuleConditionInput} (normalized : normalizeProfile profileSnapshot = .ok profile)
      (split : conditionsInOrder groups = before ++ condition :: after)
      (earlier : ∀ other ∈ before, ∃ matched, evaluateCondition other.operator
        (resolveField profile other.fieldKey) other.valueJson.value = .ok matched)
      (tooLarge : ConditionTooLarge condition.operator (resolveField profile condition.fieldKey)
        condition.valueJson.value)

theorem failure_eq (profile : Dict) (groups : List RuleGroupInput) :
    failure profile groups =
      errorOf ((groups.flatMap fun group => sortBy conditionKey group.conditions).mapM
        (checkCondition profile)) := by
  rw [errorOf_mapM, failure]
  induction groups with
  | nil => rfl
  | cons group rest ih =>
      have first : errorOf (evaluateGroupConditions group profile) =
          (sortBy conditionKey group.conditions).findSome?
            fun condition => errorOf (checkCondition profile condition) := by
        rw [evaluateGroupConditions, errorOf_bind_ok, errorOf_mapM]
      rw [List.findSome?_cons, List.flatMap_cons, List.findSome?_append, first, ih]
      cases List.findSome? (fun condition => errorOf (checkCondition profile condition))
        (sortBy conditionKey group.conditions) <;> rfl

theorem raises_evaluate [Hashlib] (profileSnapshot : Dict) (version : ProgramVersionInput)
    (groups : List RuleGroupInput) :
    Raises EngineError.Retried (evaluate profileSnapshot version groups) ↔
      EvaluationTooLarge profileSnapshot groups := by
  have evaluates (profile : Dict) (condition : RuleConditionInput) :
      (∃ check, checkCondition profile condition = .ok check) ↔
        ∃ matched, evaluateCondition condition.operator (resolveField profile condition.fieldKey)
          condition.valueJson.value = .ok matched := by
    simp only [checkCondition, bind_eq_ok_iff, Except.ok.injEq]
    rw [exists_comm]
    simp only [exists_and_left, exists_eq', and_true]
  have fails (profile : Dict) (condition : RuleConditionInput) :
      Raises EngineError.Retried (checkCondition profile condition) ↔
        ConditionTooLarge condition.operator (resolveField profile condition.fieldKey)
          condition.valueJson.value := by
    simp [checkCondition, raises_bind, raises_evaluateCondition]
  cases normalized : normalizeProfile profileSnapshot with
  | error error =>
      have raises := raises_normalizeProfile profileSnapshot
      rw [normalized, raises_error] at raises
      simp only [evaluate, normalized, bind, Except.bind, raises_error, raises]
      constructor
      · exact .profile
      · rintro (tooLarge | ⟨otherwise, -, -, -⟩)
        · exact tooLarge
        · rw [normalized] at otherwise
          cases otherwise
  | ok profile =>
      have evaluated : Raises EngineError.Retried (evaluate profileSnapshot version groups) ↔
          Raises EngineError.Retried
            ((conditionsInOrder groups).mapM (checkCondition profile)) := by
        rw [raises_iff_errorOf, raises_iff_errorOf, evaluate_eq normalized, conditionsInOrder,
          ← failure_eq]
        cases failure profile (sortedGroups groups) <;> rfl
      rw [evaluated, raises_mapM]
      constructor
      · rintro ⟨before, condition, after, split, earlier, raises⟩
        exact .condition normalized split
          (fun other otherMem => (evaluates profile other).mp (earlier other otherMem))
          ((fails profile condition).mp raises)
      · rintro (tooLarge | ⟨otherwise, split, earlier, tooLarge⟩)
        · rw [← raises_normalizeProfile, normalized] at tooLarge
          simp at tooLarge
        · cases normalized.symm.trans otherwise
          exact ⟨_, _, _, split,
            fun other otherMem => (evaluates profile other).mpr (earlier other otherMem),
            (fails profile _).mpr tooLarge⟩

/-- An evaluation returns or is dead-lettered at the first attempt exactly if the first value
that it cannot convert, if there is one, is not a number too large. -/
theorem conclusive_evaluate_iff [Hashlib] (profileSnapshot : Dict) (version : ProgramVersionInput)
    (groups : List RuleGroupInput) :
    Conclusive (evaluate profileSnapshot version groups) ↔
      ¬ EvaluationTooLarge profileSnapshot groups := by
  rw [conclusive_iff, raises_evaluate]

end Conversions

/-- `AssessmentCreate.validate_profile_payload`, with the messages of its errors. -/
def validateProfilePayload (value : Dict) : Except String Dict :=
  if 30000 < ((Value.dict value).renderWith [',', ' '] [':', ' ']).length then
    .error "profile_json payload is too large"
  else if value = [] then .error "profile_json cannot be empty"
  else .ok value

section Sample

local instance malformedUnicode : UnicodeData := UnicodeData.ascii

local instance malformedHashlib : Hashlib := sampleHashlib

/-- `sampleProfile` with a level of English that `float` takes for an infinity. -/
def infiniteLevelProfile : Dict :=
  Value.assign "idiomas" (.dict [("en", .str "inf")]) (sampleProfile (.int 30))

theorem not_conclusive_infiniteLevel :
    validateProfilePayload infiniteLevelProfile = .ok infiniteLevelProfile ∧
      ¬ Conclusive (evaluate infiniteLevelProfile sampleVersion [sampleGroup]) := by
  have raised : errorOf (evaluate infiniteLevelProfile sampleVersion [sampleGroup]) =
      some (.python .overflowError) := by
    decide +kernel
  refine ⟨rfl, fun conclusive => ?_⟩
  have definitive := (conclusive _ (errorOf_eq_some_iff.mp raised) "").1
  exact absurd definitive (by decide)

end Sample

end ImigrAI.Assessments
