import ImigrAI.Foundations.PatternSearch
import ImigrAI.Ingestion.Extractors

/-!
# Where thresholds are read

The extractor reads an age at the first place of the text with an age keyword, a gap and two
digits, whatever stands before the keyword and after the digits, and a language level wherever
its two characters stand. So the threshold is that of a complete number after a keyword, and the
level a word, exactly if this holds at the place that comes first.
-/

namespace ImigrAI.Ingestion

open Python Patterns Pattern Fallible

section Reading

variable [UnicodeData]

def ageKeywords : List String := ["age", "idade", "edad", "years", "anos"]

/-- A keyword with the gap and the two digits after it. -/
structure AgeReading where
  keyword : List Char
  gap : List Char
  number : List Char
  after : List Char
deriving DecidableEq

/-- A keyword at the beginning of a text, with at most twenty characters that are no digits and
then a digit that is not zero and another digit after it. -/
def readAge (word : String) (tail : List Char) : Option AgeReading :=
  let rest := tail.drop word.toList.length
  let gap := rest.takeWhile fun char => !isDecimal char
  if startsWith UnicodeData.sameCase word.toList tail ∧ gap.length ≤ 20 then
    match rest.dropWhile fun char => !isDecimal char with
    | first :: second :: after =>
        if ('1' ≤ first && first ≤ '9') ∧ isDecimal second then
          some ⟨tail.take word.toList.length, gap, [first, second], after⟩
        else none
    | _ => none
  else none

/-- The first keyword that reads at the first place at which one does. -/
def firstAge (text : List Char) : Option (List Char × AgeReading) :=
  scan (fun tail => ageKeywords.findSome? fun word => readAge word tail) text

def AgeReading.toMatch (reading : AgeReading) : Match :=
  ⟨[reading.keyword, reading.number], reading.after⟩

/-- The two digits of the pattern. -/
def ageNumber : Pattern :=
  .group (.sequence (.literal fun char => '1' ≤ char && char ≤ '9') (.literal isDecimal))

theorem matches_ageNumber (input : List Char) :
    ageNumber.matches_ input =
      match input with
      | first :: second :: after =>
          if ('1' ≤ first && first ≤ '9') ∧ isDecimal second then [⟨[[first, second]], after⟩] else []
      | _ => [] := by
  match input with
  | [] => rfl
  | [first] =>
      simp only [ageNumber, matches_]
      split_ifs <;> rfl
  | first :: second :: after =>
      simp only [ageNumber, matches_]
      by_cases nonzero : ('1' ≤ first && first ≤ '9') = true
      · by_cases decimal : isDecimal second
        · have consumed : after.length + 1 + 1 - after.length = 2 := by omega
          rw [if_pos nonzero, if_pos ⟨nonzero, decimal⟩]
          simp [matches_, decimal, consumed]
        · rw [if_pos nonzero, if_neg fun both => decimal both.2]
          simp [matches_, decimal]
      · rw [if_neg nonzero, if_neg fun both => nonzero both.1]
        rfl

theorem matches_gap_ageNumber (input : List Char) :
    (sequence gap ageNumber).matches_ input =
      if (input.takeWhile fun char => !isDecimal char).length ≤ 20 then
        ageNumber.matches_ (input.dropWhile fun char => !isDecimal char)
      else [] := by
  refine matches_gap ?_ input
  intro char rest notDecimal
  have zero : ¬ ('1' ≤ char && char ≤ '9') = true := by
    intro nonzero
    simp [isDecimal_of_nonzero nonzero] at notDecimal
  cases rest with
  | nil => rw [matches_ageNumber]
  | cons second after =>
      rw [matches_ageNumber]
      exact if_neg fun both => zero both.1

/-- What the pattern matches with one of its keywords. -/
theorem matches_keyword (word : String) (tail : List Char) :
    ((((keyword word).matches_ tail).map fun found =>
        (⟨tail.take (tail.length - found.rest.length) :: found.groups, found.rest⟩ : Match)).flatMap
      fun found => ((sequence gap ageNumber).matches_ found.rest).map fun next =>
        (⟨found.groups ++ next.groups, next.rest⟩ : Match)) =
      (readAge word tail).toList.map AgeReading.toMatch := by
  rw [keyword, matches_word, readAge]
  by_cases starts : startsWith UnicodeData.sameCase word.toList tail
  · rw [if_pos starts]
    have length := length_le_of_startsWith starts
    have consumed : tail.length - (tail.drop word.toList.length).length = word.toList.length := by
      rw [List.length_drop]
      omega
    simp only [List.map_singleton, List.flatMap_singleton, consumed, matches_gap_ageNumber]
    generalize tail.drop word.toList.length = rest
    by_cases short : (rest.takeWhile fun char => !isDecimal char).length ≤ 20
    · rw [if_pos short, if_pos ⟨starts, short⟩, matches_ageNumber]
      split
      · split_ifs <;> rfl
      · rfl
    · rw [if_neg short, if_neg fun both => short both.2]
      rfl
  · rw [if_neg starts, if_neg fun both => starts both.1]
    rfl

theorem matches_agePattern (tail : List Char) :
    agePattern.matches_ tail =
      ageKeywords.flatMap fun word => (readAge word tail).toList.map AgeReading.toMatch := by
  simp only [agePattern, matches_, List.map_append, List.flatMap_append, ageKeywords,
    List.flatMap_cons, List.flatMap_nil, List.append_nil, ← matches_keyword]
  rfl

theorem find_agePattern (text : List Char) :
    agePattern.find text = (firstAge text).map fun place => (place.1, place.2.toMatch) := by
  have first : agePattern.firstMatch = fun tail =>
      (ageKeywords.findSome? fun word => readAge word tail).map AgeReading.toMatch := by
    funext tail
    rw [firstMatch, matches_agePattern, List.head?_flatMap, List.map_findSome?]
    congr 1
    funext word
    rw [Function.comp_apply]
    cases readAge word tail <;> rfl
  rw [find, first, scan_map]
  rfl

/-- What a keyword reads is a beginning of the text. -/
theorem readAge_eq_some {word : String} {tail : List Char} {reading : AgeReading}
    (reads : readAge word tail = some reading) :
    tail = reading.keyword ++ reading.gap ++ reading.number ++ reading.after ∧
      List.Forall₂ (fun char other => UnicodeData.sameCase char other) word.toList reading.keyword ∧
      (∀ char ∈ reading.gap, isDecimal char = false) ∧
      ∃ first second, reading.number = [first, second] ∧ isDecimal first ∧ isDecimal second := by
  unfold readAge at reads
  dsimp only at reads
  split at reads
  · next starts =>
      split at reads
      · next first second after digits =>
          split_ifs at reads with decimals
          · cases reads
            refine ⟨?_, forall₂_of_startsWith starts.1, ?_, first, second, rfl,
              isDecimal_of_nonzero decimals.1, decimals.2⟩
            · have rest := List.takeWhile_append_dropWhile (p := fun char => !isDecimal char)
                (l := tail.drop word.toList.length)
              rw [digits] at rest
              conv_lhs => rw [← List.take_append_drop word.toList.length tail, ← rest]
              simp
            · intro char charMem
              simpa using List.mem_takeWhile_imp charMem
      · cases reads
  · cases reads

theorem detectAge_eq (lowered : String) :
    detectAge lowered =
      match firstAge lowered.toList with
      | some (_, reading) => (intOfText (String.ofList reading.number)).map some
      | none => .ok none := by
  rw [detectAge, search_eq_find, find_agePattern, Option.map_map]
  cases firstAge lowered.toList <;> rfl

end Reading

/-- What a word is made of, given the letters. -/
def isWordChar [UnicodeData] (isLetter : Char → Bool) (char : Char) : Bool :=
  isLetter char || isDecimal char || char = '_'

/-- No character of a kind stands right before or after a piece of a text. -/
def Bounded (kind : Char → Bool) (before after : List Char) : Prop :=
  (∀ char ∈ before.getLast?, kind char = false) ∧ ∀ char ∈ after.head?, kind char = false

/-- The word occurs as a word of its own. -/
def OccursAsWord [UnicodeData] (isLetter : Char → Bool) (word text : List Char) : Prop :=
  ∃ before after, text = before ++ word ++ after ∧ Bounded (isWordChar isLetter) before after

section Thresholds

variable [UnicodeData]

/-- The match of the age pattern is an age keyword that is a word of its own, and a complete
number after it that reads as the age. -/
def ReadsAge (isLetter : Char → Bool) (text : List Char) (age : ℤ) : Prop :=
  ∃ before keyword gap number after,
    agePattern.find text = some (before, ⟨[keyword, number], after⟩) ∧
    text = before ++ keyword ++ gap ++ number ++ after ∧
    (∃ word ∈ ageKeywords,
      List.Forall₂ (fun char other => UnicodeData.sameCase char other) word.toList keyword) ∧
    Bounded (isWordChar isLetter) before (gap ++ number ++ after) ∧
    (∀ char ∈ number, isDecimal char) ∧ Bounded isDecimal (before ++ keyword ++ gap) after ∧
    intOfText (String.ofList number) = .ok age

/-- An age rule has the value of a complete number after an age keyword that is a word of its own,
and a language rule has a level that occurs as a word of its own. -/
structure SoundThresholds (isLetter : Char → Bool) (lowered : String)
    (groups : List NormalizedRuleGroup) : Prop where
  age : ∀ age, ageGroup age ∈ groups → ReadsAge isLetter lowered.toList age
  language : ∀ level, languageGroup level ∈ groups →
    OccursAsWord isLetter (UnicodeData.lower level).toList lowered.toList

/-- The level stands somewhere in the text. -/
def Occurs (level : String) (text : String) : Prop :=
  (UnicodeData.lower level).toList <:+: text.toList

/-- The keyword that is read first is a word of its own and its two digits are followed by no
third, and the highest of the levels that stand in the text stands there as a word of its own. -/
structure SoundPlaces (isLetter : Char → Bool) (lowered : String) : Prop where
  age : ∀ before reading, firstAge lowered.toList = some (before, reading) →
    Bounded (isWordChar isLetter) before (reading.gap ++ reading.number ++ reading.after) ∧
      ∀ char ∈ reading.after.head?, isDecimal char = false
  language : ∀ level ∈ cefrLevels, Occurs level lowered →
    (∀ higher ∈ cefrLevels, cefrToRank level < cefrToRank higher → ¬ Occurs higher lowered) →
    OccursAsWord isLetter (UnicodeData.lower level).toList lowered.toList

omit [UnicodeData] in
/-- Levels stand in the order of their ranks. -/
theorem mem_of_cefrToRank_lt {before after : List String} {level higher : String}
    (split : cefrLevels = before ++ level :: after) (higherMem : higher ∈ cefrLevels)
    (above : cefrToRank level < cefrToRank higher) : higher ∈ after := by
  have distinct : (before ++ level :: after).Nodup := split ▸ (by decide : cefrLevels.Nodup)
  have levelOut : level ∉ before := fun levelMem =>
    (List.nodup_append.mp distinct).2.2 level levelMem level List.mem_cons_self rfl
  rw [split, List.mem_append, List.mem_cons] at higherMem
  simp only [cefrToRank, split, List.idxOf_append_of_notMem levelOut, List.idxOf_cons_self] at above
  rcases higherMem with higherMem | rfl | higherMem
  · have place := List.idxOf_lt_length_of_mem higherMem
    rw [List.idxOf_append_of_mem higherMem] at above
    omega
  · rw [List.idxOf_append_of_notMem levelOut, List.idxOf_cons_self] at above
    omega
  · exact higherMem

/-- The highest level that stands in the text is extracted. -/
theorem extractLanguageLevel_spec {lowered level : String}
    (extracted : extractLanguageLevel lowered = some level) :
    level ∈ cefrLevels ∧ Occurs level lowered ∧
      ∀ higher ∈ cefrLevels, cefrToRank level < cefrToRank higher → ¬ Occurs higher lowered := by
  rcases List.find?_eq_some_iff_append.mp extracted with ⟨occurs, after, before, split, absent⟩
  have order : cefrLevels = before.reverse ++ level :: after.reverse := by
    have reversed := congrArg List.reverse split
    simpa using reversed
  refine ⟨by simp [order], by simpa [Occurs] using occurs, fun higher higherMem above stands => ?_⟩
  have higherAfter := mem_of_cefrToRank_lt order higherMem above
  have missing := absent higher (List.mem_reverse.mp higherAfter)
  simp only [Bool.not_eq_true', decide_eq_false_iff_not] at missing
  exact missing stands

theorem extractLanguageLevel_eq_some_iff {lowered level : String} :
    extractLanguageLevel lowered = some level ↔
      level ∈ cefrLevels ∧ Occurs level lowered ∧
        ∀ higher ∈ cefrLevels, cefrToRank level < cefrToRank higher → ¬ Occurs higher lowered := by
  refine ⟨extractLanguageLevel_spec, ?_⟩
  rintro ⟨levelMem, occurs, highest⟩
  cases extracted : extractLanguageLevel lowered with
  | none =>
      have missing := List.find?_eq_none.mp extracted level (List.mem_reverse.mpr levelMem)
      exact absurd occurs (by simpa [Occurs] using missing)
  | some other =>
      rcases extractLanguageLevel_spec extracted with ⟨otherMem, otherOccurs, otherHighest⟩
      have below := mt (highest other otherMem) (not_not.mpr otherOccurs)
      have above := mt (otherHighest level levelMem) (not_not.mpr occurs)
      have sameRank : cefrLevels.idxOf other = cefrLevels.idxOf level := by
        simp only [cefrToRank] at below above
        omega
      rw [(List.idxOf_inj otherMem).mp sameRank]

omit [UnicodeData] in
theorem ageGroup_injective : Function.Injective ageGroup := by
  intro first second same
  have conditions := congrArg (fun group => group.conditions.map (·.valueJson.value)) same
  simpa [ageGroup, intJson] using conditions

omit [UnicodeData] in
theorem languageGroup_injective : Function.Injective languageGroup := by
  intro first second same
  have outcomes := congrArg (fun group => group.outcomes.map (·.explanationMessage.toList)) same
  exact String.toList_injective (by simpa [languageGroup] using outcomes)

variable {source : SourceRegistry} {text : String} {groups : List NormalizedRuleGroup}
  {signals : ℕ}

/-- Where the groups come from. -/
theorem mem_groups_iff (built : buildRuleGroups source text = .ok (groups, signals)) :
    ∃ age income, detectAge (UnicodeData.lower text) = .ok age ∧ detectIncome text = .ok income ∧
      ∀ group, group ∈ groups ↔
        (∃ value ∈ age, ageGroup value = group) ∨ (∃ value ∈ income, incomeGroup value = group) ∨
        (∃ level ∈ extractLanguageLevel (UnicodeData.lower text), languageGroup level = group) ∨
        group = baselineGroup source := by
  rcases bind_eq_ok_iff.mp built with ⟨age, ageDetected, built⟩
  rcases bind_eq_ok_iff.mp built with ⟨income, incomeDetected, built⟩
  cases built
  exact ⟨age, income, ageDetected, incomeDetected, fun group => by simp⟩

theorem mem_ageGroup_iff (built : buildRuleGroups source text = .ok (groups, signals)) {age : ℤ} :
    ageGroup age ∈ groups ↔ detectAge (UnicodeData.lower text) = .ok (some age) := by
  rcases mem_groups_iff built with ⟨detected, income, detecting, -, groupMem⟩
  rw [groupMem, detecting, Except.ok.injEq]
  constructor
  · rintro (⟨value, valueMem, same⟩ | ⟨_, _, same⟩ | ⟨_, _, same⟩ | same)
    · rw [← ageGroup_injective same]
      exact valueMem
    · exact absurd (congrArg NormalizedRuleGroup.code same) (by simp [ageGroup, incomeGroup])
    · exact absurd (congrArg NormalizedRuleGroup.code same) (by simp [ageGroup, languageGroup])
    · exact absurd (congrArg NormalizedRuleGroup.code same) (by simp [ageGroup, baselineGroup])
  · rintro rfl
    exact Or.inl ⟨age, rfl, rfl⟩

theorem mem_languageGroup_iff (built : buildRuleGroups source text = .ok (groups, signals))
    {level : String} :
    languageGroup level ∈ groups ↔
      extractLanguageLevel (UnicodeData.lower text) = some level := by
  rcases mem_groups_iff built with ⟨age, income, -, -, groupMem⟩
  rw [groupMem]
  constructor
  · rintro (⟨_, _, same⟩ | ⟨_, _, same⟩ | ⟨other, otherMem, same⟩ | same)
    · exact absurd (congrArg NormalizedRuleGroup.code same) (by simp [ageGroup, languageGroup])
    · exact absurd (congrArg NormalizedRuleGroup.code same) (by simp [incomeGroup, languageGroup])
    · rw [← languageGroup_injective same]
      exact otherMem
    · exact absurd (congrArg NormalizedRuleGroup.code same) (by simp [languageGroup, baselineGroup])
  · intro extracted
    exact Or.inr (Or.inr (Or.inl ⟨level, extracted, rfl⟩))

/-- What is read at the first place that reads an age. -/
theorem firstAge_eq_some {chars before : List Char} {reading : AgeReading}
    (first : firstAge chars = some (before, reading)) :
    ∃ word ∈ ageKeywords, ∃ tail, chars = before ++ tail ∧ readAge word tail = some reading := by
  rcases scan_eq_some_iff.mp first with ⟨tail, split, reads, -⟩
  rcases List.exists_of_findSome?_eq_some reads with ⟨word, wordMem, reads⟩
  exact ⟨word, wordMem, tail, split, reads⟩

/-- An age that is read at a sound place is that of a complete number. -/
theorem readsAge_of_firstAge {isLetter : Char → Bool} {chars before : List Char}
    {reading : AgeReading} {age : ℤ} (first : firstAge chars = some (before, reading))
    (free : Bounded (isWordChar isLetter) before (reading.gap ++ reading.number ++ reading.after))
    (complete : ∀ char ∈ reading.after.head?, isDecimal char = false)
    (read : intOfText (String.ofList reading.number) = .ok age) : ReadsAge isLetter chars age := by
  rcases firstAge_eq_some first with ⟨word, wordMem, tail, split, reads⟩
  rcases readAge_eq_some reads with ⟨tailSplit, same, gap, digit, other, number, digitDecimal,
    otherDecimal⟩
  refine ⟨before, reading.keyword, reading.gap, reading.number, reading.after, ?_, ?_,
    ⟨word, wordMem, same⟩, free, ?_, ⟨?_, complete⟩, read⟩
  · rw [find_agePattern, first]
    rfl
  · rw [split, tailSplit]
    simp
  · simp [number, digitDecimal, otherDecimal]
  · -- The number is no part of the keyword's word, so the gap is not empty.
    have nonempty : reading.gap ≠ [] := by
      intro empty
      have notWord := free.2 digit (by simp [empty, number])
      simp [isWordChar, digitDecimal] at notWord
    intro char charLast
    rw [List.getLast?_append_of_ne_nil _ nonempty] at charLast
    exact gap char (List.mem_of_getLast? charLast)

/-- The rules that are built have sound thresholds exactly if the places that come first are
sound. -/
theorem soundThresholds_iff (isLetter : Char → Bool)
    (built : buildRuleGroups source text = .ok (groups, signals)) :
    SoundThresholds isLetter (UnicodeData.lower text) groups ↔
      SoundPlaces isLetter (UnicodeData.lower text) := by
  rcases mem_groups_iff built with ⟨detected, -, detecting, -, -⟩
  constructor
  · rintro ⟨age, language⟩
    constructor
    · intro before reading first
      rw [detectAge_eq, first] at detecting
      rcases map_eq_ok_iff.mp detecting with ⟨value, read, rfl⟩
      have ageMem : ageGroup value ∈ groups := by
        rw [mem_ageGroup_iff built, detectAge_eq, first]
        simp only [read]
        rfl
      rcases age value ageMem with ⟨other, keyword, gap, number, after, found, split, -, free, -,
        ⟨-, complete⟩, -⟩
      rw [find_agePattern, first] at found
      cases found
      rcases firstAge_eq_some first with ⟨word, -, tail, tailSplit, reads⟩
      have sameGap : gap = reading.gap := by
        rw [tailSplit, (readAge_eq_some reads).1] at split
        simpa [List.append_assoc] using split.symm
      rw [← sameGap]
      exact ⟨free, complete⟩
    · intro level levelMem occurs highest
      exact language level ((mem_languageGroup_iff built).mpr
        (extractLanguageLevel_eq_some_iff.mpr ⟨levelMem, occurs, highest⟩))
  · rintro ⟨age, language⟩
    constructor
    · intro value ageMem
      have detectsAge := (mem_ageGroup_iff built).mp ageMem
      rw [detectAge_eq] at detectsAge
      cases first : firstAge (UnicodeData.lower text).toList with
      | none => simp [first] at detectsAge
      | some place =>
          rcases place with ⟨before, reading⟩
          simp only [first] at detectsAge
          rcases map_eq_ok_iff.mp detectsAge with ⟨_, read, same⟩
          cases same
          rcases age before reading first with ⟨free, complete⟩
          exact readsAge_of_firstAge first free complete read
    · intro level levelMem
      rcases extractLanguageLevel_eq_some_iff.mp ((mem_languageGroup_iff built).mp levelMem) with
        ⟨ofLevels, occurs, highest⟩
      exact language level ofLevels occurs highest

end Thresholds

section Samples

local instance placesUnicodeData : UnicodeData := UnicodeData.ascii

def placesSource : SourceRegistry := ⟨19, "ca-express-entry", "CA", "1.0.0"⟩

def soundText : String := "Age 45 or under. English level B2."

theorem soundText_built :
    buildRuleGroups placesSource soundText =
      .ok ([ageGroup 45, languageGroup "B2", baselineGroup placesSource], 2) := by
  have age : detectAge (UnicodeData.lower soundText) = .ok (some 45) := by rfl
  have income : detectIncome soundText = .ok none := by rfl
  have level : extractLanguageLevel (UnicodeData.lower soundText) = some "B2" := by decide +kernel
  simp only [buildRuleGroups, age, income, level]
  rfl

/-- The age and the level of a text that says nothing else are sound. -/
theorem soundThresholds_soundText :
    SoundThresholds Char.isAlpha (UnicodeData.lower soundText)
      [ageGroup 45, languageGroup "B2", baselineGroup placesSource] := by
  refine (soundThresholds_iff Char.isAlpha soundText_built).mpr ⟨?_, ?_⟩
  · intro before reading first
    have place : firstAge (UnicodeData.lower soundText).toList =
        some ([], ⟨"age".toList, [' '], ['4', '5'], " or under. english level b2.".toList⟩) := by
      decide +kernel
    cases first.symm.trans place
    refine ⟨⟨?_, ?_⟩, ?_⟩
    · rintro char ⟨⟩
    · rintro char ⟨⟩
      decide
    · rintro char ⟨⟩
      decide
  · intro level levelMem occurs highest
    have extracted := extractLanguageLevel_eq_some_iff.mpr ⟨levelMem, occurs, highest⟩
    have only : extractLanguageLevel (UnicodeData.lower soundText) = some "B2" := by decide +kernel
    cases extracted.symm.trans only
    have split : (UnicodeData.lower soundText).toList = "age 45 or under. english level ".toList ++
        (UnicodeData.lower "B2").toList ++ ['.'] := by
      decide +kernel
    refine ⟨_, _, split, ?_, ?_⟩
    · rintro char ⟨⟩
      decide
    · rintro char ⟨⟩
      decide

/-- The word "language" ends in a keyword, and the number after it begins with two digits. -/
theorem language_number_unsound :
    ∃ groups signals, buildRuleGroups placesSource "language 10023" = .ok (groups, signals) ∧
      ¬ SoundThresholds Char.isAlpha (UnicodeData.lower "language 10023") groups := by
  refine ⟨[ageGroup 10, baselineGroup placesSource], 1, ?_, ?_⟩
  · have age : detectAge (UnicodeData.lower "language 10023") = .ok (some 10) := by rfl
    have income : detectIncome "language 10023" = .ok none := by rfl
    have level : extractLanguageLevel (UnicodeData.lower "language 10023") = none := by
      decide +kernel
    simp only [buildRuleGroups, age, income, level]
    rfl
  · intro sound
    rcases sound.age 10 List.mem_cons_self with ⟨before, keyword, gap, number, after, found, -, -,
      free, -⟩
    have place : agePattern.find (UnicodeData.lower "language 10023").toList =
        some ("langu".toList, ⟨["age".toList, ['1', '0']], "023".toList⟩) := by
      decide +kernel
    cases found.symm.trans place
    exact absurd (free.1 'u' rfl) (by decide)

end Samples

end ImigrAI.Ingestion
