import Mathlib.Data.List.Infix
import Mathlib.Data.List.TakeWhile
import Mathlib.Tactic.Common

/-!
# Backtracking patterns

Regular expressions without nested repetition, matched the way a backtracking engine does it:
a pattern gives the matches at a place in the order in which they are tried, and a search
takes the first match at the first place that has one. A match captures the texts of the
groups. What a match consists of is stated by a relation that knows nothing of the order.
-/

namespace ImigrAI.Patterns

inductive Pattern where
  | empty
  /-- One character. -/
  | literal (accepts : Char → Bool)
  | sequence (first second : Pattern)
  | either (first second : Pattern)
  /-- As many characters as there are, from `least` up to `most`, the longest run first. -/
  | repeated (accepts : Char → Bool) (least : ℕ) (most : Option ℕ)
  | group (body : Pattern)

/-- What a match leaves: the texts of the groups and the rest of the input. -/
structure Match where
  groups : List (List Char)
  rest : List Char

namespace Pattern

/-- The number of characters that a greedy run can take. -/
def runLength (accepts : Char → Bool) (most : Option ℕ) (input : List Char) : ℕ :=
  let available := (input.takeWhile accepts).length
  most.elim available (min available)

/-- The matches at the beginning of the input, in the order in which they are tried. -/
def matches_ : Pattern → List Char → List Match
  | empty, input => [⟨[], input⟩]
  | literal _, [] => []
  | literal accepts, char :: rest => if accepts char then [⟨[], rest⟩] else []
  | sequence first second, input =>
      (first.matches_ input).flatMap fun found =>
        (second.matches_ found.rest).map fun next => ⟨found.groups ++ next.groups, next.rest⟩
  | either first second, input => first.matches_ input ++ second.matches_ input
  | repeated accepts least most, input =>
      let longest := runLength accepts most input
      (List.range' least (longest + 1 - least)).reverse.map fun count => ⟨[], input.drop count⟩
  | group body, input =>
      (body.matches_ input).map fun found =>
        ⟨input.take (input.length - found.rest.length) :: found.groups, found.rest⟩

/-- The characters of a word one after the other. -/
def word (same : Char → Char → Bool) : List Char → Pattern
  | [] => empty
  | char :: rest => sequence (literal (same char)) (word same rest)

/-- The groups of the first match at the first place that has one. -/
def search (pattern : Pattern) : List Char → Option (List (List Char))
  | [] => (pattern.matches_ []).head?.map (·.groups)
  | char :: rest =>
      match pattern.matches_ (char :: rest) with
      | found :: _ => some found.groups
      | [] => search pattern rest

/-- The pattern matches a text, capturing these groups. -/
inductive Matches : Pattern → List Char → List (List Char) → Prop where
  | empty : Matches .empty [] []
  | literal {accepts : Char → Bool} {char : Char} (accepted : accepts char) :
      Matches (.literal accepts) [char] []
  | sequence {first second : Pattern} {firstText secondText : List Char}
      {firstGroups secondGroups : List (List Char)} (firstMatch : Matches first firstText firstGroups)
      (secondMatch : Matches second secondText secondGroups) :
      Matches (.sequence first second) (firstText ++ secondText) (firstGroups ++ secondGroups)
  | eitherFirst {first second : Pattern} {text : List Char} {groups : List (List Char)}
      (firstMatch : Matches first text groups) : Matches (.either first second) text groups
  | eitherSecond {first second : Pattern} {text : List Char} {groups : List (List Char)}
      (secondMatch : Matches second text groups) : Matches (.either first second) text groups
  | repeated {accepts : Char → Bool} {least : ℕ} {most : Option ℕ} {text : List Char}
      (all : ∀ char ∈ text, accepts char) (enough : least ≤ text.length) :
      Matches (.repeated accepts least most) text []
  | group {body : Pattern} {text : List Char} {groups : List (List Char)}
      (bodyMatch : Matches body text groups) : Matches (.group body) text (text :: groups)

theorem matches_literal_iff {accepts : Char → Bool} {text : List Char}
    {groups : List (List Char)} :
    Matches (.literal accepts) text groups ↔
      ∃ char, accepts char ∧ text = [char] ∧ groups = [] := by
  constructor
  · intro matched
    cases matched with
    | literal accepted => exact ⟨_, accepted, rfl, rfl⟩
  · rintro ⟨char, accepted, rfl, rfl⟩
    exact .literal accepted

theorem matches_sequence_iff {first second : Pattern} {text : List Char}
    {groups : List (List Char)} :
    Matches (.sequence first second) text groups ↔
      ∃ firstText secondText firstGroups secondGroups,
        Matches first firstText firstGroups ∧ Matches second secondText secondGroups ∧
        text = firstText ++ secondText ∧ groups = firstGroups ++ secondGroups := by
  constructor
  · intro matched
    cases matched with
    | sequence firstMatch secondMatch => exact ⟨_, _, _, _, firstMatch, secondMatch, rfl, rfl⟩
  · rintro ⟨firstText, secondText, firstGroups, secondGroups, firstMatch, secondMatch, rfl, rfl⟩
    exact .sequence firstMatch secondMatch

theorem matches_repeated_iff {accepts : Char → Bool} {least : ℕ} {most : Option ℕ}
    {text : List Char} {groups : List (List Char)} :
    Matches (.repeated accepts least most) text groups ↔
      (∀ char ∈ text, accepts char) ∧ least ≤ text.length ∧ groups = [] := by
  constructor
  · intro matched
    cases matched with
    | repeated all enough => exact ⟨all, enough, rfl⟩
  · rintro ⟨all, enough, rfl⟩
    exact .repeated all enough

theorem matches_group_iff {body : Pattern} {text : List Char} {groups : List (List Char)} :
    Matches (.group body) text groups ↔
      ∃ inner, Matches body text inner ∧ groups = text :: inner := by
  constructor
  · intro matched
    cases matched with
    | group bodyMatch => exact ⟨_, bodyMatch, rfl⟩
  · rintro ⟨inner, bodyMatch, rfl⟩
    exact .group bodyMatch

theorem takeWhile_accepts {accepts : Char → Bool} {input : List Char} {count : ℕ}
    (within : count ≤ (input.takeWhile accepts).length) :
    ∀ char ∈ input.take count, accepts char := by
  intro char charMem
  have sub : input.take count = (input.takeWhile accepts).take count := by
    conv_lhs => rw [← List.takeWhile_append_dropWhile (p := accepts) (l := input)]
    rw [List.take_append_of_le_length within]
  rw [sub] at charMem
  exact List.mem_takeWhile_imp (List.mem_of_mem_take charMem)

/-- Whatever the engine tries is a match of a beginning of the input. -/
theorem matches_of_mem {pattern : Pattern} {input : List Char} {found : Match}
    (foundMem : found ∈ pattern.matches_ input) :
    ∃ text, input = text ++ found.rest ∧ Matches pattern text found.groups := by
  induction pattern generalizing input found with
  | empty =>
      rw [matches_] at foundMem
      rw [List.mem_singleton.mp foundMem]
      exact ⟨[], rfl, .empty⟩
  | literal accepts =>
      cases input with
      | nil => exact absurd foundMem (by simp [matches_])
      | cons char rest =>
          rw [matches_] at foundMem
          split_ifs at foundMem with accepted
          · rw [List.mem_singleton.mp foundMem]
            exact ⟨[char], rfl, .literal accepted⟩
          · exact absurd foundMem (by simp)
  | sequence first second firstIh secondIh =>
      rw [matches_] at foundMem
      rcases List.mem_flatMap.mp foundMem with ⟨head, headMem, tailMem⟩
      rcases List.mem_map.mp tailMem with ⟨next, nextMem, rfl⟩
      rcases firstIh headMem with ⟨firstText, split, firstMatch⟩
      rcases secondIh nextMem with ⟨secondText, splitRest, secondMatch⟩
      refine ⟨firstText ++ secondText, ?_, .sequence firstMatch secondMatch⟩
      rw [split, splitRest, List.append_assoc]
  | either first second firstIh secondIh =>
      rw [matches_] at foundMem
      rcases List.mem_append.mp foundMem with firstMem | secondMem
      · rcases firstIh firstMem with ⟨text, split, firstMatch⟩
        exact ⟨text, split, .eitherFirst firstMatch⟩
      · rcases secondIh secondMem with ⟨text, split, secondMatch⟩
        exact ⟨text, split, .eitherSecond secondMatch⟩
  | repeated accepts least most =>
      rw [matches_] at foundMem
      rcases List.mem_map.mp foundMem with ⟨count, countMem, rfl⟩
      rw [List.mem_reverse, List.mem_range'_1] at countMem
      have longest : runLength accepts most input ≤ (input.takeWhile accepts).length := by
        cases most with
        | none => exact le_rfl
        | some most => exact min_le_left _ _
      have within : count ≤ (input.takeWhile accepts).length := by omega
      have available := (List.takeWhile_sublist accepts (l := input)).length_le
      refine ⟨input.take count, (List.take_append_drop count input).symm,
        .repeated (takeWhile_accepts within) ?_⟩
      rw [List.length_take]
      omega
  | group body bodyIh =>
      rw [matches_] at foundMem
      rcases List.mem_map.mp foundMem with ⟨inner, innerMem, rfl⟩
      rcases bodyIh innerMem with ⟨text, split, bodyMatch⟩
      refine ⟨text, split, ?_⟩
      have consumed : input.take (input.length - inner.rest.length) = text := by
        simp [split]
      rw [consumed]
      exact .group bodyMatch

/-- A search finds a match of some part of the text. -/
theorem matches_of_search {pattern : Pattern} {input : List Char} {groups : List (List Char)}
    (found : pattern.search input = some groups) :
    ∃ before text after, input = before ++ text ++ after ∧ Matches pattern text groups := by
  induction input with
  | nil =>
      rw [search] at found
      rcases Option.map_eq_some_iff.mp found with ⟨first, firstMem, rfl⟩
      rcases matches_of_mem (List.mem_of_mem_head? firstMem) with ⟨text, split, matched⟩
      exact ⟨[], text, first.rest, split, matched⟩
  | cons char rest ih =>
      rw [search] at found
      split at found
      · next first others tried =>
          cases found
          rcases matches_of_mem (tried ▸ List.mem_cons_self) with ⟨text, split, matched⟩
          exact ⟨[], text, first.rest, split, matched⟩
      · rcases ih found with ⟨before, text, after, split, matched⟩
        exact ⟨char :: before, text, after, by simp [split], matched⟩

end Pattern

end ImigrAI.Patterns
