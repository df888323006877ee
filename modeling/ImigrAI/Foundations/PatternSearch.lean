import ImigrAI.Foundations.Patterns
import Mathlib.Data.List.Forall2

/-!
# Searching for a pattern

A search goes through the places of a text and takes the first one at which something can be
read. What a pattern reads at a place is computed here for the pieces that leave the engine no
choice, a word and a gap before something that no character of the gap begins, and for a
greedy run at the end of a pattern.
-/

namespace ImigrAI.Patterns

universe u v

variable {Found : Type u} {Other : Type v}

/-- What is read at the first place at which anything is, with the text before it. -/
def scan (read : List Char → Option Found) : List Char → Option (List Char × Found)
  | [] => (read []).map fun found => ([], found)
  | char :: rest =>
      match read (char :: rest) with
      | some found => some ([], found)
      | none => (scan read rest).map fun place => (char :: place.1, place.2)

theorem scan_eq_some_iff {read : List Char → Option Found} {input before : List Char}
    {found : Found} :
    scan read input = some (before, found) ↔
      ∃ tail, input = before ++ tail ∧ read tail = some found ∧
        ∀ earlier later, before = earlier ++ later → later ≠ [] → read (later ++ tail) = none := by
  induction input generalizing before with
  | nil =>
      rw [scan, Option.map_eq_some_iff]
      constructor
      · rintro ⟨found, reads, same⟩
        cases same
        refine ⟨[], rfl, reads, fun earlier later split nonempty => ?_⟩
        exact absurd (List.append_eq_nil_iff.mp split.symm).2 nonempty
      · rintro ⟨tail, split, reads, -⟩
        rcases List.append_eq_nil_iff.mp split.symm with ⟨rfl, rfl⟩
        exact ⟨found, reads, rfl⟩
  | cons char rest ih =>
      rw [scan]
      cases reading : read (char :: rest) with
      | some first =>
          constructor
          · intro same
            cases same
            refine ⟨char :: rest, rfl, reading, fun earlier later split nonempty => ?_⟩
            exact absurd (List.append_eq_nil_iff.mp split.symm).2 nonempty
          · rintro ⟨tail, split, reads, none⟩
            cases before with
            | nil =>
                rw [List.nil_append] at split
                subst split
                cases reading.symm.trans reads
                rfl
            | cons head more =>
                have unread := none [] (head :: more) rfl (by simp)
                rw [← split, reading] at unread
                cases unread
      | none =>
          rw [Option.map_eq_some_iff]
          constructor
          · rintro ⟨⟨more, later⟩, scanned, same⟩
            cases same
            rcases ih.mp scanned with ⟨tail, rfl, reads, none⟩
            refine ⟨tail, rfl, reads, fun earlier later split nonempty => ?_⟩
            cases earlier with
            | nil =>
                rw [List.nil_append] at split
                rw [← split]
                exact reading
            | cons head earlier =>
                exact none earlier later (List.cons.inj split).2 nonempty
          · rintro ⟨tail, split, reads, none⟩
            cases before with
            | nil =>
                rw [List.nil_append] at split
                subst split
                cases reading.symm.trans reads
            | cons head more =>
                rcases List.cons.inj split with ⟨rfl, rfl⟩
                refine ⟨(more, found), ih.mpr ⟨tail, rfl, reads, ?_⟩, rfl⟩
                intro earlier later split nonempty
                exact none (char :: earlier) later (by rw [split, List.cons_append]) nonempty

theorem scan_map (read : List Char → Option Found) (f : Found → Other) (input : List Char) :
    scan (fun tail => (read tail).map f) input =
      (scan read input).map fun place => (place.1, f place.2) := by
  induction input with
  | nil =>
      rw [scan, scan, Option.map_map, Option.map_map]
      rfl
  | cons char rest ih =>
      rw [scan, scan]
      cases read (char :: rest) with
      | some found => rfl
      | none =>
          simp only [Option.map_none, ih, Option.map_map]
          rfl

deriving instance DecidableEq for Match

namespace Pattern

/-- The first match at a place. -/
def firstMatch (pattern : Pattern) (input : List Char) : Option Match :=
  (pattern.matches_ input).head?

/-- The first match at the first place that has one, with the text before it. -/
def find (pattern : Pattern) (input : List Char) : Option (List Char × Match) :=
  scan pattern.firstMatch input

theorem search_eq_find (pattern : Pattern) (input : List Char) :
    pattern.search input = (pattern.find input).map fun place => place.2.groups := by
  induction input with
  | nil =>
      rw [search, find, scan, Option.map_map]
      rfl
  | cons char rest ih =>
      rw [search, find, scan, firstMatch]
      cases pattern.matches_ (char :: rest) with
      | cons found others => rfl
      | nil =>
          rw [ih, find, List.head?_nil, Option.map_map]
          rfl

/-- The text begins with the word. -/
def startsWith (same : Char → Char → Bool) : List Char → List Char → Bool
  | [], _ => true
  | _ :: _, [] => false
  | char :: word, other :: rest => same char other && startsWith same word rest

theorem matches_word (same : Char → Char → Bool) (chars input : List Char) :
    (word same chars).matches_ input =
      if startsWith same chars input then [⟨[], input.drop chars.length⟩] else [] := by
  induction chars generalizing input with
  | nil => rfl
  | cons char rest ih =>
      cases input with
      | nil => rfl
      | cons other tail =>
          rw [word, matches_, matches_, startsWith]
          cases same char other with
          | false => rfl
          | true =>
              rw [if_pos rfl, List.flatMap_singleton, ih, Bool.true_and]
              split_ifs <;> rfl

theorem forall₂_of_startsWith {same : Char → Char → Bool} {chars input : List Char}
    (starts : startsWith same chars input) :
    List.Forall₂ (fun char other => same char other) chars (input.take chars.length) := by
  induction chars generalizing input with
  | nil => exact .nil
  | cons char rest ih =>
      cases input with
      | nil => exact absurd starts (by simp [startsWith])
      | cons other tail =>
          rw [startsWith, Bool.and_eq_true] at starts
          exact .cons starts.1 (ih starts.2)

theorem startsWith_append {same : Char → Char → Bool} {chars : List Char}
    (refl : ∀ char ∈ chars, same char char) (tail : List Char) :
    startsWith same chars (chars ++ tail) := by
  induction chars with
  | nil => rfl
  | cons char rest ih =>
      rw [List.cons_append, startsWith, refl char List.mem_cons_self,
        ih fun other otherMem => refl other (List.mem_cons_of_mem _ otherMem)]
      rfl

theorem length_le_of_startsWith {same : Char → Char → Bool} {chars input : List Char}
    (starts : startsWith same chars input) : chars.length ≤ input.length := by
  have lengths := (forall₂_of_startsWith starts).length_eq
  rw [List.length_take] at lengths
  omega

theorem drop_length_takeWhile (accepts : Char → Bool) (input : List Char) :
    input.drop (input.takeWhile accepts).length = input.dropWhile accepts := by
  induction input with
  | nil => rfl
  | cons char rest ih =>
      rw [List.takeWhile_cons, List.dropWhile_cons]
      split_ifs
      · exact ih
      · rfl

/-- Short of the end of a run there is another character of it. -/
theorem exists_drop_of_lt {accepts : Char → Bool} {input : List Char} {count : ℕ}
    (short : count < (input.takeWhile accepts).length) :
    ∃ char rest, input.drop count = char :: rest ∧ accepts char := by
  induction input generalizing count with
  | nil => exact absurd short (by simp)
  | cons char rest ih =>
      rw [List.takeWhile_cons] at short
      split_ifs at short with accepted
      · cases count with
        | zero => exact ⟨char, rest, rfl, accepted⟩
        | succ count => exact ih (by simpa using short)
      · exact absurd short (by simp)

/-- A bounded run before something that none of its characters begins is the longest one. -/
theorem matches_gap {accepts : Char → Bool} {most : ℕ} {next : Pattern}
    (apart : ∀ char rest, accepts char → next.matches_ (char :: rest) = []) (input : List Char) :
    (sequence (repeated accepts 0 (some most)) next).matches_ input =
      if (input.takeWhile accepts).length ≤ most then next.matches_ (input.dropWhile accepts)
      else [] := by
  have inside (count : ℕ) (short : count < (input.takeWhile accepts).length) :
      next.matches_ (input.drop count) = [] := by
    rcases exists_drop_of_lt short with ⟨char, rest, split, accepted⟩
    rw [split]
    exact apart char rest accepted
  have tried : (sequence (repeated accepts 0 (some most)) next).matches_ input =
      (List.range (runLength accepts (some most) input + 1)).reverse.flatMap fun count =>
        next.matches_ (input.drop count) := by
    simp only [matches_, Nat.sub_zero, List.flatMap_map, List.nil_append, List.map_id',
      List.range_eq_range']
  rw [tried]
  split_ifs with fits
  · have longest : runLength accepts (some most) input = (input.takeWhile accepts).length :=
      min_eq_left fits
    rw [longest, List.range_succ, List.reverse_append, List.reverse_singleton,
      List.singleton_append, List.flatMap_cons, drop_length_takeWhile]
    have others : ((List.range (input.takeWhile accepts).length).reverse.flatMap fun count =>
        next.matches_ (input.drop count)) = [] := by
      rw [List.flatMap_eq_nil_iff]
      intro count countMem
      exact inside count (List.mem_range.mp (List.mem_reverse.mp countMem))
    rw [others, List.append_nil]
  · rw [List.flatMap_eq_nil_iff]
    intro count countMem
    have within := List.mem_range.mp (List.mem_reverse.mp countMem)
    have bounded : runLength accepts (some most) input ≤ most := min_le_right _ _
    exact inside count (by omega)

section First

variable {first second body : Pattern} {input : List Char} {found next : Match}

theorem firstMatch_either (matched : first.firstMatch input = some found) :
    (either first second).firstMatch input = some found := by
  rw [firstMatch, matches_, List.head?_append, ← firstMatch, matched]
  rfl

theorem firstMatch_sequence (matched : first.firstMatch input = some found)
    (followed : second.firstMatch found.rest = some next) :
    (sequence first second).firstMatch input = some ⟨found.groups ++ next.groups, next.rest⟩ := by
  rcases List.head?_eq_some_iff.mp matched with ⟨others, tried⟩
  rcases List.head?_eq_some_iff.mp followed with ⟨more, triedNext⟩
  rw [firstMatch, matches_, tried, List.flatMap_cons, triedNext]
  rfl

theorem firstMatch_group {text : List Char} (split : input = text ++ found.rest)
    (matched : body.firstMatch input = some found) :
    (group body).firstMatch input = some ⟨text :: found.groups, found.rest⟩ := by
  have consumed : input.take (input.length - found.rest.length) = text := by
    simp [split]
  rw [firstMatch, matches_, List.head?_map, ← firstMatch, matched, Option.map_some, consumed]

theorem firstMatch_word {same : Char → Char → Bool} {chars : List Char}
    (starts : startsWith same chars input) :
    (word same chars).firstMatch input = some ⟨[], input.drop chars.length⟩ := by
  rw [firstMatch, matches_word, if_pos starts]
  rfl

end First

/-- A run takes all that it can at first. -/
theorem firstMatch_repeated (accepts : Char → Bool) (least : ℕ) (input : List Char) :
    (repeated accepts least none).firstMatch input =
      if least ≤ (input.takeWhile accepts).length then some ⟨[], input.dropWhile accepts⟩
      else none := by
  rw [firstMatch, matches_, ← drop_length_takeWhile]
  show ((List.range' least ((input.takeWhile accepts).length + 1 - least)).reverse.map _).head? = _
  split_ifs with enough
  · obtain ⟨extra, length⟩ := Nat.exists_eq_add_of_le enough
    have count : (input.takeWhile accepts).length + 1 - least = extra + 1 := by omega
    rw [count, List.range'_concat, List.reverse_append, length]
    simp
  · have count : (input.takeWhile accepts).length + 1 - least = 0 := by omega
    rw [count]
    rfl

end Pattern

end ImigrAI.Patterns
