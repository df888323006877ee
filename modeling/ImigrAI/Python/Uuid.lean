import ImigrAI.Foundations.Digits

/-!
# UUIDs

The text of a UUID orders rule groups, conditions and outcomes and stands in the canonical
payload of a rule set, so it has to determine the UUID.
-/

namespace ImigrAI.Python

open Digits

/-- A UUID is its 128 bits. -/
abbrev UUID := Fin (2 ^ 128)

instance neZeroUUID : NeZero (2 ^ 128) := ⟨by decide⟩

instance : LawfulBEq UUID := inferInstance

namespace UUID

/-- Digits with hyphens after the eighth, twelfth, sixteenth and twentieth. -/
def hyphenated (digits : List Char) : List Char :=
  digits.take 8 ++ '-' :: (digits.drop 8).take 4 ++ '-' :: (digits.drop 12).take 4 ++
    '-' :: (digits.drop 16).take 4 ++ '-' :: digits.drop 20

/-- `str(uuid)`. -/
def str (id : UUID) : String := String.ofList (hyphenated (fixedDigits 16 32 id))

theorem filter_hyphenated {digits : List Char} (noHyphen : ∀ digit ∈ digits, digit ≠ '-') :
    (hyphenated digits).filter (· ≠ '-') = digits := by
  have keep (part : List Char) (sub : ∀ digit ∈ part, digit ∈ digits) :
      part.filter (· ≠ '-') = part := by
    rw [List.filter_eq_self]
    intro digit digitMem
    simpa using noHyphen digit (sub digit digitMem)
  simp only [hyphenated, List.filter_append, List.filter_cons]
  rw [keep _ fun _ => List.mem_of_mem_take,
    keep _ fun _ mem => List.mem_of_mem_drop (List.mem_of_mem_take mem),
    keep _ fun _ mem => List.mem_of_mem_drop (List.mem_of_mem_take mem),
    keep _ fun _ mem => List.mem_of_mem_drop (List.mem_of_mem_take mem),
    keep _ fun _ => List.mem_of_mem_drop]
  simp only [ne_eq, not_true_eq_false, decide_false, Bool.false_eq_true, if_false,
    List.append_assoc]
  rw [show 20 = 16 + 4 from rfl, ← List.drop_drop, List.take_append_drop,
    show 16 = 12 + 4 from rfl, ← List.drop_drop, List.take_append_drop,
    show 12 = 8 + 4 from rfl, ← List.drop_drop, List.take_append_drop, List.take_append_drop]

theorem fixedDigits_ne_hyphen (width value : ℕ) :
    ∀ digit ∈ fixedDigits 16 width value, digit ≠ '-' := by
  induction width generalizing value with
  | zero => simp [fixedDigits]
  | succ width ih =>
      intro digit digitMem
      rcases List.mem_append.mp digitMem with earlier | last
      · exact ih _ digit earlier
      · have small : value % 16 < 16 := Nat.mod_lt _ (by norm_num)
        rw [List.mem_singleton.mp last]
        interval_cases value % 16 <;> decide

/-- The text of a UUID determines it. -/
theorem str_injective : Function.Injective str := by
  intro left right same
  have digits := congrArg (List.filter (· ≠ '-')) (String.ofList_injective same)
  rw [filter_hyphenated (fixedDigits_ne_hyphen 32 left),
    filter_hyphenated (fixedDigits_ne_hyphen 32 right)] at digits
  exact Fin.ext (fixedDigits_inj (by norm_num) (by norm_num)
    (left.isLt.trans_eq (by norm_num)) (right.isLt.trans_eq (by norm_num)) digits)

end UUID

end ImigrAI.Python
