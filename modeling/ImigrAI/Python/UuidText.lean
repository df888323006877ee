import ImigrAI.Python.Objects

/-!
# Reading a UUID back

`UUID(str(uuid))` gives the UUID: user ids travel as texts through tokens and through the payment
provider.
-/

namespace ImigrAI.Python

open Digits Numerals

/-- The digits of a UUID as it is written. -/
def IsLowerHex (char : Char) : Prop := ∃ value < 16, char = Nat.digitChar value

theorem isLowerHex_fixedDigits (width value : ℕ) :
    ∀ digit ∈ fixedDigits 16 width value, IsLowerHex digit := by
  induction width generalizing value with
  | zero => simp [fixedDigits]
  | succ width ih =>
      intro digit digitMem
      rcases List.mem_append.mp digitMem with earlier | last
      · exact ih _ digit earlier
      · exact ⟨value % 16, Nat.mod_lt _ (by norm_num), List.mem_singleton.mp last⟩

namespace IsLowerHex

variable {char : Char} (hex : IsLowerHex char)

include hex

theorem toNat_lt : char.toNat < 128 := by
  rcases hex with ⟨value, small, rfl⟩
  interval_cases value <;> decide

theorem isHexDigit : isHexDigit char := by
  rcases hex with ⟨value, small, rfl⟩
  interval_cases value <;> decide

theorem toLower : char.toLower = char := by
  rcases hex with ⟨value, small, rfl⟩
  interval_cases value <;> decide

theorem not_mark : char ≠ 'u' ∧ char ≠ '{' ∧ char ≠ '}' ∧ char ≠ '-' ∧ char ≠ '+' ∧ char ≠ '_' ∧
    char ≠ 'x' ∧ char ≠ 'X' ∧ char ≠ ' ' ∧ ¬ ('\t' ≤ char ∧ char ≤ '\r') := by
  rcases hex with ⟨value, small, rfl⟩
  interval_cases value <;> decide

theorem digitChar_of_decimalDigit [UnicodeData] :
    (match UnicodeData.decimalDigit char with
      | some digit => (digit : ℕ).digitChar
      | none => char) = char := by
  rw [UnicodeData.decimalDigit_ascii char hex.toNat_lt]
  rcases hex with ⟨value, small, rfl⟩
  interval_cases value <;> rfl

end IsLowerHex

theorem removeAll_of_not_mem {first : Char} {rest text : List Char} (absent : first ∉ text) :
    removeAll (first :: rest) 0 text = text := by
  induction text with
  | nil => rfl
  | cons char text ih =>
      rw [List.mem_cons, not_or] at absent
      have apart : ¬ (first :: rest) <+: char :: text := by
        intro isPrefix
        exact absent.1 (List.cons_prefix_cons.mp isPrefix).1
      rw [removeAll, if_neg apart, ih absent.2]

theorem mem_hyphenated {digits : List Char} {char : Char} (mem : char ∈ UUID.hyphenated digits) :
    char ∈ digits ∨ char = '-' := by
  simp only [UUID.hyphenated, List.mem_append, List.mem_cons] at mem
  have of_take {text : List Char} {count : ℕ} (found : char ∈ (text.take count)) : char ∈ text :=
    List.mem_of_mem_take found
  have of_drop {text : List Char} {count : ℕ} (found : char ∈ (text.drop count)) : char ∈ text :=
    List.mem_of_mem_drop found
  grind

theorem dropWhile_eq_self {text : List Char} {drops : Char → Bool}
    (keeps : ∀ char ∈ text, drops char = false) : text.dropWhile drops = text := by
  cases text with
  | nil => rfl
  | cons char text => exact List.dropWhile_cons_of_neg (by simp [keeps char])

theorem rdropWhile_eq_self {text : List Char} {drops : Char → Bool}
    (keeps : ∀ char ∈ text, drops char = false) : text.rdropWhile drops = text := by
  rw [List.rdropWhile, dropWhile_eq_self, List.reverse_reverse]
  intro char mem
  exact keeps char (List.mem_reverse.mp mem)

section Hex

variable {text : List Char} (hex : ∀ char ∈ text, IsLowerHex char)

include hex

theorem numericText_of_hex [UnicodeData] : Text.numericText (String.ofList text) = text := by
  have blank : ∀ char ∈ text, Text.isNumericSpace text char = false := by
    intro char mem
    have ascii : Text.isAscii text := by
      rw [Text.isAscii, List.all_eq_true]
      intro other otherMem
      simpa using (hex other otherMem).toNat_lt
    have marks := (hex char mem).not_mark
    simp only [Text.isNumericSpace, ascii, if_true, decide_eq_false_iff_not, not_or]
    exact ⟨marks.2.2.2.2.2.2.2.2.1, marks.2.2.2.2.2.2.2.2.2⟩
  rw [Text.numericText, String.toList_ofList, dropWhile_eq_self blank, rdropWhile_eq_self blank]
  apply (List.map_congr_left _).trans (List.map_id _)
  intro char mem
  exact (hex char mem).digitChar_of_decimalDigit

theorem readSign_of_hex : readSign text = (false, text) := by
  cases text with
  | nil => rfl
  | cons char text =>
      have marks := (hex char (by simp)).not_mark
      unfold readSign
      split
      · simp_all
      · simp_all
      · rfl

theorem dropHexMark_of_hex : dropHexMark text = text := by
  have absent (mark : Char) (isMark : mark = 'x' ∨ mark = 'X') : mark ∉ text := by
    intro mem
    have marks := (hex mark mem).not_mark
    rcases isMark with rfl | rfl <;> simp at marks
  have small := absent 'x' (.inl rfl)
  have large := absent 'X' (.inr rfl)
  unfold dropHexMark
  split <;> simp_all

theorem splitOn_of_hex : text.splitOn '_' = [text] := by
  apply List.splitOn_eq_singleton
  intro mem
  exact (hex '_' mem).not_mark.2.2.2.2.2.1 rfl

/-- `int(text, 16)` of hexadecimal digits. -/
theorem intOfHex_of_hex [UnicodeData] (nonempty : text ≠ []) :
    intOfHex (String.ofList text) = .ok (readDigits 16 text : ℤ) := by
  have lower : text.map Char.toLower = text := by
    apply (List.map_congr_left _).trans (List.map_id _)
    intro char mem
    exact (hex char mem).toLower
  have digits : ∀ char ∈ text, isHexDigit char := by
    intro char mem
    exact (hex char mem).isHexDigit
  simp [intOfHex, numericText_of_hex hex, readSign_of_hex hex, dropHexMark_of_hex hex,
    splitOn_of_hex hex, nonempty, lower]
  exact digits

end Hex

section Written

variable (id : UUID)

theorem mem_str_toList {char : Char} (mem : char ∈ id.str.toList) :
    char ≠ 'u' ∧ char ≠ '{' ∧ char ≠ '}' := by
  rw [UUID.str, String.toList_ofList] at mem
  rcases mem_hyphenated mem with digit | rfl
  · have apart := (isLowerHex_fixedDigits 32 id char digit).not_mark
    exact ⟨apart.1, apart.2.1, apart.2.2.1⟩
  · decide

/-- The hexadecimal digits that `UUID` reads in the text of a UUID. -/
theorem hexOfText_str :
    (((removeAll "uuid:".toList 0 (removeAll "urn:".toList 0 id.str.toList)).dropWhile
      fun char => char = '{' || char = '}').rdropWhile
      fun char => char = '{' || char = '}').filter (· ≠ '-') = fixedDigits 16 32 id := by
  have absent : 'u' ∉ id.str.toList := fun mem => (mem_str_toList id mem).1 rfl
  have urn : "urn:".toList = ['u', 'r', 'n', ':'] := by simp
  have uuid : "uuid:".toList = ['u', 'u', 'i', 'd', ':'] := by simp
  have braces : ∀ char ∈ id.str.toList, (char = '{' || char = '}') = false := by
    intro char mem
    simp [mem_str_toList id mem]
  rw [urn, uuid, removeAll_of_not_mem absent, removeAll_of_not_mem absent,
    dropWhile_eq_self braces, rdropWhile_eq_self braces, UUID.str, String.toList_ofList,
    UUID.filter_hyphenated (UUID.fixedDigits_ne_hyphen 32 id)]

theorem intOfHex_str [UnicodeData] :
    intOfHex (String.ofList (fixedDigits 16 32 id)) = .ok ((id : ℕ) : ℤ) := by
  have nonempty : fixedDigits 16 32 (id : ℕ) ≠ [] := by
    apply List.ne_nil_of_length_pos
    simp
  have small : (id : ℕ) < 16 ^ 32 := id.isLt.trans_eq (by norm_num)
  rw [intOfHex_of_hex (isLowerHex_fixedDigits 32 id) nonempty,
    readDigits_fixedDigits (by norm_num) (by norm_num), Nat.mod_eq_of_lt small]

/-- `UUID(str(uuid))`. -/
theorem uuidOfText_str [UnicodeData] : uuidOfText id.str = .ok id := by
  have bounds : 0 ≤ ((id : ℕ) : ℤ) ∧ ((id : ℕ) : ℤ) < 2 ^ 128 :=
    ⟨Int.natCast_nonneg _, by exact_mod_cast id.isLt⟩
  simp only [uuidOfText]
  rw [hexOfText_str, intOfHex_str, length_fixedDigits]
  simp only [ne_eq, not_true_eq_false, if_false, dif_pos bounds]
  congr 1

end Written

theorem UUID.str_ne_empty (id : UUID) : id.str ≠ "" := by
  intro empty
  have characters := congrArg String.toList empty
  rw [UUID.str, String.toList_ofList] at characters
  simp [UUID.hyphenated] at characters

end ImigrAI.Python
