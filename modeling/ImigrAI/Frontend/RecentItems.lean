import ImigrAI.Foundations.Answers
import ImigrAI.Foundations.Json
import ImigrAI.Foundations.Recency
import Mathlib.Data.List.Induction
import Mathlib.Logic.Function.Basic

/-!
# The recent items

`readList`, `writeList` and `addUniqueItem` of the browser. The storage may refuse a value that is
too large for it; `setItem` then throws and nothing is stored.
-/

namespace ImigrAI.Frontend

open Answers Function Json Recency

/-- The texts that are stored under keys. -/
abbrev LocalStorage := Text → Option Text

variable (exceedsQuota : LocalStorage → Text → Text → Bool)

/-- What `JSON.parse` makes of a stored text, up to the strings of an array. -/
def stringItems : JsonValue → List Text
  | .array items => items.filterMap fun item =>
      match item with
      | .string value => some value
      | _ => none
  | _ => []

/-- `readList`, with no window while the page is rendered on the server. -/
def readList (window : Option LocalStorage) (key : Text) : List Text :=
  match window with
  | none => []
  | some localStorage =>
      match localStorage key with
      | none => []
      | some raw =>
          if raw = [] then []
          else match parse raw with
            | none => []
            | some parsed => stringItems parsed

/-- `writeList`, `none` where `setItem` throws. -/
def writeList (window : Option LocalStorage) (key : Text) (values : List Text) :
    Option (Option LocalStorage) :=
  match window with
  | none => some none
  | some localStorage =>
      let text := stringify (values.take 25)
      if exceedsQuota localStorage key text then none
      else some (some (update localStorage key (some text)))

def addUniqueItem (window : Option LocalStorage) (key item : Text) :
    Option (Option LocalStorage) :=
  let existing := readList window key
  writeList exceedsQuota window key (item :: existing.filter (· ≠ item))

structure ItemCall where
  key : Text
  item : Text

/-- Whether the call returns, and what it leaves. -/
def call (window : Option LocalStorage) (added : ItemCall) : Bool × Option LocalStorage :=
  match addUniqueItem exceedsQuota window added.key added.item with
  | none => (false, window)
  | some window => (true, window)

/-- The items under a key whose calls returned. -/
def addedItems (key : Text) (calls : List ItemCall) (returned : List Bool) : List Text :=
  ((calls.zip returned).filter fun done => done.1.key = key ∧ done.2).map (·.1.item)

def emptyStorage : Option LocalStorage := some fun _ => none

theorem filterMap_strings (items : List Text) :
    stringItems (.array (items.map .string)) = items := by
  induction items with
  | nil => rfl
  | cons item items ih => exact congrArg (item :: ·) ih

theorem readList_update_self (localStorage : LocalStorage) (key : Text) (items : List Text) :
    readList (some (update localStorage key (some (stringify items)))) key = items := by
  have written : stringify items ≠ [] := by simp [stringify]
  simp only [readList, update_self, if_neg written, parse_stringify]
  exact filterMap_strings items

theorem readList_update_of_ne (localStorage : LocalStorage) {key other : Text} (ne : other ≠ key)
    (text : Text) :
    readList (some (update localStorage key (some text))) other =
      readList (some localStorage) other := by
  simp only [readList, update_of_ne ne]

/-- A call that returns moves its item to the front of its list, and no other list changes. -/
theorem readList_call (localStorage : LocalStorage) (added : ItemCall) :
    ∃ storage, (call exceedsQuota (some localStorage) added).2 = some storage ∧
      ∀ key, readList (some storage) key =
        if added.key = key ∧ (call exceedsQuota (some localStorage) added).1 then
          (added.item :: (readList (some localStorage) key).filter (· ≠ added.item)).take 25
        else readList (some localStorage) key := by
  simp only [call, addUniqueItem, writeList]
  split_ifs with exceeds
  · exact ⟨localStorage, rfl, fun key => by simp⟩
  · refine ⟨_, rfl, fun key => ?_⟩
    by_cases isKey : key = added.key
    · subst isKey
      rw [readList_update_self]
      simp
    · rw [readList_update_of_ne _ isKey]
      simp [Ne.symm isKey]

theorem addedItems_append_singleton (key : Text) (calls : List ItemCall) (added : ItemCall)
    {returned : List Bool} (sameLength : calls.length = returned.length) (returns : Bool) :
    addedItems key (calls ++ [added]) (returned ++ [returns]) =
      addedItems key calls returned ++ if added.key = key ∧ returns then [added.item] else [] := by
  rw [addedItems, List.zip_append sameLength, List.filter_append, List.map_append]
  by_cases isAdded : added.key = key ∧ returns
  · simp [addedItems, isAdded]
  · simp [addedItems, isAdded]

theorem readList_after (calls : List ItemCall) :
    ∃ storage, after (call exceedsQuota) emptyStorage calls = some storage ∧
      ∀ key, readList (some storage) key =
        (latest (addedItems key calls (answers (call exceedsQuota) emptyStorage calls))).take 25 := by
  induction calls using List.reverseRecOn with
  | nil => exact ⟨_, rfl, fun key => rfl⟩
  | append_singleton calls added ih =>
      rcases ih with ⟨before, isBefore, lists⟩
      rcases readList_call exceedsQuota before added with ⟨storage, leaves, updates⟩
      refine ⟨storage, ?_, fun key => ?_⟩
      · rw [after_append, isBefore]
        exact leaves
      · rw [updates key, answers_append, isBefore, answers_cons, answers_nil,
          addedItems_append_singleton key calls added (by simp), lists key]
        split_ifs
        · exact take_latest_append_singleton _ added.item 24
        · rw [List.append_nil]

theorem addedItems_unlimited (key : Text) (calls : List ItemCall) (window : Option LocalStorage) :
    addedItems key calls (answers (call fun _ _ _ => false) window calls) =
      (calls.filter (·.key = key)).map (·.item) := by
  induction calls generalizing window with
  | nil => rfl
  | cons added calls ih =>
      have returns : (call (fun _ _ _ => false) window added).1 = true := by
        cases window with
        | none => rfl
        | some localStorage => simp [call, addUniqueItem, writeList]
      have rest := ih (call (fun _ _ _ => false) window added).2
      rw [answers_cons, returns]
      by_cases isKey : added.key = key
      · simpa [addedItems, isKey] using rest
      · simpa [addedItems, isKey] using rest

/-- A list that is read back has the latest 25 distinct items that were added to it; these are
those of all calls if the storage takes every value. -/
theorem readList_eq_take_latest (calls : List ItemCall) (key : Text) :
    (∀ exceedsQuota,
      readList (after (call exceedsQuota) emptyStorage calls) key =
          (latest (addedItems key calls
            (answers (call exceedsQuota) emptyStorage calls))).take 25 ∧
        (readList (after (call exceedsQuota) emptyStorage calls) key).Nodup) ∧
      readList (after (call fun _ _ _ => false) emptyStorage calls) key =
        (latest ((calls.filter (·.key = key)).map (·.item))).take 25 := by
  have reads (exceedsQuota : LocalStorage → Text → Text → Bool) :
      readList (after (call exceedsQuota) emptyStorage calls) key =
        (latest (addedItems key calls
          (answers (call exceedsQuota) emptyStorage calls))).take 25 := by
    rcases readList_after exceedsQuota calls with ⟨storage, isAfter, lists⟩
    rw [isAfter, lists key]
  refine ⟨fun exceedsQuota => ⟨reads exceedsQuota, ?_⟩, ?_⟩
  · rw [reads]
    exact (nodup_latest _).sublist (List.take_sublist _ _)
  · rw [reads, addedItems_unlimited]

end ImigrAI.Frontend
