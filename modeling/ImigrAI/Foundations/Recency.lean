import Mathlib.Data.List.Dedup

/-!
# The latest distinct items

The items of a history, each once, from the latest to the earliest last addition. A list that
moves every added item to its front and keeps a bounded number of items has the first of these.
-/

namespace ImigrAI.Recency

universe u

variable {Item : Type u} [DecidableEq Item]

/-- The items of a history without duplicates, the one that was added last first. -/
def latest (items : List Item) : List Item := items.dedup.reverse

theorem nodup_latest (items : List Item) : (latest items).Nodup :=
  List.nodup_reverse.mpr (List.nodup_dedup items)

theorem dedup_append_singleton (items : List Item) (item : Item) :
    (items ++ [item]).dedup = items.dedup.filter (· ≠ item) ++ [item] := by
  induction items with
  | nil => simp
  | cons first items ih =>
      rw [List.cons_append, List.dedup_cons, ih, List.dedup_cons]
      by_cases isItem : first = item
      · subst isItem
        by_cases inItems : first ∈ items
        · simp [inItems]
        · simp [inItems]
      · by_cases inItems : first ∈ items
        · simp [inItems]
        · simp [inItems, isItem]

/-- An item that is added moves to the front. -/
theorem latest_append_singleton (items : List Item) (item : Item) :
    latest (items ++ [item]) = item :: (latest items).filter (· ≠ item) := by
  simp only [latest, dedup_append_singleton, List.reverse_append, List.reverse_singleton,
    List.singleton_append, List.filter_reverse]

/-- What fell off the end is not needed to fill the list again, since at most one item of it is
moved to the front. -/
theorem take_filter_take {items : List Item} (distinct : items.Nodup) (item : Item) (count : ℕ) :
    ((items.take (count + 1)).filter (· ≠ item)).take count =
      (items.filter (· ≠ item)).take count := by
  induction items generalizing count with
  | nil => simp
  | cons first items ih =>
      rcases List.nodup_cons.mp distinct with ⟨notMem, distinct⟩
      cases count with
      | zero => simp
      | succ count =>
          rw [List.take_succ_cons]
          by_cases isItem : first = item
          · subst isItem
            have others (part : List Item) (subset : part ⊆ items) :
                part.filter (· ≠ first) = part := by
              rw [List.filter_eq_self]
              intro other otherMem
              rw [decide_eq_true_eq]
              rintro rfl
              exact notMem (subset otherMem)
            rw [List.filter_cons_of_neg (by simp), List.filter_cons_of_neg (by simp),
              others _ (List.take_subset _ _), others items (List.Subset.refl _), List.take_take,
              Nat.min_self]
          · rw [List.filter_cons_of_pos (by simpa using isItem),
              List.filter_cons_of_pos (by simpa using isItem), List.take_succ_cons,
              List.take_succ_cons, ih distinct count]

/-- Adding an item to the front of the first ones, and keeping as many. -/
theorem take_latest_append_singleton (items : List Item) (item : Item) (count : ℕ) :
    (item :: ((latest items).take (count + 1)).filter (· ≠ item)).take (count + 1) =
      (latest (items ++ [item])).take (count + 1) := by
  rw [latest_append_singleton, List.take_succ_cons, List.take_succ_cons,
    take_filter_take (nodup_latest items)]

end ImigrAI.Recency
