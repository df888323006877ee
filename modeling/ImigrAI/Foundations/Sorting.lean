import Mathlib.Data.List.Sort
import Mathlib.Data.Prod.Lex

/-!
# Sorting by a key

A stable sort of a list by a key into a linear order. What is sorted is a permutation of what
was there, and none comes before its first element.
-/

namespace ImigrAI.Sorting

universe u v

variable {Element : Type u} {Key : Type v} [LinearOrder Key]

/-- The list in the order of the keys; elements with equal keys keep their order. -/
def sortBy (key : Element → Key) (elements : List Element) : List Element :=
  elements.insertionSort fun left right => key left ≤ key right

theorem sortBy_perm (key : Element → Key) (elements : List Element) :
    (sortBy key elements).Perm elements :=
  List.perm_insertionSort _ _

@[simp]
theorem mem_sortBy {key : Element → Key} {elements : List Element} {element : Element} :
    element ∈ sortBy key elements ↔ element ∈ elements :=
  (sortBy_perm key elements).mem_iff

/-- The first element of a sorted list whose elements are all the same. -/
theorem head?_sortBy_eq_some {key : Element → Key} {elements : List Element} {element : Element}
    (mem : element ∈ elements) (alone : ∀ other ∈ elements, other = element) :
    (sortBy key elements).head? = some element := by
  cases sorted : sortBy key elements with
  | nil =>
      have sortedMem : element ∈ sortBy key elements := mem_sortBy.mpr mem
      simp [sorted] at sortedMem
  | cons first rest =>
      have firstMem : first ∈ sortBy key elements := by simp [sorted]
      rw [List.head?_cons, alone first (mem_sortBy.mp firstMem)]

theorem mem_of_head?_sortBy {key : Element → Key} {elements : List Element} {element : Element}
    (first : (sortBy key elements).head? = some element) : element ∈ elements :=
  mem_sortBy.mp (List.mem_of_mem_head? first)

/-- The element is in the list and none comes before it. -/
def FirstBy (key : Element → Key) (elements : List Element) (first : Element) : Prop :=
  first ∈ elements ∧ ∀ other ∈ elements, key first ≤ key other

theorem firstBy_of_head?_sortBy {key : Element → Key} {elements : List Element} {first : Element}
    (head : (sortBy key elements).head? = some first) : FirstBy key elements first := by
  refine ⟨mem_of_head?_sortBy head, fun other otherMem => ?_⟩
  have sorted := List.pairwise_insertionSort (fun left right => key left ≤ key right) elements
  rcases List.head?_eq_some_iff.mp head with ⟨rest, split⟩
  rw [sortBy] at split
  rw [split] at sorted
  have otherSorted : other ∈ first :: rest := by
    rw [← split, ← sortBy, mem_sortBy]
    exact otherMem
  rcases List.mem_cons.mp otherSorted with rfl | otherRest
  · exact le_rfl
  · exact List.rel_of_pairwise_cons sorted otherRest

/-- There is a first element, and all first ones have the property. -/
def EveryFirst (key : Element → Key) (property : Element → Prop) (elements : List Element) : Prop :=
  (∃ first, FirstBy key elements first) ∧ ∀ first, FirstBy key elements first → property first

section EveryFirst

variable {key : Element → Key} {property : Element → Prop} {elements others : List Element}

theorem exists_head?_sortBy (key : Element → Key) {element : Element} (mem : element ∈ elements) :
    ∃ first, (sortBy key elements).head? = some first := by
  cases head : (sortBy key elements).head? with
  | none =>
      rw [List.head?_eq_none_iff] at head
      have sortedMem : element ∈ sortBy key elements := mem_sortBy.mpr mem
      simp [head] at sortedMem
  | some first => exact ⟨first, rfl⟩

theorem exists_firstBy {element : Element} (mem : element ∈ elements) :
    ∃ first, FirstBy key elements first := by
  rcases exists_head?_sortBy key mem with ⟨first, head⟩
  exact ⟨first, firstBy_of_head?_sortBy head⟩

/-- What a query for the first element finds. -/
theorem EveryFirst.head? (every : EveryFirst key property elements) :
    ∃ first, (sortBy key elements).head? = some first ∧ property first := by
  rcases every with ⟨⟨element, firstBy⟩, all⟩
  rcases exists_head?_sortBy key firstBy.1 with ⟨first, head⟩
  exact ⟨first, head, all first (firstBy_of_head?_sortBy head)⟩

theorem firstBy_congr (same : ∀ element, element ∈ elements ↔ element ∈ others) (first : Element) :
    FirstBy key elements first ↔ FirstBy key others first := by
  simp only [FirstBy, same]

theorem everyFirst_congr (same : ∀ element, element ∈ elements ↔ element ∈ others) :
    EveryFirst key property elements ↔ EveryFirst key property others := by
  simp only [EveryFirst, firstBy_congr same]

variable {added : Element}
  (adds : ∀ element, element ∈ elements ↔ element = added ∨ element ∈ others)

include adds

/-- An element that something stands before is not a first one. -/
theorem everyFirst_add_of_before (before : ∃ earlier ∈ others, key earlier < key added) :
    EveryFirst key property elements ↔ EveryFirst key property others := by
  have same (first : Element) : FirstBy key elements first ↔ FirstBy key others first := by
    rcases before with ⟨earlier, earlierMem, earlierLt⟩
    constructor
    · rintro ⟨mem, least⟩
      rcases (adds first).mp mem with rfl | mem
      · exact absurd (least earlier ((adds earlier).mpr (Or.inr earlierMem))) (not_le.mpr earlierLt)
      · exact ⟨mem, fun other otherMem => least other ((adds other).mpr (Or.inr otherMem))⟩
    · rintro ⟨mem, least⟩
      refine ⟨(adds first).mpr (Or.inr mem), ?_⟩
      intro other otherMem
      rcases (adds other).mp otherMem with rfl | otherMem
      · exact (least earlier earlierMem).trans earlierLt.le
      · exact least other otherMem
  simp only [EveryFirst, same]

/-- An element that nothing stands before is a first one. -/
theorem firstBy_added (first : ∀ other ∈ others, key added ≤ key other) :
    FirstBy key elements added := by
  refine ⟨(adds added).mpr (Or.inl rfl), ?_⟩
  intro other otherMem
  rcases (adds other).mp otherMem with rfl | otherMem
  · exact le_rfl
  · exact first other otherMem

/-- With an element added, the first ones have the property exactly if the added one has it
or something stands before it, and those of the others have it that do not come after it. -/
theorem everyFirst_add_iff :
    EveryFirst key property elements ↔
      ((∃ earlier ∈ others, key earlier < key added) ∨ property added) ∧
        ∀ first, FirstBy key others first → key first ≤ key added → property first := by
  by_cases before : ∃ earlier ∈ others, key earlier < key added
  · rw [everyFirst_add_of_before adds before]
    constructor
    · rintro ⟨-, all⟩
      exact ⟨Or.inl before, fun first firstBy _ => all first firstBy⟩
    · rintro ⟨-, all⟩
      rcases before with ⟨earlier, earlierMem, earlierLt⟩
      refine ⟨exists_firstBy earlierMem, ?_⟩
      intro first firstBy
      exact all first firstBy ((firstBy.2 earlier earlierMem).trans earlierLt.le)
  · have first : ∀ other ∈ others, key added ≤ key other := by
      intro other otherMem
      by_contra less
      exact before ⟨other, otherMem, not_le.mp less⟩
    constructor
    · rintro ⟨-, all⟩
      refine ⟨Or.inr (all added (firstBy_added adds first)), ?_⟩
      rintro other ⟨otherMem, -⟩ notAfter
      apply all other
      refine ⟨(adds other).mpr (Or.inr otherMem), ?_⟩
      intro element elementMem
      exact notAfter.trans ((firstBy_added adds first).2 element elementMem)
    · rintro ⟨addedOr, all⟩
      refine ⟨⟨added, firstBy_added adds first⟩, ?_⟩
      rintro other ⟨otherMem, least⟩
      rcases (adds other).mp otherMem with rfl | inOthers
      · exact addedOr.resolve_left before
      · refine all other ⟨inOthers, ?_⟩ (least added ((adds added).mpr (Or.inl rfl)))
        intro element elementMem
        exact least element ((adds element).mpr (Or.inr elementMem))

end EveryFirst

theorem filter_orderedInsert {related : Element → Element → Prop} [DecidableRel related]
    {keep : Element → Bool} {inserted : Element} {elements : List Element}
    (transitive : ∀ first second third, related first second → related second third →
      related first third)
    (sorted : elements.Pairwise related) :
    (elements.orderedInsert related inserted).filter keep =
      if keep inserted then (elements.filter keep).orderedInsert related inserted
      else elements.filter keep := by
  induction elements with
  | nil => simp [List.filter_cons]
  | cons first rest ih =>
      rcases List.pairwise_cons.mp sorted with ⟨firstLe, sortedRest⟩
      by_cases before : related inserted first
      · rw [List.orderedInsert_cons_of_le _ _ before, List.filter_cons]
        split_ifs with kept
        · -- Everything after the place of insertion comes after what is inserted.
          have all : ∀ element ∈ (first :: rest).filter keep, related inserted element := by
            intro element mem
            rcases List.mem_cons.mp (List.mem_filter.mp mem).1 with rfl | restMem
            · exact before
            · exact transitive _ _ _ before (firstLe element restMem)
          cases filtered : (first :: rest).filter keep with
          | nil => rfl
          | cons head tail =>
              rw [filtered] at all
              rw [List.orderedInsert_cons_of_le _ _ (all head (by simp))]
        · rfl
      · rw [List.orderedInsert_cons, if_neg before, List.filter_cons, ih sortedRest,
          List.filter_cons]
        split_ifs
        · rw [List.orderedInsert_cons, if_neg before]
        · rfl
        · rfl
        · rfl

/-- The part of the sorted list that a test keeps is the sorted part. -/
theorem sortBy_filter (key : Element → Key) (keep : Element → Bool) (elements : List Element) :
    sortBy key (elements.filter keep) = (sortBy key elements).filter keep := by
  unfold sortBy
  induction elements with
  | nil => rfl
  | cons first rest ih =>
      have sorted := List.pairwise_insertionSort (fun left right => key left ≤ key right) rest
      have transitive : ∀ left middle right : Element, key left ≤ key middle →
          key middle ≤ key right → key left ≤ key right := fun _ _ _ => le_trans
      rw [List.insertionSort_cons, filter_orderedInsert transitive sorted, List.filter_cons]
      split_ifs
      · rw [List.insertionSort_cons, ih]
      · exact ih

/-- What is sorted by a key that tells the elements apart does not depend on the order before. -/
theorem sortBy_eq_of_perm {key : Element → Key} {elements others : List Element}
    (perm : elements.Perm others)
    (apart : ∀ first ∈ elements, ∀ second ∈ elements, key first = key second → first = second) :
    sortBy key elements = sortBy key others := by
  refine @List.Perm.eq_of_pairwise _ (fun left right => key left ≤ key right) _ _ ?_ ?_ ?_ ?_
  · intro first second firstMem secondMem firstLe secondLe
    apply apart first (mem_sortBy.mp firstMem) second
    · exact perm.mem_iff.mpr (mem_sortBy.mp secondMem)
    · exact le_antisymm firstLe secondLe
  · exact List.pairwise_insertionSort _ _
  · exact List.pairwise_insertionSort _ _
  · exact (sortBy_perm key elements).trans (perm.trans (sortBy_perm key others).symm)

/-- Lists that correspond are still so once they are sorted by a key that partners share. -/
theorem forall₂_sortBy {Other : Type*} {related : Element → Other → Prop} {key : Element → Key}
    {otherKey : Other → Key} (sameKey : ∀ element other, related element other →
      key element = otherKey other)
    {elements : List Element} {others : List Other} (pairs : List.Forall₂ related elements others) :
    List.Forall₂ related (sortBy key elements) (sortBy otherKey others) := by
  have inserts : ∀ {first : Element} {second : Other} {lefts : List Element} {rights : List Other},
      related first second → List.Forall₂ related lefts rights →
      List.Forall₂ related (lefts.orderedInsert (fun left right => key left ≤ key right) first)
        (rights.orderedInsert (fun left right => otherKey left ≤ otherKey right) second) := by
    intro first second lefts rights pair tails
    induction tails with
    | nil => exact .cons pair .nil
    | cons head tail ih =>
        rw [List.orderedInsert_cons, List.orderedInsert_cons, sameKey _ _ pair, sameKey _ _ head]
        split_ifs
        · exact .cons pair (.cons head tail)
        · exact .cons head ih
  unfold sortBy
  induction pairs with
  | nil => exact .nil
  | cons head _ ih => exact inserts head ih

theorem sortBy_map {Source : Type*} (key : Element → Key) (image : Source → Element)
    (sources : List Source) :
    sortBy key (sources.map image) =
      (sortBy (fun source => key (image source)) sources).map image := by
  symm
  apply List.map_insertionSort
  intro left _ right _
  exact Iff.rfl

end ImigrAI.Sorting
