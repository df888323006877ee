import Mathlib.Data.Fintype.Card
import Mathlib.Data.List.Nodup
import Mathlib.Data.Set.Finite.Basic
import Mathlib.Logic.Relation
import Mathlib.Order.WellFounded
import Mathlib.Tactic.Common

/-!
# Arrangements of dependent elements

Finitely many elements, each of which may need others, can be put in an order in which every
element comes after all that it needs, exactly if nothing outside is needed and no element needs
itself through others.
-/

namespace ImigrAI.Arrangements

open Relation

universe u

variable {Element : Type u} (needs : Element → Element → Prop)

/-- Every element comes after all that it needs. -/
inductive Arranged : List Element → Prop where
  | nil : Arranged []
  | snoc {placed : List Element} {element : Element} (arranged : Arranged placed)
      (met : ∀ other, needs element other → other ∈ placed) : Arranged (placed ++ [element])

/-- Nothing outside of the list is needed. -/
def Closed (elements : List Element) : Prop :=
  ∀ element ∈ elements, ∀ other, needs element other → other ∈ elements

/-- No element of the list needs itself through others. -/
def Acyclic (elements : List Element) : Prop :=
  ∀ element ∈ elements, ¬ TransGen needs element element

variable {needs} {elements : List Element}

theorem Arranged.closed (arranged : Arranged needs elements) : Closed needs elements := by
  induction arranged with
  | nil => simp [Closed]
  | snoc arranged met ih =>
      intro element mem other needed
      rcases List.mem_append.mp mem with earlier | last
      · apply List.mem_append_left
        exact ih element earlier other needed
      · rcases List.mem_singleton.mp last with rfl
        apply List.mem_append_left
        exact met other needed

theorem Closed.mem_of_reflTransGen (closed : Closed needs elements) {element other : Element}
    (mem : element ∈ elements) (path : ReflTransGen needs element other) : other ∈ elements := by
  induction path with
  | refl => exact mem
  | tail _ needed ih => exact closed _ ih _ needed

theorem Arranged.acyclic (arranged : Arranged needs elements) (nodup : elements.Nodup) :
    Acyclic needs elements := by
  induction arranged with
  | nil => simp [Acyclic]
  | snoc arranged met ih =>
      intro element mem cycle
      rcases List.nodup_append.mp nodup with ⟨distinct, -, apart⟩
      rcases List.mem_append.mp mem with earlier | last
      · exact ih distinct element earlier cycle
      · rcases List.mem_singleton.mp last with rfl
        rcases TransGen.head'_iff.mp cycle with ⟨first, needed, path⟩
        have back := arranged.closed.mem_of_reflTransGen (met first needed) path
        exact apart _ back _ last rfl

/-- Something is needed by no element of the list. -/
theorem Acyclic.exists_not_needed (acyclic : Acyclic needs elements) (nonempty : elements ≠ []) :
    ∃ last ∈ elements, ∀ element ∈ elements, ¬ needs element last := by
  let above : {element // element ∈ elements} → {element // element ∈ elements} → Prop :=
    fun element other => TransGen needs element.1 other.1
  have transitive : IsTrans _ above := ⟨fun _ _ _ first second => first.trans second⟩
  have irreflexive : Std.Irrefl above := ⟨fun element => acyclic element.1 element.2⟩
  have finite : Finite {element // element ∈ elements} := elements.finite_toSet.to_subtype
  have wellFounded := Finite.wellFounded_of_trans_of_irrefl above
  rcases List.exists_mem_of_ne_nil _ nonempty with ⟨one, oneMem⟩
  rcases wellFounded.has_min Set.univ ⟨⟨one, oneMem⟩, trivial⟩ with ⟨last, -, least⟩
  refine ⟨last.1, last.2, ?_⟩
  intro element mem needed
  exact least ⟨element, mem⟩ trivial (TransGen.single needed)

theorem exists_arranged [DecidableEq Element] (length : ℕ) (hasLength : elements.length = length)
    (nodup : elements.Nodup) (closed : Closed needs elements) (acyclic : Acyclic needs elements) :
    ∃ arranged, arranged.Perm elements ∧ Arranged needs arranged := by
  induction length generalizing elements with
  | zero =>
      rcases List.length_eq_zero_iff.mp hasLength with rfl
      exact ⟨[], List.Perm.refl _, .nil⟩
  | succ length ih =>
      have nonempty : elements ≠ [] := by
        rintro rfl
        cases hasLength
      rcases acyclic.exists_not_needed nonempty with ⟨last, lastMem, notNeeded⟩
      have closedRest : Closed needs (elements.erase last) := by
        intro element mem other needed
        have elementMem := List.mem_of_mem_erase mem
        apply (nodup.mem_erase_iff).mpr
        refine ⟨?_, closed element elementMem other needed⟩
        rintro rfl
        exact notNeeded element elementMem needed
      have acyclicRest : Acyclic needs (elements.erase last) := by
        intro element mem
        exact acyclic element (List.mem_of_mem_erase mem)
      have shorter : (elements.erase last).length = length := by
        rw [List.length_erase_of_mem lastMem]
        omega
      rcases ih shorter (nodup.erase last) closedRest acyclicRest with ⟨rest, perm, arranged⟩
      refine ⟨rest ++ [last], ?_, .snoc arranged ?_⟩
      · have front := (perm.append_right [last]).trans List.perm_append_comm
        exact front.trans (List.perm_cons_erase lastMem).symm
      · intro other needed
        rw [perm.mem_iff, nodup.mem_erase_iff]
        refine ⟨?_, closed last lastMem other needed⟩
        rintro rfl
        exact notNeeded other lastMem needed

theorem exists_arranged_iff [DecidableEq Element] (nodup : elements.Nodup) :
    (∃ arranged, arranged.Perm elements ∧ Arranged needs arranged) ↔
      Closed needs elements ∧ Acyclic needs elements := by
  constructor
  · rintro ⟨arranged, perm, isArranged⟩
    refine ⟨?_, ?_⟩
    · intro element mem other needed
      apply perm.subset
      exact isArranged.closed element (perm.symm.subset mem) other needed
    · intro element mem
      exact isArranged.acyclic (perm.symm.nodup nodup) element (perm.symm.subset mem)
  · rintro ⟨closed, acyclic⟩
    exact exists_arranged elements.length rfl nodup closed acyclic

end ImigrAI.Arrangements
