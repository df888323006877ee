import ImigrAI.Foundations.Fallible
import ImigrAI.Foundations.Rows
import ImigrAI.Foundations.Runs
import ImigrAI.Foundations.Sorting

/-!
# Statements checked one by one

The changes of a transaction are sent as single statements, and a constraint that is not
deferred is checked after every one of them. So it matters for the outcome in which order
they are sent, though not for the state that they lead to.
-/

namespace ImigrAI.Statements

open Fallible Rows Runs Sorting

universe u v w

variable {State : Type u} {Statement : Type v} {Error : Type w}

/-- The first statement that breaks the constraint raises. -/
def sendAll {valid : State → Prop} [DecidablePred valid] (apply : State → Statement → State)
    (error : Error) (state : {state : State // valid state}) :
    List Statement → Except Error {state : State // valid state}
  | [] => .ok state
  | statement :: rest => do
      let next ← ensure valid error (apply state.val statement)
      sendAll apply error next rest

/-- All statements pass exactly if the constraint holds after every part of them that is sent
first. -/
theorem sendAll_eq_ok_iff {valid : State → Prop} [DecidablePred valid]
    {apply : State → Statement → State} {error : Error}
    {state final : {state : State // valid state}} {statements : List Statement} :
    sendAll apply error state statements = .ok final ↔
      (∀ sent, sent <+: statements → valid (run apply state.val sent)) ∧
        final.val = run apply state.val statements := by
  induction statements generalizing state with
  | nil =>
      constructor
      · intro done
        cases done
        refine ⟨?_, rfl⟩
        intro sent part
        rw [List.prefix_nil.mp part]
        exact final.property
      · rintro ⟨-, same⟩
        exact congrArg Except.ok (Subtype.ext same.symm)
  | cons statement rest ih =>
      constructor
      · intro done
        rcases bind_eq_ok_iff.mp done with ⟨next, passed, done⟩
        rcases ih.mp done with ⟨holds, same⟩
        rw [ensure_eq_ok_iff.mp passed] at holds same
        refine ⟨?_, same⟩
        intro sent part
        rcases List.prefix_cons_iff.mp part with rfl | ⟨sentRest, rfl, partRest⟩
        · exact state.property
        · exact holds sentRest partRest
      · rintro ⟨holds, same⟩
        have passed : valid (apply state.val statement) := holds [statement] ⟨rest, rfl⟩
        refine bind_eq_ok_iff.mpr ⟨⟨_, passed⟩, ensure_of_met passed, ih.mpr ⟨?_, same⟩⟩
        intro sent part
        exact holds (statement :: sent) (List.cons_prefix_cons.mpr ⟨rfl, part⟩)

/-- What a statement raises is that it breaks the constraint. -/
theorem eq_of_sendAll_eq_error {valid : State → Prop} [DecidablePred valid]
    {apply : State → Statement → State} {error raised : Error}
    {state : {state : State // valid state}} {statements : List Statement}
    (raises : sendAll apply error state statements = .error raised) : raised = error := by
  induction statements generalizing state with
  | nil => cases raises
  | cons statement rest ih =>
      rw [sendAll, ensure] at raises
      split_ifs at raises with met
      · exact ih raises
      · exact (Except.error.inj raises).symm

section Updates

variable {Row : Type u} {Key : Type v}

/-- What comes before an element of a sorted list is sent when the element is. -/
theorem mem_prefix_of_lt [LinearOrder Key] {key : Row → Key} {rows sent : List Row}
    {earlier later : Row} (part : sent <+: sortBy key rows) (laterSent : later ∈ sent)
    (mem : earlier ∈ rows) (before : key earlier < key later) : earlier ∈ sent := by
  rcases part with ⟨rest, split⟩
  have sorted : (sortBy key rows).Pairwise fun left right => key left ≤ key right :=
    List.pairwise_insertionSort _ rows
  have sortedMem : earlier ∈ sortBy key rows := mem_sortBy.mpr mem
  rw [← split] at sorted sortedMem
  rcases List.mem_append.mp sortedMem with sentMem | restMem
  · exact sentMem
  · have after := (List.pairwise_append.mp sorted).2.2 later laterSent earlier restMem
    exact absurd before (not_lt.mpr after)

/-- Up to an element of a sorted list, nothing that comes after it is sent. -/
theorem exists_prefix_upTo [LinearOrder Key] (key : Row → Key) {rows : List Row} {last : Row}
    (mem : last ∈ rows) :
    ∃ sent, sent <+: sortBy key rows ∧ last ∈ sent ∧ ∀ row ∈ sent, key row ≤ key last := by
  have sorted : (sortBy key rows).Pairwise fun left right => key left ≤ key right :=
    List.pairwise_insertionSort _ rows
  rcases List.append_of_mem (mem_sortBy.mpr mem : last ∈ sortBy key rows) with ⟨front, rest, split⟩
  rw [split] at sorted ⊢
  refine ⟨front ++ [last], ⟨rest, by simp⟩, by simp, ?_⟩
  intro row rowMem
  rcases List.mem_append.mp rowMem with frontMem | isLast
  · exact (List.pairwise_append.mp sorted).2.2 row frontMem last List.mem_cons_self
  · rw [List.mem_singleton.mp isLast]

variable [DecidableEq Key] {key : Row → Key}

/-- What every update shares with the rows in whose places it stands is kept. -/
theorem map_run_replaceRow {Column : Type*} {column : Row → Column} {rows updates : List Row}
    (same : ∀ update ∈ updates, ∀ old ∈ rows, key old = key update → column old = column update) :
    (run (fun rows row => replaceRow key row rows) rows updates).map column =
      rows.map column := by
  induction updates generalizing rows with
  | nil => rfl
  | cons update rest ih =>
      have first := same update List.mem_cons_self
      rw [run_cons, ih, map_replaceRow first]
      intro later laterMem old oldMem sameKey
      have sameLater := same later (List.mem_cons_of_mem _ laterMem)
      rcases List.mem_map.mp oldMem with ⟨before, beforeMem, rfl⟩
      split_ifs at sameKey ⊢ with replaced
      · rw [← first before beforeMem replaced]
        exact sameLater before beforeMem (replaced.trans sameKey)
      · exact sameLater before beforeMem sameKey

/-- After updates of different rows, the updated rows stand there and the others as before. -/
theorem mem_run_replaceRow {rows updates : List Row} {row : Row}
    (distinct : (updates.map key).Nodup)
    (stored : ∀ update ∈ updates, key update ∈ rows.map key) :
    row ∈ run (fun rows row => replaceRow key row rows) rows updates ↔
      row ∈ updates ∨ row ∈ rows ∧ key row ∉ updates.map key := by
  induction updates generalizing rows with
  | nil => simp
  | cons update rest ih =>
      rw [List.map_cons, List.nodup_cons] at distinct
      rcases distinct with ⟨fresh, distinct⟩
      rw [run_cons, ih distinct, mem_replaceRow_iff]
      · simp only [List.mem_cons, List.map_cons, not_or]
        constructor
        · rintro (inRest | ⟨rfl | ⟨mem, other⟩, unchanged⟩)
          · exact Or.inl (Or.inr inRest)
          · exact Or.inl (Or.inl rfl)
          · exact Or.inr ⟨mem, other, unchanged⟩
        · rintro ((rfl | inRest) | ⟨mem, other, unchanged⟩)
          · exact Or.inr ⟨Or.inl rfl, fresh⟩
          · exact Or.inl inRest
          · exact Or.inr ⟨Or.inr ⟨mem, other⟩, unchanged⟩
      · exact List.mem_map.mp (stored update List.mem_cons_self)
      · intro other otherMem
        rw [map_replaceRow fun _ _ same => same]
        exact stored other (List.mem_cons_of_mem _ otherMem)

end Updates

/-- Lists with the same distinct keys in the same order and the same members are equal. -/
theorem eq_of_map_key_eq {Row : Type u} {Key : Type v} {key : Row → Key} {left right : List Row}
    (keys : left.map key = right.map key) (distinct : (right.map key).Nodup)
    (sub : ∀ row ∈ left, row ∈ right) : left = right := by
  have length : left.length = right.length := by
    rw [← List.length_map (f := key), keys, List.length_map]
  apply List.ext_getElem length
  intro place leftPlace rightPlace
  apply List.inj_on_of_nodup_map distinct (sub _ (List.getElem_mem leftPlace))
    (List.getElem_mem rightPlace)
  have atPlace := List.getElem_of_eq keys (by simpa using leftPlace)
  rwa [List.getElem_map, List.getElem_map] at atPlace

end ImigrAI.Statements
