import ImigrAI.Foundations.Fallible
import ImigrAI.Foundations.Upserts

/-!
# Scripts of upserts

A script fills the tables of a database row by row, and what it does next depends on the ids it
has been given so far. A script that has completed changes nothing when it is run again.
-/

namespace ImigrAI.Upserts

open Fallible

variable {𝓢 : Schema}

inductive Script (𝓢 : Schema) (Result : Type) where
  | done (result : Result)
  | fail (error : 𝓢.Error)
  | upsert {table : 𝓢.Table} (op : Upsert 𝓢 table) (next : 𝓢.Id → Script 𝓢 Result)

namespace Script

variable {First Result : Type}

def bind : Script 𝓢 First → (First → Script 𝓢 Result) → Script 𝓢 Result
  | done result, continuation => continuation result
  | fail error, _ => fail error
  | upsert op next, continuation => upsert op fun id => (next id).bind continuation

instance : Monad (Script 𝓢) where
  pure := done
  bind := bind

def ofExcept : Except 𝓢.Error Result → Script 𝓢 Result
  | .ok result => done result
  | .error error => fail error

/-- The script that makes one upsert and returns the id of its row. -/
def upsertRow {table : 𝓢.Table} (op : Upsert 𝓢 table) : Script 𝓢 𝓢.Id := upsert op done

def run (draw : Store 𝓢 → 𝓢.Fresh) :
    Script 𝓢 Result → Store 𝓢 → Except 𝓢.Error (Store 𝓢 × Result)
  | done result, store => .ok (store, result)
  | fail error, _ => .error error
  | upsert op next, store => do
      let after ← op.perform draw store
      (next after.2).run draw after.1

/-- A way through a script: the upserts on it and the result at its end. -/
inductive Follows : Script 𝓢 Result → List (Entry 𝓢) → Result → Prop where
  | done (result : Result) : Follows (.done result) [] result
  | upsert {table : 𝓢.Table} {op : Upsert 𝓢 table} {next : 𝓢.Id → Script 𝓢 Result} {id : 𝓢.Id}
      {log : List (Entry 𝓢)} {result : Result} (rest : Follows (next id) log result) :
      Follows (.upsert op next) (⟨table, op, id⟩ :: log) result

/-- A run takes one way through the script, and the upserts on it are settled in the end. -/
theorem exists_follows_of_run {draw : Store 𝓢 → 𝓢.Fresh} {script : Script 𝓢 Result}
    {store after : Store 𝓢} {result : Result}
    (completed : script.run draw store = .ok (after, result)) {before : List (Entry 𝓢)}
    (settled : Settled before store) :
    ∃ log, Follows script log result ∧ Settled (before ++ log) after := by
  induction script generalizing store before with
  | done returned =>
      rcases Prod.mk.inj (Except.ok.inj completed) with ⟨rfl, rfl⟩
      exact ⟨[], .done _, by simpa using settled⟩
  | fail error => simp [run] at completed
  | @upsert table op next ih =>
      rcases bind_eq_ok_iff.mp completed with ⟨⟨middle, id⟩, performed, rest⟩
      rcases ih id rest (settled.step (Upsert.step_of_perform performed)) with
        ⟨log, follows, settledAfter⟩
      exact ⟨⟨table, op, id⟩ :: log, .upsert follows, by simpa using settledAfter⟩

/-- Where an upsert can be repeated, also after other updates, it finds its row and rewrites it. -/
theorem perform_replay {entry : Entry 𝓢} {store : Store 𝓢} (repeatable : entry.Repeatable store)
    (draw : Store 𝓢 → 𝓢.Fresh) (log : List (Entry 𝓢)) :
    entry.op.perform draw (replay log store) =
      .ok (replay (log ++ [entry]) store, entry.id) := by
  rcases repeatable with ⟨row, found, sameId, fits⟩
  have foundNow : (replay log store).find? entry.op.key = some (rewriteAll log row) := by
    rw [replay, Store.find?_map fun row => key_rewriteAll log row, found, Option.map_some]
  have replayed : (replay log store).overwrite entry.op.values entry.id =
      replay (log ++ [entry]) store := by
    rw [Store.overwrite_eq_map]
    ext1
    funext table
    simp only [replay, Store.map, List.map_map]
    apply List.map_congr_left
    intro row _
    exact (rewriteAll_append_singleton log entry row).symm
  simpa [Upsert.perform, foundNow, sameId, replayed] using fits

/-- A script that takes its way again rewrites what the way has written. -/
theorem run_of_follows {script : Script 𝓢 Result} {log : List (Entry 𝓢)} {result : Result}
    (follows : Follows script log result) {store : Store 𝓢}
    (repeatable : ∀ entry ∈ log, entry.Repeatable store) (draw : Store 𝓢 → 𝓢.Fresh)
    (before : List (Entry 𝓢)) :
    script.run draw (replay before store) = .ok (replay (before ++ log) store, result) := by
  induction follows generalizing before with
  | done result => simp [run]
  | @upsert table op next id log result _ ih =>
      have performed := perform_replay (repeatable ⟨table, op, id⟩ (by simp)) draw before
      refine bind_eq_ok_iff.mpr ⟨_, performed, ?_⟩
      have rest := ih (fun entry entryMem => repeatable entry (by simp [entryMem]))
        (before ++ [⟨table, op, id⟩])
      simpa using rest

/-- A script that has completed completes again with the same result and changes nothing. -/
theorem run_again {first second : Store 𝓢 → 𝓢.Fresh} {script : Script 𝓢 Result}
    {store after : Store 𝓢} {result : Result}
    (completed : script.run first store = .ok (after, result)) :
    script.run second after = .ok (after, result) := by
  rcases exists_follows_of_run completed (Settled.nil store) with ⟨log, follows, settled⟩
  rw [List.nil_append] at settled
  have again := run_of_follows follows settled.repeatable second []
  have unchanged : replay log after = after := by
    ext1
    funext table
    exact (List.map_congr_left (settled.fixed table)).trans (List.map_id _)
  have start : replay [] after = after := by
    ext1
    funext table
    exact List.map_id _
  rwa [start, List.nil_append, unchanged] at again

theorem run_bind (draw : Store 𝓢 → 𝓢.Fresh) (first : Script 𝓢 First)
    (next : First → Script 𝓢 Result) (store : Store 𝓢) :
    (first >>= next).run draw store =
      first.run draw store >>= fun middle => (next middle.2).run draw middle.1 := by
  induction first generalizing store with
  | done result => rfl
  | fail error => rfl
  | upsert op rest ih =>
      change (op.perform draw store >>= fun after => (rest after.2 >>= next).run draw after.1) = _
      simp only [ih]
      cases performed : op.perform draw store <;> simp [run, performed]

/-- What every upsert preserves, a script preserves. -/
theorem preserves {draw : Store 𝓢 → 𝓢.Fresh} {kept : Store 𝓢 → Prop}
    (step : ∀ {table : 𝓢.Table} {op : Upsert 𝓢 table} {store after : Store 𝓢} {id : 𝓢.Id},
      op.Step store after id → kept store → kept after)
    {script : Script 𝓢 Result} {store after : Store 𝓢} {result : Result}
    (completed : script.run draw store = .ok (after, result)) (holds : kept store) :
    kept after := by
  induction script generalizing store with
  | done returned =>
      rcases Prod.mk.inj (Except.ok.inj completed) with ⟨rfl, rfl⟩
      exact holds
  | fail error => simp [run] at completed
  | upsert op next ih =>
      rcases bind_eq_ok_iff.mp completed with ⟨⟨middle, id⟩, performed, rest⟩
      exact ih id rest (step (Upsert.step_of_perform performed) holds)

end Script

/-- What a script keeps throughout: an invariant of the store, and a relation along which the
store moves. -/
structure Course (𝓢 : Schema) where
  invariant : Store 𝓢 → Prop
  moves : Store 𝓢 → Store 𝓢 → Prop
  refl : ∀ store, moves store store
  trans : ∀ {store middle after}, moves store middle → moves middle after → moves store after

/-- The store grows. -/
def Course.growing (𝓢 : Schema) : Course 𝓢 where
  invariant _ := True
  moves := Grows
  refl := .refl
  trans := .trans

namespace Script

variable {First Result : Type}

theorem grows_of_run {draw : Store 𝓢 → 𝓢.Fresh} {store after : Store 𝓢}
    {script : Script 𝓢 Result} {result : Result}
    (completed : script.run draw store = .ok (after, result)) : Grows store after :=
  preserves (fun step grows => grows.trans step.grows) completed (.refl store)

section Keeps

variable {draw : Store 𝓢 → 𝓢.Fresh} {store : Store 𝓢} {course : Course 𝓢}

/-- If the script completes, it has kept its course and reached a condition. -/
def Keeps (course : Course 𝓢) (draw : Store 𝓢 → 𝓢.Fresh) (script : Script 𝓢 Result)
    (store : Store 𝓢) (reached : Result → Store 𝓢 → Prop) : Prop :=
  ∀ after result, script.run draw store = .ok (after, result) →
    course.invariant after ∧ course.moves store after ∧ reached result after

theorem keeps_pure {reached : Result → Store 𝓢 → Prop} {result : Result}
    (invariant : course.invariant store) (holds : reached result store) :
    Keeps course draw (pure result) store reached := by
  intro after returned completed
  rcases Prod.mk.inj (Except.ok.inj completed) with ⟨rfl, rfl⟩
  exact ⟨invariant, course.refl _, holds⟩

theorem keeps_bind {first : Script 𝓢 First} {next : First → Script 𝓢 Result}
    {between : First → Store 𝓢 → Prop} {reached : Result → Store 𝓢 → Prop}
    (start : Keeps course draw first store between)
    (rest : ∀ middle result, course.invariant middle → between result middle →
      Keeps course draw (next result) middle reached) :
    Keeps course draw (first >>= next) store reached := by
  intro after result completed
  rw [run_bind] at completed
  rcases bind_eq_ok_iff.mp completed with ⟨⟨middle, returned⟩, ran, continued⟩
  rcases start middle returned ran with ⟨invariant, moved, arrived⟩
  rcases rest middle returned invariant arrived after result continued with
    ⟨invariantAfter, movedOn, holds⟩
  exact ⟨invariantAfter, course.trans moved movedOn, holds⟩

theorem Keeps.weaken {script : Script 𝓢 Result} {reached : Result → Store 𝓢 → Prop}
    (keeps : Keeps course draw script store reached) :
    Keeps course draw script store fun _ _ => True :=
  fun after result completed =>
    ⟨(keeps after result completed).1, (keeps after result completed).2.1, trivial⟩

/-- A script whose result is not used. -/
theorem keeps_discard {script : Script 𝓢 First} {reached : First → Store 𝓢 → Prop}
    (keeps : Keeps course draw script store reached) :
    Keeps course draw (do let _ ← script) store fun _ after => ∃ result, reached result after :=
  keeps_bind keeps fun _ result invariant holds => keeps_pure invariant ⟨result, holds⟩

theorem keeps_upsertRow {table : 𝓢.Table} {op : Upsert 𝓢 table}
    {reached : 𝓢.Id → Store 𝓢 → Prop}
    (step : ∀ after id, op.Step store after id →
      course.invariant after ∧ course.moves store after ∧ reached id after) :
    Keeps course draw (upsertRow op) store reached := by
  intro after id completed
  rcases bind_eq_ok_iff.mp completed with ⟨⟨middle, created⟩, performed, rest⟩
  rcases Prod.mk.inj (Except.ok.inj rest) with ⟨rfl, rfl⟩
  exact step _ _ (Upsert.step_of_perform performed)

theorem keeps_ofExcept {computation : Except 𝓢.Error Result}
    (invariant : course.invariant store) :
    Keeps course draw (ofExcept computation) store fun result _ => computation = .ok result := by
  intro after result completed
  cases computation with
  | error error => exact absurd completed (by simp [ofExcept, run])
  | ok computed =>
      rcases Prod.mk.inj (Except.ok.inj completed) with ⟨rfl, rfl⟩
      exact ⟨invariant, course.refl _, rfl⟩

theorem keeps_growing {table : 𝓢.Table} (op : Upsert 𝓢 table) :
    Keeps (.growing 𝓢) draw (upsertRow op) store fun id after => after.lookup op.key = some id := by
  apply keeps_upsertRow
  intro after id step
  exact ⟨trivial, step.grows, step.lookup_self⟩

theorem Keeps.mono {script : Script 𝓢 Result} {weak strong : Result → Store 𝓢 → Prop}
    (keeps : Keeps course draw script store strong)
    (weaker : ∀ result after, course.moves store after → strong result after →
      weak result after) :
    Keeps course draw script store weak := by
  intro after result completed
  rcases keeps after result completed with ⟨invariant, moved, holds⟩
  exact ⟨invariant, moved, weaker result after moved holds⟩

/-- What a loop has reached for an element lasts through the rest of it, if it survives every
move along the course. -/
theorem keeps_forM {Element : Type} {body : Element → Script 𝓢 Unit} {elements : List Element}
    {reached : Element → Store 𝓢 → Prop} (invariant : course.invariant store)
    (lasting : ∀ element ∈ elements, ∀ store after, reached element store →
      course.moves store after → reached element after)
    (pass : ∀ element ∈ elements, ∀ store, course.invariant store →
      Keeps course draw (body element) store fun _ => reached element) :
    Keeps course draw (elements.forM body) store fun _ after =>
      ∀ element ∈ elements, reached element after := by
  induction elements generalizing store with
  | nil => exact keeps_pure invariant (by simp)
  | cons first rest ih =>
      change Keeps course draw (body first >>= fun _ => rest.forM body) store _
      refine keeps_bind (pass first (by simp) store invariant) fun middle _ invariantNow done => ?_
      have restPasses := ih invariantNow
        (fun element elementMem => lasting element (by simp [elementMem]))
        fun element elementMem => pass element (by simp [elementMem])
      intro after _ completed
      rcases restPasses after () completed with ⟨invariantAfter, moved, restReached⟩
      refine ⟨invariantAfter, moved, fun element elementMem => ?_⟩
      rcases List.mem_cons.mp elementMem with rfl | elementMem
      · exact lasting _ (by simp) middle after done moved
      · exact restReached element elementMem

/-- A loop all of whose passes keep the course keeps it. -/
theorem keeps_loop {Element : Type} {body : Element → Script 𝓢 Unit} {elements : List Element}
    (invariant : course.invariant store)
    (pass : ∀ element ∈ elements, ∀ store, course.invariant store →
      Keeps course draw (body element) store fun _ _ => True) :
    Keeps course draw (elements.forM body) store fun _ _ => True := by
  have loop : Keeps course draw (elements.forM body) store
      fun _ _ => ∀ element ∈ elements, True :=
    keeps_forM invariant (fun _ _ _ _ _ _ => trivial) pass
  exact loop.mono fun _ _ _ _ => trivial

end Keeps

end Script

end ImigrAI.Upserts
