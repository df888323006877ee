import ImigrAI.Foundations.Rows
import Mathlib.Logic.Function.Basic

/-!
# Upserts

An upsert looks a row up by its key, creates it if it is missing, and may overwrite some of its
columns if it is there. After a sequence of upserts, each of them finds its row again, and making
all of them again in the same order changes nothing.
-/

namespace ImigrAI.Upserts

/-- Tables whose rows have an id and a key, and the columns that an update overwrites. -/
structure Schema where
  Table : Type
  Row : Table → Type
  Key : Table → Type
  Values : Table → Type
  Id : Type
  /-- What is drawn for a new row. -/
  Fresh : Type
  Error : Type
  id : {table : Table} → Row table → Id
  key : {table : Table} → Row table → Key table
  write : {table : Table} → Values table → Row table → Row table
  /-- A row meets its constraints, where these are the ids of each table. -/
  Fits : ((table : Table) → List Id) → {table : Table} → Row table → Prop
  violation : Error
  decTable : DecidableEq Table
  decId : DecidableEq Id
  decKey : (table : Table) → DecidableEq (Key table)
  decFits : (ids : (table : Table) → List Id) → {table : Table} → (row : Row table) →
    Decidable (Fits ids row)
  id_write : ∀ {table : Table} (values : Values table) (row : Row table),
    id (write values row) = id row
  key_write : ∀ {table : Table} (values : Values table) (row : Row table),
    key (write values row) = key row
  write_write : ∀ {table : Table} (later earlier : Values table) (row : Row table),
    write later (write earlier row) = write later row
  fits_mono : ∀ {ids more : (table : Table) → List Id}, (∀ table, ids table ⊆ more table) →
    ∀ {table : Table} {row : Row table}, Fits ids row → Fits more row

variable {𝓢 : Schema}

instance : DecidableEq 𝓢.Table := 𝓢.decTable

instance : DecidableEq 𝓢.Id := 𝓢.decId

instance (table : 𝓢.Table) : DecidableEq (𝓢.Key table) := 𝓢.decKey table

instance (ids : (table : 𝓢.Table) → List 𝓢.Id) {table : 𝓢.Table} (row : 𝓢.Row table) :
    Decidable (𝓢.Fits ids row) :=
  𝓢.decFits ids row

attribute [simp] Schema.id_write Schema.key_write Schema.write_write

variable (𝓢) in
@[ext]
structure Store where
  rows : (table : 𝓢.Table) → List (𝓢.Row table)

namespace Store

def ids (store : Store 𝓢) (table : 𝓢.Table) : List 𝓢.Id := (store.rows table).map 𝓢.id

def find? (store : Store 𝓢) {table : 𝓢.Table} (key : 𝓢.Key table) : Option (𝓢.Row table) :=
  (store.rows table).find? fun row => 𝓢.key row = key

/-- The id of the row with a key. -/
def lookup (store : Store 𝓢) {table : 𝓢.Table} (key : 𝓢.Key table) : Option 𝓢.Id :=
  (store.find? key).map 𝓢.id

def insert (store : Store 𝓢) {table : 𝓢.Table} (row : 𝓢.Row table) : Store 𝓢 where
  rows := Function.update store.rows table (store.rows table ++ [row])

/-- The store with every row changed. -/
def map (change : {table : 𝓢.Table} → 𝓢.Row table → 𝓢.Row table) (store : Store 𝓢) : Store 𝓢 where
  rows table := (store.rows table).map change

end Store

/-- Find the row with a key or create it; if it was there, overwrite the values that are given.
A created row has these values already. -/
structure Upsert (𝓢 : Schema) (table : 𝓢.Table) where
  key : 𝓢.Key table
  create : 𝓢.Fresh → 𝓢.Row table
  values : Option (𝓢.Values table)
  key_create : ∀ fresh, 𝓢.key (create fresh) = key
  write_create : ∀ fresh, ∀ written ∈ values, 𝓢.write written (create fresh) = create fresh

section Perform

variable {table : 𝓢.Table}

/-- The row after an update of the row with an id. -/
def overwriteRow (values : Option (𝓢.Values table)) (target : 𝓢.Id) (row : 𝓢.Row table) :
    𝓢.Row table :=
  match values with
  | some written => if 𝓢.id row = target then 𝓢.write written row else row
  | none => row

def Store.overwrite (store : Store 𝓢) (values : Option (𝓢.Values table)) (target : 𝓢.Id) :
    Store 𝓢 where
  rows := Function.update store.rows table ((store.rows table).map (overwriteRow values target))

/-- The store after an upsert with the id of the row. What is drawn for a new row may depend on
anything stored so far. -/
def Upsert.perform (draw : Store 𝓢 → 𝓢.Fresh) (store : Store 𝓢) (op : Upsert 𝓢 table) :
    Except 𝓢.Error (Store 𝓢 × 𝓢.Id) :=
  match store.find? op.key with
  | some row =>
      if ∀ written ∈ op.values, 𝓢.Fits store.ids (𝓢.write written row) then
        .ok (store.overwrite op.values (𝓢.id row), 𝓢.id row)
      else .error 𝓢.violation
  | none =>
      let row := op.create (draw store)
      if 𝓢.id row ∉ store.ids table ∧ 𝓢.Fits store.ids row then
        .ok (store.insert row, 𝓢.id row)
      else .error 𝓢.violation

/-- What a successful upsert does. -/
inductive Upsert.Step (op : Upsert 𝓢 table) (store : Store 𝓢) : Store 𝓢 → 𝓢.Id → Prop where
  | found (row : 𝓢.Row table) (found : store.find? op.key = some row)
      (fits : ∀ written ∈ op.values, 𝓢.Fits store.ids (𝓢.write written row)) :
      op.Step store (store.overwrite op.values (𝓢.id row)) (𝓢.id row)
  | created (fresh : 𝓢.Fresh) (missing : store.find? op.key = none)
      (new : 𝓢.id (op.create fresh) ∉ store.ids table)
      (fits : 𝓢.Fits store.ids (op.create fresh)) :
      op.Step store (store.insert (op.create fresh)) (𝓢.id (op.create fresh))

theorem Upsert.step_of_perform {draw : Store 𝓢 → 𝓢.Fresh} {store after : Store 𝓢}
    {op : Upsert 𝓢 table} {id : 𝓢.Id} (performed : op.perform draw store = .ok (after, id)) :
    op.Step store after id := by
  unfold Upsert.perform at performed
  split at performed
  · rename_i row found
    split_ifs at performed with fits
    rcases Prod.mk.inj (Except.ok.inj performed) with ⟨rfl, rfl⟩
    exact .found row found fits
  · rename_i missing
    simp only at performed
    split_ifs at performed with accepted
    rcases Prod.mk.inj (Except.ok.inj performed) with ⟨rfl, rfl⟩
    exact .created (draw store) missing accepted.1 accepted.2

end Perform

/-- An upsert that was performed, with the id it returned. -/
structure Entry (𝓢 : Schema) where
  table : 𝓢.Table
  op : Upsert 𝓢 table
  id : 𝓢.Id

namespace Entry

variable {table : 𝓢.Table}

/-- What the update of an entry writes to the row with an id. -/
def written (entry : Entry 𝓢) (table : 𝓢.Table) (id : 𝓢.Id) : Option (𝓢.Values table) :=
  if same : entry.table = table then
    if entry.id = id then same ▸ entry.op.values else none
  else none

/-- A row of any table after the update of an entry. -/
def rewrite (entry : Entry 𝓢) (row : 𝓢.Row table) : 𝓢.Row table :=
  match entry.written table (𝓢.id row) with
  | some values => 𝓢.write values row
  | none => row

@[simp]
theorem id_rewrite (entry : Entry 𝓢) (row : 𝓢.Row table) :
    𝓢.id (entry.rewrite row) = 𝓢.id row := by
  unfold rewrite
  split <;> simp

@[simp]
theorem key_rewrite (entry : Entry 𝓢) (row : 𝓢.Row table) :
    𝓢.key (entry.rewrite row) = 𝓢.key row := by
  unfold rewrite
  split <;> simp

@[simp]
theorem write_rewrite (values : 𝓢.Values table) (entry : Entry 𝓢) (row : 𝓢.Row table) :
    𝓢.write values (entry.rewrite row) = 𝓢.write values row := by
  unfold rewrite
  split <;> simp

@[simp]
theorem rewrite_rewrite (entry : Entry 𝓢) (row : 𝓢.Row table) :
    entry.rewrite (entry.rewrite row) = entry.rewrite row := by
  rw [rewrite, id_rewrite]
  split
  · rename_i values written
    rw [write_rewrite, rewrite, written]
  · rfl

/-- An update hides an earlier one of the same row, also when others came between. -/
theorem rewrite_absorbs (entry other : Entry 𝓢) (row : 𝓢.Row table) :
    entry.rewrite (other.rewrite (entry.rewrite row)) = entry.rewrite (other.rewrite row) := by
  rw [rewrite, rewrite.eq_def entry (other.rewrite row)]
  simp only [id_rewrite]
  split
  · simp
  · rename_i nothing
    rw [rewrite.eq_def entry row, nothing]

theorem rewrite_of_ne_table {entry : Entry 𝓢} (different : entry.table ≠ table)
    (row : 𝓢.Row table) : entry.rewrite row = row := by
  simp [rewrite, written, different]

theorem rewrite_of_ne_id {entry : Entry 𝓢} {row : 𝓢.Row table}
    (different : entry.table = table → entry.id ≠ 𝓢.id row) : entry.rewrite row = row := by
  by_cases same : entry.table = table
  · simp [rewrite, written, different same]
  · exact rewrite_of_ne_table same row

theorem overwriteRow_eq_rewrite (op : Upsert 𝓢 table) (id : 𝓢.Id) (row : 𝓢.Row table) :
    overwriteRow op.values id row = (Entry.mk table op id).rewrite row := by
  unfold overwriteRow rewrite written
  by_cases same : id = 𝓢.id row
  · simp [same]
  · simp [same, Ne.symm same]
    split <;> rfl

@[simp]
theorem key_overwriteRow (op : Upsert 𝓢 table) (id : 𝓢.Id) (row : 𝓢.Row table) :
    𝓢.key (overwriteRow op.values id row) = 𝓢.key row := by
  rw [overwriteRow_eq_rewrite, key_rewrite]

end Entry

/-- A row after the updates of a log. -/
def rewriteAll (log : List (Entry 𝓢)) {table : 𝓢.Table} (row : 𝓢.Row table) : 𝓢.Row table :=
  log.foldl (fun row entry => entry.rewrite row) row

/-- A store after the updates of a log. -/
def replay (log : List (Entry 𝓢)) (store : Store 𝓢) : Store 𝓢 :=
  store.map (rewriteAll log)

section RewriteAll

variable {table : 𝓢.Table} (log : List (Entry 𝓢)) (entry : Entry 𝓢) (row : 𝓢.Row table)

theorem rewriteAll_cons : rewriteAll (entry :: log) row = rewriteAll log (entry.rewrite row) :=
  rfl

theorem rewriteAll_append_singleton :
    rewriteAll (log ++ [entry]) row = entry.rewrite (rewriteAll log row) := by
  simp [rewriteAll]

@[simp]
theorem id_rewriteAll : 𝓢.id (rewriteAll log row) = 𝓢.id row := by
  induction log generalizing row with
  | nil => rfl
  | cons entry log ih => rw [rewriteAll_cons, ih, Entry.id_rewrite]

@[simp]
theorem key_rewriteAll : 𝓢.key (rewriteAll log row) = 𝓢.key row := by
  induction log generalizing row with
  | nil => rfl
  | cons entry log ih => rw [rewriteAll_cons, ih, Entry.key_rewrite]

@[simp]
theorem write_rewriteAll (values : 𝓢.Values table) :
    𝓢.write values (rewriteAll log row) = 𝓢.write values row := by
  induction log generalizing row with
  | nil => rfl
  | cons entry log ih => rw [rewriteAll_cons, ih, Entry.write_rewrite]

/-- An update that comes last does not depend on whether it has been made before. -/
theorem rewrite_rewriteAll_rewrite :
    entry.rewrite (rewriteAll log (entry.rewrite row)) = entry.rewrite (rewriteAll log row) := by
  have same (left right : 𝓢.Row table) (agree : entry.rewrite left = entry.rewrite right) :
      entry.rewrite (rewriteAll log left) = entry.rewrite (rewriteAll log right) := by
    induction log generalizing left right with
    | nil => exact agree
    | cons other log ih =>
        apply ih
        calc entry.rewrite (other.rewrite left)
            = entry.rewrite (other.rewrite (entry.rewrite left)) :=
              (entry.rewrite_absorbs other left).symm
          _ = entry.rewrite (other.rewrite (entry.rewrite right)) := by rw [agree]
          _ = entry.rewrite (other.rewrite right) := entry.rewrite_absorbs other right
  exact same _ _ (entry.rewrite_rewrite row)

theorem rewriteAll_of_forall_ne
    (different : ∀ entry ∈ log, entry.table = table → entry.id ≠ 𝓢.id row) :
    rewriteAll log row = row := by
  induction log with
  | nil => rfl
  | cons entry log ih =>
      rw [rewriteAll_cons, Entry.rewrite_of_ne_id (different entry (by simp))]
      exact ih fun other otherMem => different other (by simp [otherMem])

end RewriteAll

namespace Store

variable {store : Store 𝓢} {table : 𝓢.Table} {key : 𝓢.Key table} {id : 𝓢.Id}

theorem lookup_eq_some_iff :
    store.lookup key = some id ↔ ∃ row, store.find? key = some row ∧ 𝓢.id row = id :=
  Option.map_eq_some_iff

theorem find?_mem {row : 𝓢.Row table} (found : store.find? key = some row) :
    row ∈ store.rows table ∧ 𝓢.key row = key :=
  ⟨List.mem_of_find?_eq_some found, by simpa using List.find?_some found⟩

/-- A key that leads to an id has a row with it. -/
theorem exists_row_of_lookup (found : store.lookup key = some id) :
    ∃ row ∈ store.rows table, 𝓢.id row = id ∧ 𝓢.key row = key := by
  rcases lookup_eq_some_iff.mp found with ⟨row, foundRow, sameId⟩
  exact ⟨row, (find?_mem foundRow).1, sameId, (find?_mem foundRow).2⟩

/-- A change of the rows that keeps their keys keeps which row is found. -/
theorem find?_map {change : {table : 𝓢.Table} → 𝓢.Row table → 𝓢.Row table}
    (keyKept : ∀ row : 𝓢.Row table, 𝓢.key (change row) = 𝓢.key row) :
    (store.map change).find? key = (store.find? key).map change := by
  simp only [find?, Store.map, List.find?_map]
  congr 2
  funext row
  simp [keyKept]

theorem overwrite_eq_map (op : Upsert 𝓢 table) :
    store.overwrite op.values id = store.map (Entry.mk table op id).rewrite := by
  ext1
  funext other
  by_cases same : other = table
  · subst same
    simp only [overwrite, Store.map, Function.update_self]
    exact List.map_congr_left fun row _ => Entry.overwriteRow_eq_rewrite op id row
  · simp only [overwrite, Store.map, Function.update_of_ne same]
    refine (List.map_id _).symm.trans (List.map_congr_left fun row _ => ?_)
    exact (Entry.rewrite_of_ne_table (Ne.symm same) row).symm

/-- A change of the rows that keeps their ids keeps the ids of the store. -/
theorem ids_map {change : {table : 𝓢.Table} → 𝓢.Row table → 𝓢.Row table}
    (idKept : ∀ {table : 𝓢.Table} (row : 𝓢.Row table), 𝓢.id (change row) = 𝓢.id row) :
    (store.map change).ids = store.ids := by
  funext other
  simp [ids, Store.map, idKept]

theorem ids_overwrite (op : Upsert 𝓢 table) :
    (store.overwrite op.values id).ids = store.ids := by
  rw [overwrite_eq_map]
  exact ids_map (Entry.id_rewrite _)

@[simp]
theorem ids_replay (log : List (Entry 𝓢)) : (replay log store).ids = store.ids :=
  ids_map (id_rewriteAll log)

theorem mem_insert_iff {row : 𝓢.Row table} {other : 𝓢.Table} {stored : 𝓢.Row other} :
    stored ∈ (store.insert row).rows other ↔
      stored ∈ store.rows other ∨ ∃ same : table = other, same ▸ row = stored := by
  by_cases same : table = other
  · subst same
    simp [insert, eq_comm]
  · simp [insert, Function.update_of_ne (Ne.symm same), same]

theorem ids_subset_insert (row : 𝓢.Row table) (other : 𝓢.Table) :
    store.ids other ⊆ (store.insert row).ids other := by
  intro id idMem
  rcases List.mem_map.mp idMem with ⟨stored, storedMem, rfl⟩
  exact List.mem_map_of_mem (mem_insert_iff.mpr (Or.inl storedMem))

theorem find?_insert_of_some {other : 𝓢.Table} {sought : 𝓢.Key other} {stored : 𝓢.Row other}
    (found : store.find? sought = some stored) (row : 𝓢.Row table) :
    (store.insert row).find? sought = some stored := by
  by_cases same : other = table
  · subst same
    simp only [find?] at found
    simp [find?, insert, found]
  · simpa [find?, insert, Function.update_of_ne same] using found

theorem find?_insert_self {row : 𝓢.Row table} (missing : store.find? (𝓢.key row) = none) :
    (store.insert row).find? (𝓢.key row) = some row := by
  simp only [find?] at missing
  simp only [find?, insert, Function.update_self, List.find?_append, missing]
  simp

end Store

/-- What lasts from one store to a later one: which row a key leads to, and the rows with their ids
and keys. -/
structure Grows (store after : Store 𝓢) : Prop where
  lookup : ∀ {table : 𝓢.Table} {key : 𝓢.Key table} {id : 𝓢.Id},
    store.lookup key = some id → after.lookup key = some id
  row : ∀ (table : 𝓢.Table), ∀ row ∈ store.rows table,
    ∃ later ∈ after.rows table, 𝓢.id later = 𝓢.id row ∧ 𝓢.key later = 𝓢.key row

theorem Grows.refl (store : Store 𝓢) : Grows store store where
  lookup found := found
  row _ row rowMem := ⟨row, rowMem, rfl, rfl⟩

theorem Grows.trans {store middle after : Store 𝓢} (first : Grows store middle)
    (second : Grows middle after) : Grows store after where
  lookup found := second.lookup (first.lookup found)
  row table row rowMem := by
    rcases first.row table row rowMem with ⟨later, laterMem, sameId, sameKey⟩
    rcases second.row table later laterMem with ⟨last, lastMem, lastId, lastKey⟩
    exact ⟨last, lastMem, lastId.trans sameId, lastKey.trans sameKey⟩

theorem Grows.ids_subset {store after : Store 𝓢} (grows : Grows store after) (table : 𝓢.Table) :
    store.ids table ⊆ after.ids table := by
  intro id idMem
  rcases List.mem_map.mp idMem with ⟨row, rowMem, rfl⟩
  rcases grows.row table row rowMem with ⟨later, laterMem, sameId, -⟩
  exact sameId ▸ List.mem_map_of_mem laterMem

section Step

variable {store after : Store 𝓢} {table : 𝓢.Table} {op : Upsert 𝓢 table} {id : 𝓢.Id}

/-- The rows of the table after an upsert: those there were, changed at most by the update, and
the created one. -/
theorem Upsert.Step.mem_cases (step : op.Step store after id) {row : 𝓢.Row table}
    (rowMem : row ∈ after.rows table) :
    (∃ old ∈ store.rows table, row = overwriteRow op.values id old) ∨
      ∃ fresh, row = op.create fresh ∧ 𝓢.Fits store.ids row := by
  cases step with
  | found found isFound fits =>
      simp only [Store.overwrite, Function.update_self] at rowMem
      rcases List.mem_map.mp rowMem with ⟨old, oldMem, rfl⟩
      exact Or.inl ⟨old, oldMem, rfl⟩
  | created fresh missing new fits =>
      rcases Store.mem_insert_iff.mp rowMem with oldMem | ⟨_, rfl⟩
      · refine Or.inl ⟨row, oldMem, ?_⟩
        have different : 𝓢.id row ≠ 𝓢.id (op.create fresh) := by
          intro same
          exact new (same ▸ List.mem_map_of_mem oldMem)
        unfold overwriteRow
        split
        · rw [if_neg different]
        · rfl
      · exact Or.inr ⟨fresh, rfl, fits⟩

theorem Upsert.Step.rows_of_ne (step : op.Step store after id) {other : 𝓢.Table}
    (different : other ≠ table) : after.rows other = store.rows other := by
  cases step with
  | found row found fits => simp [Store.overwrite, Function.update_of_ne different]
  | created fresh missing new fits => simp [Store.insert, Function.update_of_ne different]

/-- The key of a row was already stored, or the row refers to rows that were. -/
theorem Upsert.Step.key_stored_or_fits (step : op.Step store after id) {other : 𝓢.Table}
    {row : 𝓢.Row other} (rowMem : row ∈ after.rows other) :
    (∃ old ∈ store.rows other, 𝓢.key row = 𝓢.key old) ∨ 𝓢.Fits store.ids row := by
  by_cases same : table = other
  · subst same
    rcases step.mem_cases rowMem with ⟨old, oldMem, rfl⟩ | ⟨fresh, rfl, fits⟩
    · exact Or.inl ⟨old, oldMem, Entry.key_overwriteRow op id old⟩
    · exact Or.inr fits
  · rw [step.rows_of_ne (Ne.symm same)] at rowMem
    exact Or.inl ⟨row, rowMem, rfl⟩

/-- An upsert keeps the keys of every table, and at most adds its own. -/
theorem Upsert.Step.keys (step : op.Step store after id) (other : 𝓢.Table) :
    (after.rows other).map 𝓢.key = (store.rows other).map 𝓢.key ∨
      ∃ key, key ∉ (store.rows other).map 𝓢.key ∧
        (after.rows other).map 𝓢.key = (store.rows other).map 𝓢.key ++ [key] := by
  by_cases isOther : other = table
  · subst isOther
    cases step with
    | found row found fits =>
        left
        simp [Store.overwrite, Function.comp_def]
    | created fresh missing new fits =>
        right
        refine ⟨op.key, ?_, ?_⟩
        · intro isKey
          rcases List.mem_map.mp isKey with ⟨row, rowMem, sameKey⟩
          have absent := List.find?_eq_none.mp missing row rowMem
          simp [sameKey] at absent
        · rw [← op.key_create fresh]
          simp [Store.insert]
  · left
    rw [step.rows_of_ne isOther]

/-- An upsert that overwrites nothing leaves a store alone in which its row is. -/
theorem Upsert.Step.eq_of_lookup (step : op.Step store after id) (onlyCreates : op.values = none)
    {stored : 𝓢.Id} (found : store.lookup op.key = some stored) :
    after = store ∧ id = stored := by
  rcases Store.lookup_eq_some_iff.mp found with ⟨row, foundRow, rfl⟩
  cases step with
  | found other otherFound fits =>
      rcases Option.some.inj (otherFound.symm.trans foundRow) with rfl
      refine ⟨?_, rfl⟩
      ext1
      rw [Store.overwrite, onlyCreates]
      exact Function.update_eq_self_iff.mpr (List.map_id _)
  | created fresh missing new fits => exact absurd (missing.symm.trans foundRow) (by simp)

theorem Upsert.Step.grows (step : op.Step store after id) : Grows store after := by
  cases step with
  | found row found fits =>
      rw [Store.overwrite_eq_map]
      refine ⟨fun {_ key _} isFound => ?_, fun other old oldMem => ?_⟩
      · rcases Store.lookup_eq_some_iff.mp isFound with ⟨stored, foundRow, rfl⟩
        refine Store.lookup_eq_some_iff.mpr ⟨_, ?_, Entry.id_rewrite ⟨table, op, 𝓢.id row⟩ stored⟩
        rw [Store.find?_map fun row => Entry.key_rewrite _ row, foundRow]
        rfl
      · exact ⟨_, List.mem_map_of_mem oldMem, Entry.id_rewrite _ old, Entry.key_rewrite _ old⟩
  | created fresh missing new fits =>
      refine ⟨fun {_ key _} isFound => ?_, fun other old oldMem => ?_⟩
      · rcases Store.lookup_eq_some_iff.mp isFound with ⟨stored, foundRow, rfl⟩
        exact Store.lookup_eq_some_iff.mpr ⟨stored, Store.find?_insert_of_some foundRow _, rfl⟩
      · exact ⟨old, Store.mem_insert_iff.mpr (Or.inl oldMem), rfl, rfl⟩

/-- After an upsert its row is found, with the values that are written and within its
constraints. -/
theorem Upsert.Step.found_after (step : op.Step store after id) :
    ∃ row, after.find? op.key = some row ∧ 𝓢.id row = id ∧
      ∀ values ∈ op.values, 𝓢.write values row = row ∧ 𝓢.Fits after.ids row := by
  cases step with
  | found row found fits =>
      refine ⟨overwriteRow op.values (𝓢.id row) row, ?_, ?_, fun values valuesMem => ?_⟩
      · rw [Store.overwrite_eq_map, Store.find?_map fun row => Entry.key_rewrite _ row, found,
          Entry.overwriteRow_eq_rewrite]
        rfl
      · rw [Entry.overwriteRow_eq_rewrite, Entry.id_rewrite]
      · have written : overwriteRow op.values (𝓢.id row) row = 𝓢.write values row := by
          rw [show op.values = some values from valuesMem]
          exact if_pos rfl
        rw [written, 𝓢.write_write, Store.ids_overwrite]
        exact ⟨rfl, fits values valuesMem⟩
  | created fresh missing new fits =>
      refine ⟨op.create fresh, ?_, rfl, fun values valuesMem => ?_⟩
      · have key := op.key_create fresh
        simp only [← key] at missing ⊢
        exact Store.find?_insert_self missing
      · exact ⟨op.write_create fresh values valuesMem,
          𝓢.fits_mono (Store.ids_subset_insert _) fits⟩

theorem Upsert.Step.lookup_self (step : op.Step store after id) :
    after.lookup op.key = some id := by
  rcases step.found_after with ⟨row, found, sameId, -⟩
  exact Store.lookup_eq_some_iff.mpr ⟨row, found, sameId⟩

/-- The ids of every table are distinct. -/
def Store.PrimaryKeys (store : Store 𝓢) : Prop := ∀ table, (store.ids table).Nodup

theorem Store.PrimaryKeys.eq_of_id_eq (unique : store.PrimaryKeys)
    {first second : 𝓢.Row table} (firstMem : first ∈ store.rows table)
    (secondMem : second ∈ store.rows table) (same : 𝓢.id first = 𝓢.id second) : first = second :=
  List.inj_on_of_nodup_map (unique table) firstMem secondMem same

theorem Upsert.Step.primaryKeys (step : op.Step store after id) (unique : store.PrimaryKeys) :
    after.PrimaryKeys := by
  intro other
  cases step with
  | found row found fits =>
      rw [Store.ids_overwrite]
      exact unique other
  | created fresh missing new fits =>
      by_cases same : other = table
      · subst same
        simp only [Store.ids, Store.insert, Function.update_self]
        exact Rows.nodup_map_append_singleton.mpr ⟨new, unique other⟩
      · simpa [Store.ids, Store.insert, Function.update_of_ne same] using unique other

/-- An upsert touches no row with another key. -/
theorem Upsert.Step.find?_of_ne_key (step : op.Step store after id) (unique : store.PrimaryKeys)
    {key : 𝓢.Key table} (different : key ≠ op.key) {row : 𝓢.Row table}
    (found : store.find? key = some row) : after.find? key = some row := by
  cases step with
  | found matched foundMatched fits =>
      have otherId : 𝓢.id matched ≠ 𝓢.id row := by
        intro sameId
        have same := unique.eq_of_id_eq (Store.find?_mem foundMatched).1
          (Store.find?_mem found).1 sameId
        rw [← (Store.find?_mem found).2, ← same, (Store.find?_mem foundMatched).2] at different
        exact different rfl
      rw [Store.overwrite_eq_map, Store.find?_map fun row => Entry.key_rewrite _ row, found,
        Option.map_some, Entry.rewrite_of_ne_id fun _ => otherId]
  | created fresh missing new fits => exact Store.find?_insert_of_some found _

end Step

/-- The entry finds its row again, and its update is accepted again. -/
def Entry.Repeatable (entry : Entry 𝓢) (store : Store 𝓢) : Prop :=
  ∃ row, store.find? entry.op.key = some row ∧ 𝓢.id row = entry.id ∧
    ∀ values ∈ entry.op.values, 𝓢.Fits store.ids (𝓢.write values row)

/-- The updates of a log have nothing left to change, and each of them can be made again. -/
structure Settled (log : List (Entry 𝓢)) (store : Store 𝓢) : Prop where
  repeatable : ∀ entry ∈ log, entry.Repeatable store
  fixed : ∀ (table : 𝓢.Table), ∀ row ∈ store.rows table, rewriteAll log row = row

theorem Settled.nil (store : Store 𝓢) : Settled [] store where
  repeatable := by simp
  fixed _ _ _ := rfl

section Settled

variable {log : List (Entry 𝓢)} {store after : Store 𝓢} {table : 𝓢.Table} {op : Upsert 𝓢 table}
  {id : 𝓢.Id}

theorem Entry.Repeatable.mem_ids {entry : Entry 𝓢} (repeatable : entry.Repeatable store) :
    entry.id ∈ store.ids entry.table := by
  rcases repeatable with ⟨row, found, sameId, -⟩
  rw [← sameId]
  exact List.mem_map_of_mem (Store.find?_mem found).1

theorem Entry.Repeatable.rewrite {entry other : Entry 𝓢} (repeatable : entry.Repeatable store) :
    entry.Repeatable (store.map other.rewrite) := by
  rcases repeatable with ⟨row, found, sameId, fits⟩
  refine ⟨other.rewrite row, ?_, by simpa using sameId, ?_⟩
  · rw [Store.find?_map fun row => other.key_rewrite row, found, Option.map_some]
  · intro values valuesMem
    rw [Store.ids_map other.id_rewrite, other.write_rewrite]
    exact fits values valuesMem

theorem Entry.Repeatable.insert {entry : Entry 𝓢} (repeatable : entry.Repeatable store)
    (row : 𝓢.Row table) : entry.Repeatable (store.insert row) := by
  rcases repeatable with ⟨stored, found, sameId, fits⟩
  refine ⟨stored, Store.find?_insert_of_some found row, sameId, fun values valuesMem => ?_⟩
  exact 𝓢.fits_mono (Store.ids_subset_insert row) (fits values valuesMem)

theorem Entry.Repeatable.step {entry : Entry 𝓢} (repeatable : entry.Repeatable store)
    (step : op.Step store after id) : entry.Repeatable after := by
  cases step with
  | found row found fits =>
      rw [Store.overwrite_eq_map]
      exact repeatable.rewrite
  | created fresh missing new fits => exact repeatable.insert _

/-- What an upsert has done, it can do again. -/
theorem Upsert.Step.repeatable (step : op.Step store after id) :
    (Entry.mk table op id).Repeatable after := by
  rcases step.found_after with ⟨row, found, sameId, settled⟩
  refine ⟨row, found, sameId, fun values valuesMem => ?_⟩
  rw [(settled values valuesMem).1]
  exact (settled values valuesMem).2

/-- The row that an upsert creates already has the values that it writes. -/
theorem Upsert.rewrite_create (op : Upsert 𝓢 table) (fresh : 𝓢.Fresh) :
    (Entry.mk table op (𝓢.id (op.create fresh))).rewrite (op.create fresh) = op.create fresh := by
  rw [← Entry.overwriteRow_eq_rewrite]
  unfold overwriteRow
  split
  · rename_i values written
    rw [if_pos rfl, op.write_create fresh values written]
  · rfl

/-- A row with a new id is not touched by what the log has updated. -/
theorem Settled.rewriteAll_of_new (settled : Settled log store) {row : 𝓢.Row table}
    (new : 𝓢.id row ∉ store.ids table) : rewriteAll log row = row := by
  apply rewriteAll_of_forall_ne
  rintro entry entryMem rfl sameId
  apply new
  rw [← sameId]
  exact (settled.repeatable entry entryMem).mem_ids

theorem Settled.step (settled : Settled log store) (step : op.Step store after id) :
    Settled (log ++ [⟨table, op, id⟩]) after where
  repeatable := by
    intro entry entryMem
    rcases List.mem_append.mp entryMem with entryMem | entryMem
    · exact (settled.repeatable entry entryMem).step step
    · rcases List.mem_singleton.mp entryMem with rfl
      exact step.repeatable
  fixed := by
    intro other row rowMem
    rw [rewriteAll_append_singleton]
    cases step with
    | found matched found fits =>
        rw [Store.overwrite_eq_map] at rowMem
        rcases List.mem_map.mp rowMem with ⟨old, oldMem, rfl⟩
        rw [rewrite_rewriteAll_rewrite, settled.fixed other old oldMem]
    | created fresh missing new fits =>
        rcases Store.mem_insert_iff.mp rowMem with oldMem | ⟨same, rfl⟩
        · rw [settled.fixed other row oldMem]
          apply Entry.rewrite_of_ne_id
          rintro rfl (sameId : 𝓢.id (op.create fresh) = 𝓢.id row)
          rw [sameId] at new
          exact absurd (List.mem_map_of_mem oldMem) new
        · subst same
          rw [settled.rewriteAll_of_new new]
          exact op.rewrite_create fresh

end Settled

end ImigrAI.Upserts
