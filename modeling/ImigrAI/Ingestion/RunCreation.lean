import ImigrAI.Foundations.Sessions
import ImigrAI.Ingestion.RunFinalization

/-!
# Creating a run with its items

`LocalDataGateway.create_run_with_items`: one transaction that inserts a run and then an item for
every source, retried as a whole on a `DBAPIError`. Which flushes and commits fail, and the ids
that the rows get, are arguments for every attempt.
-/

namespace ImigrAI.Ingestion.Gateway

open Python Actions Action Sessions
open Pipeline (IngestionRunItemStatus)
open Finalization (IngestionRunStatus)

inductive IngestionRunTrigger where
  | scheduled
  | manual
  | reprocess
deriving DecidableEq

/-- The columns of `IngestionRun` that a creation sets. -/
structure IngestionRun where
  id : UUID
  triggerType : IngestionRunTrigger
  status : IngestionRunStatus
  requestedBy : Option String
  traceId : Option String
  totalItems : ℕ
  metadataJson : JsonObject

/-- The columns of `IngestionRunItem` that a creation sets. -/
structure IngestionRunItem where
  id : UUID
  ingestionRunId : UUID
  sourceId : UUID
  status : IngestionRunItemStatus
deriving DecidableEq

structure Tables where
  sourceIds : List UUID
  runs : List IngestionRun
  items : List IngestionRunItem

inductive DBAPIError where
  | integrityError
  | other (text : String)
deriving DecidableEq

inductive GatewayError where
  | dbapi (error : DBAPIError)
  | runtimeError (message : String)
deriving DecidableEq

/-- `except DBAPIError`. -/
def isDBAPIError : SessionError GatewayError → Bool
  | .raised (.dbapi _) => true
  | _ => false

/-- What one attempt meets: the ids of the rows, and where the database fails. -/
structure Attempt where
  runId : UUID
  itemId : ℕ → UUID
  runFault : Option DBAPIError
  itemFault : ℕ → Option DBAPIError
  commitFault : Option DBAPIError

structure RunRequest where
  triggerType : IngestionRunTrigger
  requestedBy : Option String
  traceId : Option String
  metadataJson : JsonObject

/-- A change that the database may refuse. -/
def insert (fault : Option DBAPIError) (allowed : Tables → Bool) (change : Tables → Tables)
    (tables : Tables) : Except GatewayError Tables :=
  match fault with
  | some error => .error (.dbapi error)
  | none => if allowed tables then .ok (change tables) else .error (.dbapi .integrityError)

def createIngestionRun (attempt : Attempt) (request : RunRequest) (sourceCount : ℕ) :
    Program Tables GatewayError IngestionRun := do
  let run : IngestionRun := {
    id := attempt.runId
    triggerType := request.triggerType
    status := .pending
    requestedBy := request.requestedBy
    traceId := request.traceId
    totalItems := sourceCount
    metadataJson := request.metadataJson }
  flush (insert attempt.runFault (fun tables => attempt.runId ∉ tables.runs.map (·.id))
    fun tables => { tables with runs := tables.runs ++ [run] })
  return run

/-- `uq_ingestion_run_item_source_once`, the foreign keys and the primary key. -/
def itemAllowed (item : IngestionRunItem) (tables : Tables) : Bool :=
  item.id ∉ tables.items.map (·.id) ∧ item.ingestionRunId ∈ tables.runs.map (·.id) ∧
    item.sourceId ∈ tables.sourceIds ∧
    (item.ingestionRunId, item.sourceId) ∉
      tables.items.map fun other => (other.ingestionRunId, other.sourceId)

def createRunItem (attempt : Attempt) (runId sourceId : UUID) (position : ℕ) :
    Program Tables GatewayError IngestionRunItem := do
  let item : IngestionRunItem := {
    id := attempt.itemId position
    ingestionRunId := runId
    sourceId := sourceId
    status := .pending }
  flush (insert (attempt.itemFault position) (itemAllowed item)
    fun tables => { tables with items := tables.items ++ [item] })
  return item

/-- `_create`. -/
def create (request : RunRequest) (sourceIds : List UUID) (attempt : Attempt) :
    Program Tables GatewayError (UUID × List UUID) :=
  inTransaction (attempt.commitFault.map .dbapi) do
    let run ← createIngestionRun attempt request sourceIds.length
    let itemIds ← sourceIds.zipIdx.mapM fun entry => do
      let item ← createRunItem attempt run.id entry.1 entry.2
      return item.id
    return (run.id, itemIds)

def retryGuard (operationName : String) : SessionError GatewayError :=
  .raised (.runtimeError ("operation " ++ operationName ++ " exceeded retry guard"))

def createRunWithItems (maxRetries : ℤ) (attempts : ℕ → Attempt) (request : RunRequest)
    (sourceIds : List UUID) :
    Action (Attempted (Session Tables)) (SessionError GatewayError) (UUID × List UUID) :=
  withRetry isDBAPIError maxRetries (retryGuard "create_run_with_items") fun attempt =>
    create request sourceIds (attempts attempt)

/-- The row of a new run. -/
def newRun (request : RunRequest) (runId : UUID) (totalItems : ℕ) : IngestionRun where
  id := runId
  triggerType := request.triggerType
  status := .pending
  requestedBy := request.requestedBy
  traceId := request.traceId
  totalItems := totalItems
  metadataJson := request.metadataJson

/-- The rows of new items, one for every source. -/
def newItems (runId : UUID) (itemIds sourceIds : List UUID) : List IngestionRunItem :=
  List.zipWith (fun itemId sourceId => ⟨itemId, runId, sourceId, .pending⟩) itemIds sourceIds

/-- The rows of the request, and nothing else, have been added. -/
structure Created (request : RunRequest) (sourceIds : List UUID) (before : Tables) (runId : UUID)
    (itemIds : List UUID) (after : Tables) : Prop where
  runs : after.runs = before.runs ++ [newRun request runId sourceIds.length]
  newRunId : runId ∉ before.runs.map (·.id)
  items : after.items = before.items ++ newItems runId itemIds sourceIds
  newItemIds : itemIds.Nodup ∧ ∀ itemId ∈ itemIds, itemId ∉ before.items.map (·.id)
  length : itemIds.length = sourceIds.length
  sources : after.sourceIds = before.sourceIds

section Attempts

variable {before : Tables} {expired : Bool}

theorem insert_eq_ok {fault : Option DBAPIError} {allowed : Tables → Bool}
    {change : Tables → Tables} {tables changed : Tables}
    (done : insert fault allowed change tables = .ok changed) :
    allowed tables = true ∧ changed = change tables := by
  unfold insert at done
  split at done
  · cases done
  · split_ifs at done with isAllowed
    cases done
    exact ⟨isAllowed, rfl⟩

/-- The ids that the rows have got so far are new. -/
structure NewIds (before : Tables) (runId : UUID) (passed : List (UUID × ℕ))
    (itemIds : List UUID) : Prop where
  run : runId ∉ before.runs.map (·.id)
  items : itemIds.Nodup ∧ ∀ itemId ∈ itemIds, itemId ∉ before.items.map (·.id)
  length : itemIds.length = passed.length

/-- The tables with the new run and the items for the sources that have been passed. -/
def inserting (request : RunRequest) (totalItems : ℕ) (before : Tables) (runId : UUID)
    (passed : List (UUID × ℕ)) (itemIds : List UUID) : Tables :=
  { before with
    runs := before.runs ++ [newRun request runId totalItems]
    items := before.items ++ newItems runId itemIds (passed.map Prod.fst) }

theorem newItems_append {runId itemId : UUID} {itemIds : List UUID} {passed : List (UUID × ℕ)}
    {entry : UUID × ℕ} (length : itemIds.length = passed.length) :
    newItems runId (itemIds ++ [itemId]) ((passed ++ [entry]).map Prod.fst) =
      newItems runId itemIds (passed.map Prod.fst) ++ [⟨itemId, runId, entry.1, .pending⟩] := by
  rw [List.map_append, newItems, List.zipWith_append (by simpa using length)]
  rfl

theorem map_id_newItems {runId : UUID} {itemIds sourceIds : List UUID}
    (length : itemIds.length = sourceIds.length) :
    (newItems runId itemIds sourceIds).map (·.id) = itemIds := by
  induction itemIds generalizing sourceIds with
  | nil => rfl
  | cons itemId rest ih =>
      cases sourceIds with
      | nil => simp at length
      | cons sourceId others =>
          have restEq := ih (by simpa using length)
          rw [newItems] at restEq
          rw [newItems, List.zipWith_cons_cons, List.map_cons, restEq]

theorem ensures_createIngestionRun (attempt : Attempt) (request : RunRequest) (totalItems : ℕ) :
    Ensures (Sees before before expired) (createIngestionRun attempt request totalItems)
      (fun run after => NewIds before run.id [] [] ∧
        Sees before (inserting request totalItems before run.id [] []) expired after)
      (fun _ after => after.committed = before) := by
  refine (ensures_flush _).weaken (fun _ => id) (fun _ _ => id) ?_ |>.bind fun _ => ?_
  · rintro _ after ⟨_, -, -, broken⟩
    exact broken.committed
  · rintro session ⟨changed, inserted, sees, -⟩
    rcases insert_eq_ok inserted with ⟨isNew, rfl⟩
    refine ⟨⟨by simpa using isNew, ⟨List.nodup_nil, by simp⟩, rfl⟩, ?_⟩
    simpa [inserting, newItems, newRun] using sees

theorem ensures_createRunItem (attempt : Attempt) (request : RunRequest) (totalItems : ℕ)
    (runId : UUID) (passed : List (UUID × ℕ)) (itemIds : List UUID) (entry : UUID × ℕ) :
    Ensures (fun session => NewIds before runId passed itemIds ∧
        Sees before (inserting request totalItems before runId passed itemIds) expired session)
      (createRunItem attempt runId entry.1 entry.2)
      (fun item after => NewIds before runId (passed ++ [entry]) (itemIds ++ [item.id]) ∧
        Sees before (inserting request totalItems before runId (passed ++ [entry])
          (itemIds ++ [item.id])) expired after)
      (fun _ after => after.committed = before) := by
  refine ensures_of_and fun newIds => ?_
  refine (ensures_flush _).weaken (fun _ => id) (fun _ _ => id) ?_ |>.bind fun _ => ?_
  · rintro _ after ⟨_, -, -, broken⟩
    exact broken.committed
  · rintro session ⟨changed, inserted, sees, -⟩
    rcases insert_eq_ok inserted with ⟨allowed, rfl⟩
    have unused : attempt.itemId entry.2 ∉ before.items.map (·.id) ++ itemIds := by
      simp only [itemAllowed, inserting, decide_eq_true_eq, List.map_append] at allowed
      rw [map_id_newItems (by simpa using newIds.length)] at allowed
      exact allowed.1
    rw [List.mem_append, not_or] at unused
    refine ⟨⟨newIds.run, ⟨?_, ?_⟩, by simp [newIds.length]⟩, ?_⟩
    · rw [← List.concat_eq_append]
      exact newIds.items.1.concat unused.2
    · intro itemId itemIdMem
      rcases List.mem_append.mp itemIdMem with old | isNew
      · exact newIds.items.2 itemId old
      · rw [List.mem_singleton.mp isNew]
        exact unused.1
    · rw [inserting, newItems_append newIds.length, ← List.append_assoc]
      exact sees

/-- An attempt that raises has committed nothing, and one that returns has created the run with
its items. -/
theorem ensures_create (request : RunRequest) (sourceIds : List UUID) (attempt : Attempt) :
    Ensures (Sees before before expired) (create request sourceIds attempt)
      (fun created after => ∃ tables, Created request sourceIds before created.1 created.2 tables ∧
        Idle tables expired after)
      (fun _ after => ∃ expired, Idle before expired after) := by
  refine ensures_inTransaction _ ?_
  refine (ensures_createIngestionRun attempt request sourceIds.length).bind fun run => ?_
  refine (ensures_mapM (fun passed itemIds entry =>
    (ensures_createRunItem attempt request sourceIds.length run.id passed itemIds entry).bind
      fun _ _ holds => holds) sourceIds.zipIdx [] []).bind fun itemIds => ?_
  rintro session ⟨newIds, sees⟩
  refine ⟨inserting request sourceIds.length before run.id sourceIds.zipIdx itemIds,
    ⟨rfl, newIds.run, ?_, newIds.items, by simpa using newIds.length, rfl⟩, sees⟩
  simp [inserting]

end Attempts

/-- With every pattern of failures, a call that returns has created one run with one pending item
for each source, and one that raises has created nothing, after at most one attempt more than
there are retries. The session may have read something before. -/
theorem createRunWithItems_creates_once (maxRetries : ℤ) (attempts : ℕ → Attempt)
    (request : RunRequest) (sourceIds : List UUID) (committed : Tables) :
    Ensures
      (fun before => (∃ expired, Sees committed committed expired before.state) ∧
        before.attempts = 0)
      (createRunWithItems maxRetries attempts request sourceIds)
      (fun created after =>
        (Created request sourceIds committed created.1 created.2 after.state.committed ∧
          after.state.transaction = .closed) ∧
        after.attempts ≤ (maxRetries + 1).toNat)
      (fun _ after =>
        (∃ expired, Sees committed committed expired after.state) ∧
        after.attempts ≤ (maxRetries + 1).toNat) := by
  have attempt (number : ℕ) :
      Ensures (fun session => ∃ expired, Sees committed committed expired session)
        (create request sourceIds (attempts number))
        (fun created after => Created request sourceIds committed created.1 created.2
          after.committed ∧ after.transaction = .closed)
        (fun _ after => ∃ expired, Sees committed committed expired after) := by
    refine ensures_of_exists fun expired => ?_
    refine (ensures_create request sourceIds (attempts number)).weaken (fun _ => id) ?_ ?_
    · rintro created after ⟨tables, made, idle⟩
      rw [← idle.committed] at made
      exact ⟨made, idle.closed⟩
    · rintro error after ⟨expired, idle⟩
      exact ⟨expired, idle.sees⟩
  exact ensures_withRetry maxRetries attempt

/-- The first attempt fails at its commit and the second one at none of its steps. -/
example :
    let attempts (attempt : ℕ) : Attempt := ⟨if attempt = 0 then 7 else 8,
      fun position => if position = 0 then 20 else 21, none, fun _ => none,
      if attempt = 0 then some (.other "connection lost") else none⟩
    let request : RunRequest :=
      ⟨.manual, none, none, ⟨[], Value.wellFormed_emptyDict⟩⟩
    let outcome := createRunWithItems 3 attempts request [1, 2]
      ⟨⟨⟨[1, 2], [], []⟩, .closed, false⟩, 0⟩
    outcome.1.toOption = some (8, [20, 21]) ∧ outcome.2.attempts = 2 ∧
      outcome.2.state.committed.items = [⟨20, 8, 1, .pending⟩, ⟨21, 8, 2, .pending⟩] := by
  decide

end ImigrAI.Ingestion.Gateway
