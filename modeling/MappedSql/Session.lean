import MappedSql.Execution.Executor

/-!
# Sessions

A session runs statements by id within one unit of work. Updates make it dirty; committing and
rolling back reach the transaction only if it is dirty or forced, and autocommit is off. Closing
rolls back what was not committed.
-/

namespace MappedSql

structure Session where
  executor : Executor
  autocommit : Bool
  dirty : Bool := false

/-- What a session's call sees: the data source, the shared caches, the session itself, and the
parameter of the call. -/
structure SessionScene (σ : Type) where
  source : σ
  shared : SharedCaches
  session : Session
  parameter : Value

namespace Session

def isClosed (session : Session) : Bool :=
  session.executor.closed

def onTransaction (kind : ExecutorKind) (transaction : Transaction) (autocommit : Bool)
    (drains : Drains := .asStaged) : Session :=
  { executor := .ofKind kind transaction drains, autocommit := autocommit }

variable {σ α τ : Type}

def openWith (configuration : Configuration σ) (kind : ExecutorKind) (autocommit : Bool) :
    Except Error Session :=
  match configuration.source with
  | some _ => .ok (onTransaction kind { autocommit := autocommit } autocommit)
  | none =>
      failWith (.config "no data source configured; use open_session_with_transaction")

def openDefault (configuration : Configuration σ) : Except Error Session :=
  openWith configuration configuration.settings.executor false

abbrev Act (σ : Type) := Action (SessionScene σ)

def perform (work : Work σ α) : Act σ α :=
  Action.within
    (fun scene => ⟨scene.source, scene.shared, scene.session.executor, scene.parameter⟩)
    (fun scene after =>
      { source := after.source
        shared := after.shared
        session := { scene.session with executor := after.executor }
        parameter := after.parameter })
    work

def onSource (act : Action σ α) : Act σ α :=
  Action.within SessionScene.source (fun scene source => { scene with source := source }) act

def setDirty (dirty : Bool) : Act σ Unit :=
  modify fun scene => { scene with session := { scene.session with dirty := dirty } }

variable (pipeline : Pipeline σ)

def list (id : String) (bounds : RowBounds) : Act σ (List Value) := do
  let statement ← pipeline.configuration.statement id
  let parameter := (← get).parameter
  (perform (Executor.query pipeline statement parameter bounds)).inContext
    s!"Error querying database for `{id}`"

def one (id : String) : Act σ (Option Value) := do
  match ← list pipeline id .unbounded with
  | [] => return none
  | [row] => return some row
  | rows =>
      failWith (.execution
        ("Expected one result (or null) to be returned by select_one(), " ++
          s!"but found: {rows.length}"))

def cursor (id : String) (bounds : RowBounds) : Act σ Cursor := do
  let statement ← pipeline.configuration.statement id
  let parameter := (← get).parameter
  (perform (Executor.queryCursor pipeline statement parameter bounds)).inContext
    s!"Error opening cursor for `{id}`"

def update (id : String) : Act σ Nat := do
  let statement ← pipeline.configuration.statement id
  setDirty true
  (perform (Executor.update pipeline statement)).inContext
    s!"Error updating database for `{id}`"

def flush : Act σ (List BatchResult) :=
  (perform (Executor.flush pipeline)).inContext "Error flushing statements"

/-- Receives the rows of a cursor, numbered from one, until they end or the receiver has enough. A
cursor hands out at most as many rows as its limit, which bounds the number of steps. -/
def receiveRows (source : DataSource σ) (receive : Nat → Value → Action τ Bool)
    (number : Nat) : Nat → Action ((σ × Cursor) × τ) Unit
  | 0 => return ()
  | steps + 1 => do
      match ← (Cursor.next source).onFirst with
      | none => return ()
      | some row => do
          let enough ← Action.within Prod.snd (fun state after => (state.1, after))
            (receive number row)
          if enough then return ()
          receiveRows source receive (number + 1) steps

def stream (source : DataSource σ) (receive : Nat → Value → Action τ Bool) (limit : Nat) :
    Action ((σ × Cursor) × τ) Unit := do
  match ← (receiveRows source receive 1 (limit + 1)).attempt with
  | .ok () => (Cursor.close source).onFirst
  | .error e => do
      (Cursor.close source).quietly.onFirst
      throw e

/-- Hands the rows of a query to a receiver one at a time, and returns what the receiver has become
beside how it went. -/
def select (id : String) (bounds : RowBounds) (receive : Nat → Value → Action τ Bool)
    (receiver : τ) : Act σ (Except Error Unit × τ) := do
  match ← (cursor pipeline id bounds).attempt with
  | .error e => return (.error e, receiver)
  | .ok opened =>
      onSource fun source =>
        let (result, ((source, _), receiver)) :=
          (stream pipeline.source receive opened.bounds.limit).run ((source, opened), receiver)
        (.ok (result, receiver), source)

def required (session : Session) (force : Bool) : Bool :=
  (!session.autocommit && session.dirty) || force

def commit (force : Bool) : Act σ Unit := do
  let required := (← get).session.required force
  (perform (Executor.commit pipeline required)).inContext "Error committing transaction"
  setDirty false

def rollback (force : Bool) : Act σ Unit := do
  let required := (← get).session.required force
  (perform (Executor.rollback pipeline required)).inContext "Error rolling back transaction"
  setDirty false

def clearCache : Act σ Unit :=
  perform Executor.clearLocal

def close : Act σ Unit := do
  let session := (← get).session
  if session.isClosed then return ()
  perform (Executor.close pipeline (session.required false))
  setDirty false

def ensureMapper (configuration : Configuration σ) (space : String) : Except Error Unit :=
  if configuration.hasMapper space then .ok ()
  else failWith (.binding space s!"Type {space} is not known to the MapperRegistry.")

def qualified (space id : String) : String :=
  s!"{space}.{id}"

end Session

end MappedSql
