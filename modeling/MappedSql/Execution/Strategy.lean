import MappedSql.Execution.Handler

/-!
# Ways of running statements

A simple unit of work prepares a statement for every call and closes it afterwards. A reusing one
keeps statements by their SQL until the next flush. A batching one queues updates of the same SQL
and statement on one prepared statement, and runs them at the next flush, which a query brings
about.
-/

namespace MappedSql

def queuedCount : Nat := 0

namespace Strategy

variable {σ α : Type} (pipeline : Pipeline σ)

/-- Uses a statement and closes it; the failure of the use counts before that of closing. -/
def withStatement (statement : StatementId) (use : Work σ α) : Work σ α := do
  let result ← use.attempt
  let closed ← (Work.onSource (pipeline.source.finishStatement statement)).attempt
  let answer ← result
  closed
  return answer

def closeQuietly (statement : StatementId) : Work σ Unit :=
  (Work.onSource (pipeline.source.finishStatement statement)).quietly

def updateOnce (handler : Handler) : Work σ Nat := do
  let statement ← handler.prepareInTransaction pipeline
  withStatement pipeline statement do
    handler.parameterize pipeline statement
    handler.update pipeline statement

def queryOnce (handler : Handler) : Work σ (List Value) := do
  let statement ← handler.prepareInTransaction pipeline
  withStatement pipeline statement do
    handler.parameterize pipeline statement
    handler.query pipeline statement

def openOnce (handler : Handler) : Work σ Cursor := do
  let statement ← handler.prepareInTransaction pipeline
  match ← (handler.parameterize pipeline statement).attempt with
  | .ok () => handler.queryCursor pipeline statement
  | .error e => do
      closeQuietly pipeline statement
      throw e

def held : Strategy → List (String × StatementId)
  | reuse held => held
  | _ => []

def hold (sql : String) (statement : StatementId) : Work σ Unit := do
  let held := (← Work.executor).strategy.held
  match held.lookup sql with
  | some before => Work.onSource (modify (pipeline.source.dropStatement before))
  | none => pure ()
  Work.setStrategy (.reuse ((sql, statement) :: held.filter (·.1 != sql)))

/-- The statement that is kept for the SQL of an invocation if it is open, or a new one, with its
parameters set. -/
def obtainHeld (handler : Handler) : Work σ StatementId := do
  let held := (← Work.executor).strategy.held
  let source := (← get).source
  match (held.lookup handler.bound.sql).filter fun id => !pipeline.source.isClosed source id with
  | some statement =>
      handler.parameterize pipeline statement
      return statement
  | none =>
      let statement ← handler.prepareInTransaction pipeline
      hold pipeline handler.bound.sql statement
      handler.parameterize pipeline statement
      return statement

def updateHeld (handler : Handler) : Work σ Nat := do
  handler.update pipeline (← obtainHeld pipeline handler)

def queryHeld (handler : Handler) : Work σ (List Value) := do
  handler.query pipeline (← obtainHeld pipeline handler)

def openHeld (handler : Handler) : Work σ Cursor := do
  let statement ← obtainHeld pipeline handler
  let held := (← Work.executor).strategy.held
  Work.setStrategy (.reuse (held.filter (·.1 != handler.bound.sql)))
  handler.queryCursor pipeline statement

def closeHeld : List (String × StatementId) → Work σ Unit
  | [] => return ()
  | (_, statement) :: rest => do
      closeQuietly pipeline statement
      closeHeld rest

def pending : Strategy → List PendingBatch
  | batch pending _ => pending
  | _ => []

def current : Strategy → Option (String × String)
  | batch _ current => current
  | _ => none

def appendUpdate (handler : Handler) (earlier : List PendingBatch) (last : PendingBatch)
    (target : String × String) : Work σ Unit := do
  handler.parameterize pipeline last.statement
  Handler.addBatch pipeline last.statement
  Work.setStrategy (.batch (earlier ++ [last.addParameter (← Work.parameter)]) (some target))

def startBatch (handler : Handler) (pending : List PendingBatch) (target : String × String) :
    Work σ Unit := do
  let statement ← handler.prepareInTransaction pipeline
  let queue : Work σ Unit := do
    handler.parameterize pipeline statement
    Handler.addBatch pipeline statement
  match ← queue.attempt with
  | .error e => do
      closeQuietly pipeline statement
      throw e
  | .ok () =>
      let result : BatchResult :=
        { statementId := handler.statement.id
          sql := handler.bound.sql
          parameters := [← Work.parameter] }
      let batch : PendingBatch :=
        { statement := statement, keys := handler.statement.keys, result := result }
      Work.setStrategy (.batch (pending ++ [batch]) (some target))

def queueUpdate (handler : Handler) : Work σ Nat := do
  let strategy := (← Work.executor).strategy
  let target := (handler.bound.sql, handler.statement.id)
  match strategy.pending.getLast? with
  | some last =>
      if strategy.current = some target then
        appendUpdate pipeline handler strategy.pending.dropLast last target
      else startBatch pipeline handler strategy.pending target
  | none => startBatch pipeline handler [] target
  return queuedCount

def flushPending (givingUp : Bool) : Work σ (List BatchResult) := do
  let pending := (← Work.executor).strategy.pending
  Work.setStrategy (.batch [] none)
  if givingUp then
    Work.onSource (PendingBatch.discardAll pipeline.source pending)
    return []
  else Work.onSource (PendingBatch.executeAll pipeline.source 0 pending)

def flush (givingUp : Bool) : Work σ (List BatchResult) := do
  match (← Work.executor).strategy with
  | simple => return []
  | reuse held => do
      Work.setStrategy (.reuse [])
      closeHeld pipeline held
      return []
  | batch _ _ => flushPending pipeline givingUp

def update (statement : MappedStatement) : Work σ Nat := do
  let handler ← Handler.forParameter pipeline statement
  match (← Work.executor).strategy with
  | simple => updateOnce pipeline handler
  | reuse _ => updateHeld pipeline handler
  | batch _ _ => queueUpdate pipeline handler

def query (handler : Handler) : Work σ (List Value) := do
  match (← Work.executor).strategy with
  | simple => queryOnce pipeline handler
  | reuse _ => queryHeld pipeline handler
  | batch _ _ => do
      let _ ← flushPending pipeline false
      queryOnce pipeline handler

def openCursor (handler : Handler) : Work σ Cursor := do
  match (← Work.executor).strategy with
  | simple => openOnce pipeline handler
  | reuse _ => openHeld pipeline handler
  | batch _ _ => do
      let _ ← flushPending pipeline false
      openOnce pipeline handler

end Strategy

end MappedSql
