import MappedSql.Execution.Strategy

/-!
# Executors

An executor runs the calls of one unit of work. It answers a query from the rows that it keeps of
its own queries, else from the shared cache of the statement as far as this unit of work may see it,
else from the data source. What it stages for the shared caches is published when it commits or
closes cleanly.
-/

namespace MappedSql

namespace Executor

def ofKind (kind : ExecutorKind) (transaction : Transaction) (drains : Drains := .asStaged) :
    Executor where
  transaction := transaction
  drains := drains
  strategy := match kind with
    | .simple => .simple
    | .reuse => .reuse []
    | .batch => .batch [] none

variable {σ α : Type} (pipeline : Pipeline σ)

def ensureOpen : Work σ Unit := do
  if (← Work.executor).closed then failWith (.closed "Executor was closed.")

def clearLocal : Work σ Unit :=
  Work.changeExecutor fun executor =>
    if executor.closed then executor else { executor with localCache := [] }

def keepRows (key : CacheKey) (rows : List Value) : Work σ Unit :=
  Work.changeExecutor fun executor =>
    { executor with localCache := Entries.put executor.localCache key (.rows rows) }

/-- A number as a part of a key; a larger one than fits counts as the largest that does. -/
def keyNumber (n : Nat) : Value :=
  .int (Int64.ofNat (min n (Nat.pow 2 63 - 1)))

def sentValues (bound : BoundSql) : Except Error (List Value) :=
  (bound.mappings.filter (·.direction != .output)).mapM bound.parameterValue

/-- The key of a query: the statement, the bounds, the SQL, the values, and the database. -/
def keyOf (databaseId : Option String) (statement : MappedStatement) (bounds : RowBounds)
    (bound : BoundSql) : Except Error CacheKey := do
  let values ← sentValues bound
  let call : List Value :=
    [.text statement.id, keyNumber bounds.offset, keyNumber bounds.limit, .text bound.sql]
  return ⟨call ++ values ++ databaseId.toList.map .text⟩

def cacheKey (statement : MappedStatement) (bounds : RowBounds) (bound : BoundSql) :
    Work σ CacheKey := do
  ensureOpen
  keyOf pipeline.configuration.databaseId statement bounds bound

def isCached (key : CacheKey) : Work σ Bool := do
  return (Entries.get? (← Work.executor).localCache key).isSome

namespace Local

def update (statement : MappedStatement) : Work σ Nat := do
  ensureOpen
  clearLocal
  Strategy.update pipeline statement

def rowsFor (statement : MappedStatement) (bounds : RowBounds) (key : CacheKey)
    (bound : BoundSql) : Work σ (List Value) := do
  match Entries.get? (← Work.executor).localCache key with
  | some cached => return cached.toRows
  | none =>
      let rows ← Strategy.query pipeline ⟨statement, bound, bounds⟩
      keepRows key rows
      return rows

def keyedQuery (statement : MappedStatement) (bounds : RowBounds) (key : CacheKey)
    (bound : BoundSql) : Work σ (List Value) := do
  ensureOpen
  if statement.flushCache then clearLocal
  let result ← (rowsFor pipeline statement bounds key bound).attempt
  if pipeline.configuration.settings.localScope = .statement then clearLocal
  result

def queryCursor (statement : MappedStatement) (parameter : Value) (bounds : RowBounds) :
    Work σ Cursor := do
  ensureOpen
  let bound ← statement.boundSql parameter pipeline.setting
  Strategy.openCursor pipeline ⟨statement, bound, bounds⟩

def flush : Work σ (List BatchResult) := do
  ensureOpen
  Strategy.flush pipeline false

def commit (required : Bool) : Work σ Unit := do
  if (← Work.executor).closed then
    failWith (.closed "Cannot commit, transaction is already closed")
  clearLocal
  let _ ← flush pipeline
  if required then Work.onTransaction (Transaction.commit pipeline.source)

def rollback (required : Bool) : Work σ Unit := do
  if (← Work.executor).closed then return ()
  clearLocal
  let flushed ← (Strategy.flush pipeline true).attempt
  if required then Work.onTransaction (Transaction.rollback pipeline.source)
  let _ ← flushed

/-- Gives up what is pending and closes the transaction. Failures on the way are passed over. -/
def close (required : Bool) : Work σ Unit := do
  if (← Work.executor).closed then return ()
  (rollback pipeline required).quietly
  (Work.onTransaction (Transaction.close pipeline.source)).quietly
  Work.changeExecutor fun executor => { executor with localCache := [], closed := true }

end Local

namespace Shared

def setStaging (staging : Staging) : Work σ Unit :=
  Work.changeExecutor fun executor => { executor with staging := staging }

def flushIfRequired (statement : MappedStatement) : Work σ Unit := do
  match statement.cache with
  | some id =>
      if statement.flushCache then setStaging (Staging.clear (← Work.executor).staging id)
  | none => return ()

def ensureNoOutputs (statement : MappedStatement) (bound : BoundSql) : Except Error Unit :=
  if statement.isCallable && bound.mappings.any (·.direction.isOutput) then
    failWith (.cache
      ("Caching stored procedures with OUT params is not supported. " ++
        s!"Please configure use_cache=false in `{statement.id}`."))
  else .ok ()

def lookUp (id : String) (key : CacheKey) : Work σ (Option CachedValue) := do
  let scene ← get
  let (found, shared) := Staging.get? scene.executor.staging id key scene.shared
  set { scene with shared := shared }
  return found

def update (statement : MappedStatement) : Work σ Nat := do
  flushIfRequired statement
  Local.update pipeline statement

def rowsFor (statement : MappedStatement) (bounds : RowBounds) (key : CacheKey) (bound : BoundSql)
    (id : String) : Work σ (List Value) := do
  match ← lookUp id key with
  | some hit => return hit.toRows
  | none =>
      let rows ← Local.keyedQuery pipeline statement bounds key bound
      setStaging (Staging.put (← Work.executor).staging id key (.rows rows))
      return rows

def keyedQuery (statement : MappedStatement) (bounds : RowBounds) (key : CacheKey)
    (bound : BoundSql) : Work σ (List Value) := do
  match statement.cache with
  | none => Local.keyedQuery pipeline statement bounds key bound
  | some id =>
      if statement.useCache then ensureNoOutputs statement bound
      flushIfRequired statement
      if statement.useCache then rowsFor pipeline statement bounds key bound id
      else Local.keyedQuery pipeline statement bounds key bound

def queryCursor (statement : MappedStatement) (parameter : Value) (bounds : RowBounds) :
    Work σ Cursor := do
  flushIfRequired statement
  Local.queryCursor pipeline statement parameter bounds

def publish : Work σ Unit :=
  modify fun scene =>
    { scene with
      shared := Staging.publish scene.executor.staging scene.shared (scene.executor.drains 0)
      executor := { scene.executor with staging := [], drains := scene.executor.drains.rest } }

def commit (required : Bool) : Work σ Unit := do
  Local.commit pipeline required
  publish

def rollback (required : Bool) : Work σ Unit := do
  let result ← (Local.rollback pipeline required).attempt
  setStaging []
  result

def close (required : Bool) : Work σ Unit := do
  if required then setStaging [] else publish
  Local.close pipeline required

end Shared

def choose (shared unshared : Work σ α) : Work σ α :=
  if pipeline.configuration.settings.cacheEnabled then shared else unshared

def update (statement : MappedStatement) : Work σ Nat :=
  pipeline.call .count .update (.update statement) fun
    | .update statement =>
        choose pipeline (Shared.update pipeline statement) (Local.update pipeline statement)
    | args => pipeline.refuse .update args

def answerKeyed (statement : MappedStatement) (bounds : RowBounds) (key : CacheKey)
    (bound : BoundSql) : Work σ (List Value) :=
  choose pipeline (Shared.keyedQuery pipeline statement bounds key bound)
    (Local.keyedQuery pipeline statement bounds key bound)

def query (statement : MappedStatement) (parameter : Value) (bounds : RowBounds) :
    Work σ (List Value) :=
  pipeline.call .rows .query (.query statement parameter bounds) fun
    | .query statement parameter bounds => do
        let bound ← statement.boundSql parameter pipeline.setting
        let key ← cacheKey pipeline statement bounds bound
        answerKeyed pipeline statement bounds key bound
    | args => pipeline.refuse .query args

def keyedQuery (statement : MappedStatement) (parameter : Value) (bounds : RowBounds)
    (key : CacheKey) (bound : BoundSql) : Work σ (List Value) :=
  pipeline.call .rows .keyedQuery (.keyedQuery statement parameter bounds key bound) fun
    | .keyedQuery statement _ bounds key bound => answerKeyed pipeline statement bounds key bound
    | args => pipeline.refuse .keyedQuery args

def queryCursor (statement : MappedStatement) (parameter : Value) (bounds : RowBounds) :
    Work σ Cursor :=
  pipeline.call .cursor .queryCursor (.query statement parameter bounds) fun
    | .query statement parameter bounds =>
        choose pipeline (Shared.queryCursor pipeline statement parameter bounds)
          (Local.queryCursor pipeline statement parameter bounds)
    | args => pipeline.refuse .queryCursor args

def flush : Work σ (List BatchResult) :=
  pipeline.call .batches .flush .none fun
    | .none => Local.flush pipeline
    | args => pipeline.refuse .flush args

def commit (required : Bool) : Work σ Unit :=
  pipeline.call .unit .commit (.flag required) fun
    | .flag required =>
        choose pipeline (Shared.commit pipeline required) (Local.commit pipeline required)
    | args => pipeline.refuse .commit args

def rollback (required : Bool) : Work σ Unit :=
  pipeline.call .unit .rollback (.flag required) fun
    | .flag required =>
        choose pipeline (Shared.rollback pipeline required) (Local.rollback pipeline required)
    | args => pipeline.refuse .rollback args

def close (required : Bool) : Work σ Unit :=
  choose pipeline (Shared.close pipeline required) (Local.close pipeline required)

def drop (executor : Executor) (state : σ) : σ :=
  let held := executor.strategy.held.map (·.2) ++ executor.strategy.pending.map (·.statement)
  executor.transaction.drop pipeline.source
    (held.foldl (fun state statement => pipeline.source.dropStatement statement state) state)

end Executor

end MappedSql
