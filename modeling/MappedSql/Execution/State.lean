import MappedSql.Cache.Staging
import MappedSql.Database.Transaction
import MappedSql.Rows.Cursor
import MappedSql.Statement.Batch

namespace MappedSql

/-- How statements are run, with what that holds open: nothing, statements by their SQL, or queued
updates and the SQL and id that the next one may join. -/
inductive Strategy
  | simple
  | reuse (held : List (String × StatementId))
  | batch (pending : List PendingBatch) (current : Option (String × String))

structure Executor where
  strategy : Strategy
  transaction : Transaction
  localCache : Entries CachedValue := []
  staging : Staging := []
  drains : Drains := .asStaged
  closed : Bool := false

/-- What a call of a unit of work sees: the data source, the shared caches, the unit of work itself,
and the parameter of the call, which generated keys and outputs are written to. -/
structure Scene (σ : Type) where
  source : σ
  shared : SharedCaches
  executor : Executor
  parameter : Value

abbrev Work (σ : Type) := Action (Scene σ)

namespace Work

variable {σ α : Type}

def onSource (act : Action σ α) : Work σ α :=
  Action.within Scene.source (fun scene source => { scene with source := source }) act

def onTransaction (act : Action (σ × Transaction) α) : Work σ α :=
  Action.within (fun scene => (scene.source, scene.executor.transaction))
    (fun scene (source, transaction) =>
      { scene with
        source := source
        executor := { scene.executor with transaction := transaction } })
    act

def executor : Work σ Executor :=
  Action.read Scene.executor

def changeExecutor (change : Executor → Executor) : Work σ Unit :=
  modify fun scene => { scene with executor := change scene.executor }

def parameter : Work σ Value :=
  Action.read Scene.parameter

def setParameter (value : Value) : Work σ Unit :=
  modify fun scene => { scene with parameter := value }

def setStrategy (strategy : Strategy) : Work σ Unit :=
  changeExecutor fun executor => { executor with strategy := strategy }

end Work

end MappedSql
