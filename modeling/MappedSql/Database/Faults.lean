import MappedSql.Database.Basic

namespace MappedSql

/-- What a journal holds: statements that were prepared, outputs that were registered, and calls
that were intercepted. -/
inductive JournalEntry
  | prepare (sql : String) (options : PrepareOptions)
  | registerOutput (position : Nat) (type : Option DbType)
  | before (interceptor call args : String)
  | after (interceptor call : String) (outcome : Except Cause String)

/-- The inner state, the faults that are set, the journal, and the number of fetches of each row
source. Statements that were prepared while outputs were cut off stay without them. -/
structure Faulty (τ : Type) where
  inner : τ
  faults : List String := []
  journal : List JournalEntry := []
  fetches : List (RowsId × Nat) := []
  withoutOutputs : List StatementId := []

namespace Faulty

variable {τ α : Type}

def onInner (act : Action τ α) : Action (Faulty τ) α :=
  Action.within inner (fun faulty inner => { faulty with inner := inner }) act

def note (entry : JournalEntry) (faulty : Faulty τ) : Faulty τ :=
  { faulty with journal := faulty.journal ++ [entry] }

def strike (name : String) : Action (Faulty τ) Unit := do
  if (← get).faults.contains name then failWith (.execution s!"fault: {name}")

def before (name : String) (act : Action τ α) : Action (Faulty τ) α := do
  strike name
  onInner act

def after (name : String) (act : Action τ α) : Action (Faulty τ) α := do
  let answer ← onInner act
  strike name
  return answer

def fetchCount (faulty : Faulty τ) (rows : RowsId) : Nat :=
  (faulty.fetches.lookup rows).getD 0

def countFetch (rows : RowsId) : Action (Faulty τ) Nat := do
  let number := (← get).fetchCount rows + 1
  modify fun faulty => { faulty with fetches := (rows, number) :: faulty.fetches }
  return number

variable (source : DataSource τ)

def connect (autocommit : Bool) : Action (Faulty τ) ConnectionId := do
  if (← get).faults.contains "connect" then failWith (.connection "fault: connect")
  onInner (source.connect autocommit)

def prepare (connection : ConnectionId) (sql : String) (options : PrepareOptions) :
    Action (Faulty τ) StatementId := do
  modify (note (.prepare sql options))
  let statement ← before "prepare" (source.prepare connection sql options)
  modify fun faulty =>
    if faulty.faults.contains "no_out" then
      { faulty with withoutOutputs := statement :: faulty.withoutOutputs }
    else faulty
  return statement

def registerOutput (statement : StatementId) (position : Nat) (type : Option DbType) :
    Action (Faulty τ) Unit := do
  if (← get).withoutOutputs.contains statement then DataSource.refuseOutput
  modify (note (.registerOutput position type))
  onInner (source.registerOutput statement position type)

def output (statement : StatementId) (position : Nat) : Action (Faulty τ) Value := do
  if (← get).withoutOutputs.contains statement then DataSource.refuseOutput
  onInner (source.output statement position)

def nextRow (rows : RowsId) : Action (Faulty τ) (Option Row) := do
  let number ← countFetch rows
  before s!"row:{number}" (source.nextRow rows)

def around : DataSource (Faulty τ) where
  connect := connect source
  isAutocommit := fun faulty => source.isAutocommit faulty.inner
  commit := fun connection => before "commit" (source.commit connection)
  rollback := fun connection => before "rollback" (source.rollback connection)
  closeConnection := fun connection => after "conn_close" (source.closeConnection connection)
  dropConnection := fun connection faulty =>
    { faulty with inner := source.dropConnection connection faulty.inner }
  prepare := prepare source
  sql := fun faulty => source.sql faulty.inner
  setParameter := fun statement position value =>
    before "set_param" (source.setParameter statement position value)
  registerOutput := registerOutput source
  output := output source
  clearParameters := fun statement => onInner (source.clearParameters statement)
  update := fun statement => before "update" (source.update statement)
  query := fun statement => before "query" (source.query statement)
  openRows := fun statement => before "cursor" (source.openRows statement)
  addBatch := fun statement => before "add_batch" (source.addBatch statement)
  executeBatch := fun statement => before "batch" (source.executeBatch statement)
  generatedKeys := fun statement => before "keys" (source.generatedKeys statement)
  closeStatement := fun statement => after "stmt_close" (source.closeStatement statement)
  isClosed := fun faulty => source.isClosed faulty.inner
  dropStatement := fun statement faulty =>
    { faulty with inner := source.dropStatement statement faulty.inner }
  columns := fun faulty => source.columns faulty.inner
  nextRow := nextRow source
  closeRows := fun rows => after "row_close" (source.closeRows rows)
  dropRows := fun rows faulty => { faulty with inner := source.dropRows rows faulty.inner }

end Faulty

end MappedSql
