import MappedSql.Action
import MappedSql.Storage.Effect

namespace MappedSql.Storage

structure View where
  tables : List Table := []
  version : Nat := 0

structure Database where
  committed : View := {}
  locked : Bool := false

/-- A statement that a client holds ready, with its headings and the number of its parameters. -/
structure Prepared where
  statement : Sql.Statement
  columns : Columns
  parameterCount : Nat

/-- A client remembers the tables that it last knew; they may have changed since. -/
structure Client where
  inTransaction : Bool := false
  view : Option View := none
  writing : Bool := false
  changed : Bool := false
  redefined : Bool := false
  known : Option (List Table) := none
  prepared : List (String × Prepared) := []
  lastNumber : Nat := 0
  lastCount : Nat := 0

structure Access where
  database : Database := {}
  client : Client := {}

def fail {α : Type} : Action Access α :=
  failWith .storage

namespace Access

def view (access : Access) : View :=
  access.client.view.getD access.database.committed

def mayWrite (access : Access) : Bool :=
  access.client.writing
    || (!access.database.locked && access.view.version == access.database.committed.version)

def setClient (change : Client → Client) (access : Access) : Access :=
  { access with client := change access.client }

def look (toWrite : Bool) (access : Access) : Access where
  database := { access.database with locked := access.database.locked || toWrite }
  client := { access.client with
    view := some access.view
    writing := access.client.writing || toWrite
    known := some access.view.tables }

def apply (statement : Sql.Statement) (effect : Sql.Effect) (access : Access) : Access :=
  access.setClient fun client =>
    { client with
      view := some { access.view with tables := effect.tables }
      changed := client.changed || statement.isDefinition || effect.changed.any (0 < ·)
      redefined := client.redefined || statement.isDefinition
      known := some effect.tables
      lastNumber := effect.inserted.getD client.lastNumber
      lastCount := effect.changed.getD client.lastCount }

def unlocked (access : Access) : Database :=
  { access.database with locked := access.database.locked && !access.client.writing }

def finished (client : Client) : Client :=
  { client with
    inTransaction := false, view := none, writing := false, changed := false, redefined := false }

def keep (access : Access) : Access where
  database :=
    if access.client.changed then
      { access.unlocked with committed := ⟨access.view.tables, access.view.version + 1⟩ }
    else access.unlocked
  client := finished access.client

def discard (access : Access) : Access where
  database := access.unlocked
  client := finished
    (if access.client.redefined then { access.client with known := none } else access.client)

def begin : Action Access Unit :=
  modify (setClient ({ · with inTransaction := true }))

def commit : Action Access Unit :=
  modify keep

def rollback : Action Access Unit :=
  modify discard

def noteNoChange (statement : Sql.Statement) : Action Access Unit :=
  modify (setClient fun client =>
    if statement.isChange then { client with lastCount := 0 } else client)

def perform (statement : Sql.Statement) (parameters : List StoredValue) :
    Action Access (List (List StoredValue)) := do
  if statement.writes && !(← get).mayWrite then
    noteNoChange statement
    fail
  modify (look statement.writes)
  let access ← get
  if !statement.fits access.view.tables then fail
  match statement.effect? parameters access.view.tables with
  | none =>
      noteNoChange statement
      fail
  | some effect =>
      modify (apply statement effect)
      return effect.rows

def run (statement : Sql.Statement) (parameters : List StoredValue) :
    Action Access (List (List StoredValue)) := do
  if !statement.usesTables then
    match statement.effect? parameters [] with
    | none => fail
    | some effect => return effect.rows
  let result ← (perform statement parameters).attempt
  if !(← get).client.inTransaction then
    modify (match result with
      | .ok _ => keep
      | .error _ => discard)
  result

def prepared? (access : Access) (sql : String) : Option Prepared :=
  access.client.prepared.lookup (Text.trimmed sql)

/-- The tables by which a statement is understood: those last known, unless it does not fit them. -/
def tablesFor (access : Access) (statement : Sql.Statement) : List Table :=
  match access.client.known with
  | some tables => if statement.fits tables then tables else access.view.tables
  | none => access.view.tables

/-- Holds a statement ready. One that is ready stays so, whatever becomes of its table. -/
def prepare (sql : String) : Action Access Columns := do
  let access ← get
  match access.prepared? sql with
  | some prepared => return prepared.columns
  | none =>
      let some (statement, count) := Sql.readSingle? sql | fail
      let tables := access.tablesFor statement
      if statement.usesTables then
        modify (setClient ({ · with known := some tables }))
      if !statement.fits tables then fail
      let columns := statement.headings tables
      modify (setClient fun client =>
        { client with
          prepared := (Text.trimmed sql, ⟨statement, columns, count⟩) :: client.prepared })
      return columns

def bind (sql : String) (parameters : List StoredValue) : Action Access Prepared := do
  let some prepared := (← get).prepared? sql | fail
  if prepared.parameterCount != parameters.length then fail
  return prepared

def query (sql : String) (parameters : List StoredValue) :
    Action Access (List (List StoredValue)) := do
  let prepared ← bind sql parameters
  run prepared.statement (parameters.map StoredValue.kept)

/-- Runs a prepared statement that is not a query and answers how many rows the last change
changed. -/
def execute (sql : String) (parameters : List StoredValue) : Action Access Nat := do
  let prepared ← bind sql parameters
  let _ ← run prepared.statement (parameters.map StoredValue.kept)
  if prepared.statement.isQuery then fail
  return (← get).client.lastCount

def lastNumber (access : Access) : Value :=
  .int (Int64.ofNat access.client.lastNumber)

/-- Runs statements one after the other up to the first that fails. Parameters stand for null. -/
def runAll : List (List Sql.Token) → Action Access Unit
  | [] => return ()
  | tokens :: rest => do
      if !tokens.isEmpty then
        let some (statement, count) := Sql.readNumbered? tokens | fail
        let _ ← run statement (List.replicate count .null)
      runAll rest

end Access

def Database.runScript (database : Database) (script : String) : Except Error Unit × Database :=
  let (result, access) := (Access.runAll (Sql.statementsOf script)).run ⟨database, {}⟩
  (result, access.database)

end MappedSql.Storage
