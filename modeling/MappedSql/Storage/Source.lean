import MappedSql.Database.Basic
import MappedSql.Storage.Database
import MappedSql.Storage.Worker

namespace MappedSql

/-- How a store is opened; the time to wait for others is in milliseconds. -/
structure StorageOptions where
  path : Option String := none
  busyTimeout : Option Nat := some 5000
  writeAhead : Bool := true
  deriving DecidableEq, Repr

namespace StorageOptions

def isPrivate (options : StorageOptions) : Bool :=
  options.path == some ":memory:"

end StorageOptions

structure StoredConnection where
  database : Nat
  client : Storage.Client
  worker : Storage.Worker
  closed : Bool := false
  dropped : Bool := false

structure StoredStatement where
  connection : ConnectionId
  sql : String
  returnKeys : Bool
  parameters : List StoredValue := []
  batch : List (List StoredValue) := []
  keys : List Value := []
  closed : Bool := false
  dropped : Bool := false

structure StoredRows where
  connection : ConnectionId
  columns : Columns
  finished : Bool := false
  dropped : Bool := false

/-- The state of a store. The first database is the file's; what else there is belongs to one
connection each. Connections, statements and row sources are numbered in the order in which they
were opened. -/
structure Storage where
  options : StorageOptions := {}
  databases : List Storage.Database := [{}]
  connections : List StoredConnection := []
  statements : List StoredStatement := []
  rowSources : List StoredRows := []

namespace Storage

def create (options : StorageOptions) : Except Error Storage :=
  match options.path with
  | some path =>
      if path.toList.contains '/' then failWith (.connection "Failed to open SQLite database")
      else .ok { options := options }
  | none => .ok { options := options }

def script (text : String) : Action Storage Unit := fun storage =>
  if storage.options.isPrivate then ((Database.runScript {} text).1, storage)
  else
    let (result, database) := (storage.databases.headD {}).runScript text
    (result, { storage with databases := storage.databases.set 0 database })

def connection (storage : Storage) (id : ConnectionId) : StoredConnection :=
  storage.connections[id]?.getD ⟨0, {}, ⟨true, none, true⟩, true, true⟩

def statement (storage : Storage) (id : StatementId) : StoredStatement :=
  storage.statements[id]?.getD ⟨0, "", false, [], [], [], true, true⟩

def rowSource (storage : Storage) (id : RowsId) : StoredRows :=
  storage.rowSources[id]?.getD ⟨0, [], true, true⟩

def changeConnection (id : ConnectionId) (change : StoredConnection → StoredConnection)
    (storage : Storage) : Storage :=
  { storage with connections := storage.connections.modify id change }

def changeStatement (id : StatementId) (change : StoredStatement → StoredStatement)
    (storage : Storage) : Storage :=
  { storage with statements := storage.statements.modify id change }

def changeRows (id : RowsId) (change : StoredRows → StoredRows) (storage : Storage) : Storage :=
  { storage with rowSources := storage.rowSources.modify id change }

def engine : Engine Access where
  inTransaction := fun access => access.client.inTransaction
  begin := Access.begin
  commit := Access.commit
  rollback := Access.rollback
  prepare := Access.prepare
  bind := fun sql parameters => do let _ ← Access.bind sql parameters
  execute := Access.execute
  query := Access.query
  lastKey := Access.lastNumber

def workplace (storage : Storage) (id : ConnectionId) : Access × Worker :=
  let connection := storage.connection id
  (⟨storage.databases[connection.database]?.getD {}, connection.client⟩, connection.worker)

def setWorkplace (id : ConnectionId) (storage : Storage) : Access × Worker → Storage
  | (access, worker) =>
      { storage with
        databases := storage.databases.set (storage.connection id).database access.database
        connections := storage.connections.modify id
          ({ · with client := access.client, worker := worker }) }

section

variable (engine : Engine Access)

def ask (id : ConnectionId) (command : Command) : Action Storage command.Answer :=
  (Worker.answer engine command).within (workplace · id) (setWorkplace id)

def connect (autocommit : Bool) : Action Storage ConnectionId := do
  let storage ← get
  let (place, added) : Nat × List Database :=
    if storage.options.isPrivate then (storage.databases.length, [{}]) else (0, [])
  let connection : StoredConnection :=
    { database := place, client := {}, worker := { autocommit := autocommit } }
  set { storage with
    databases := storage.databases ++ added
    connections := storage.connections ++ [connection] }
  return storage.connections.length

def requireOpen (id : ConnectionId) : Action Storage Unit := do
  if ((← get).connection id).closed then failWith (.closed "SQLite connection is closed")

def commit (id : ConnectionId) : Action Storage Unit := do
  requireOpen id
  ask engine id .commit

def rollback (id : ConnectionId) : Action Storage Unit := do
  requireOpen id
  ask engine id .rollback

def closeConnection (id : ConnectionId) : Action Storage Unit := do
  if ((← get).connection id).closed then return ()
  modify (changeConnection id ({ · with closed := true }))
  (ask engine id .shutdown).quietly

def prepare (id : ConnectionId) (sql : String) (options : PrepareOptions) :
    Action Storage StatementId := do
  requireOpen id
  ask engine id (.prepare sql)
  let storage ← get
  let statement : StoredStatement :=
    { connection := id, sql := sql, returnKeys := options.returnKeys }
  set { storage with statements := storage.statements ++ [statement] }
  return storage.statements.length

def openStatement (id : StatementId) : Action Storage StoredStatement := do
  let statement ← Action.read (·.statement id)
  if statement.closed then failWith (.closed s!"statement `{statement.sql}` is closed")
  return statement

def setParameter (id : StatementId) (position : Nat) (value : Value) : Action Storage Unit := do
  let _ ← openStatement id
  if position = 0 then failWith (.execution "parameter indexes start at 1")
  modify (changeStatement id fun statement =>
    { statement with
      parameters := placeParameter .null statement.parameters position (.ofValue value) })

def clearParameters (id : StatementId) : Action Storage Unit :=
  modify (changeStatement id ({ · with parameters := [] }))

def setKeys (id : StatementId) (keys : List Value) : Action Storage Unit :=
  modify (changeStatement id ({ · with keys := keys }))

def update (id : StatementId) : Action Storage Nat := do
  let statement ← openStatement id
  let (count, keys) ← ask engine statement.connection
    (.execute statement.sql statement.parameters statement.returnKeys)
  setKeys id keys
  return count

def query (id : StatementId) : Action Storage ResultSet := do
  let statement ← openStatement id
  let (columns, rows) ← ask engine statement.connection (.query statement.sql statement.parameters)
  return { rows := rows.map fun cells => ⟨columns, cells.map StoredValue.toValue⟩
           columns := some columns }

def openRows (id : StatementId) : Action Storage RowsId := do
  let statement ← openStatement id
  let columns ← ask engine statement.connection (.openCursor statement.sql statement.parameters)
  let storage ← get
  set { storage with
    rowSources := storage.rowSources ++ [StoredRows.mk statement.connection columns false false] }
  return storage.rowSources.length

def addBatch (id : StatementId) : Action Storage Unit := do
  let _ ← openStatement id
  modify (changeStatement id fun statement =>
    { statement with batch := statement.batch ++ [statement.parameters] })

def executeBatch (id : StatementId) : Action Storage (List Nat) := do
  let statement ← openStatement id
  modify (changeStatement id ({ · with batch := [] }))
  let (counts, keys) ← ask engine statement.connection
    (.executeBatch statement.sql statement.batch statement.returnKeys)
  setKeys id keys
  return counts

def generatedKeys (id : StatementId) : Action Storage (List Value) := do
  let statement ← Action.read (·.statement id)
  setKeys id []
  return statement.keys

def closeStatement (id : StatementId) : Action Storage Unit :=
  modify (changeStatement id ({ · with closed := true, batch := [] }))

def closeRows (id : RowsId) : Action Storage Unit := do
  let source ← Action.read (·.rowSource id)
  if source.finished then return ()
  modify (changeRows id ({ · with finished := true }))
  ask engine source.connection .cursorClose

def nextRow (id : RowsId) : Action Storage (Option Row) := do
  let source ← Action.read (·.rowSource id)
  if source.finished then return none
  match ← ask engine source.connection .cursorNext with
  | some cells => return some ⟨source.columns, cells.map StoredValue.toValue⟩
  | none =>
      closeRows engine id
      return none

def isHeld (storage : Storage) (id : ConnectionId) : Bool :=
  !(storage.connection id).dropped
    || storage.statements.any (fun statement => statement.connection == id && !statement.dropped)
    || storage.rowSources.any (fun source => source.connection == id && !source.dropped)

def release (id : ConnectionId) (storage : Storage) : Storage :=
  if storage.isHeld id then storage else ((ask engine id .shutdown).run storage).2

def dropConnection (id : ConnectionId) (storage : Storage) : Storage :=
  release engine id (changeConnection id ({ · with dropped := true }) storage)

def dropStatement (id : StatementId) (storage : Storage) : Storage :=
  release engine (storage.statement id).connection
    (changeStatement id ({ · with dropped := true }) storage)

def dropRows (id : RowsId) (storage : Storage) : Storage :=
  let storage := ((closeRows engine id).run storage).2
  release engine (storage.rowSource id).connection (changeRows id ({ · with dropped := true }) storage)

def sourceOver : DataSource Storage where
  connect := connect
  isAutocommit := fun storage id => (storage.connection id).worker.autocommit
  commit := commit engine
  rollback := rollback engine
  closeConnection := closeConnection engine
  dropConnection := dropConnection engine
  prepare := prepare engine
  sql := fun storage id => (storage.statement id).sql
  setParameter := setParameter
  registerOutput := fun _ _ _ => DataSource.refuseOutput
  output := fun _ _ => DataSource.refuseOutput
  clearParameters := clearParameters
  update := update engine
  query := query engine
  openRows := openRows engine
  addBatch := addBatch
  executeBatch := executeBatch engine
  generatedKeys := generatedKeys
  closeStatement := closeStatement
  isClosed := fun storage id => (storage.statement id).closed
  dropStatement := dropStatement engine
  columns := fun storage id => (storage.rowSource id).columns
  nextRow := nextRow engine
  closeRows := closeRows engine
  dropRows := dropRows engine

end

def source : DataSource Storage :=
  sourceOver engine

end Storage

end MappedSql
