import MappedSql.Database.Basic

/-!
# A recording database

A data source without a database behind it. It logs every execution, answers queries with the rows
that a script gives for a fragment of the SQL, and counts what is acquired and released.
-/

namespace MappedSql

structure ScriptedRows where
  fragment : String
  columns : Columns
  rows : List (List Value)

structure Script where
  answers : List ScriptedRows := []
  updateCount : Nat := 1
  failing : List String := []
  outputs : List (Nat × Value) := []

structure Counters where
  connectionsOpened : Nat := 0
  connectionsClosed : Nat := 0
  prepared : Nat := 0
  statementsClosed : Nat := 0
  updates : Nat := 0
  queries : Nat := 0
  batches : Nat := 0
  cursorsOpened : Nat := 0
  cursorsClosed : Nat := 0
  rowsFetched : Nat := 0
  commits : Nat := 0
  rollbacks : Nat := 0
  deriving DecidableEq, Repr

namespace Counters

def entries (counters : Counters) : List (String × Nat) :=
  [("connections_opened", counters.connectionsOpened),
    ("connections_closed", counters.connectionsClosed), ("prepared", counters.prepared),
    ("statements_closed", counters.statementsClosed), ("updates", counters.updates),
    ("queries", counters.queries), ("batches", counters.batches),
    ("cursors_opened", counters.cursorsOpened), ("cursors_closed", counters.cursorsClosed),
    ("rows_fetched", counters.rowsFetched), ("commits", counters.commits),
    ("rollbacks", counters.rollbacks)]

def growth (before after : Counters) : List (String × Nat) :=
  (after.entries.zip before.entries).filterMap fun ((name, new), (_, old)) =>
    if old < new then some (name, new - old) else none

end Counters

structure Execution where
  sql : String
  parameters : List Value

structure RecordedConnection where
  autocommit : Bool
  closed : Bool := false

structure RecordedStatement where
  sql : String
  options : PrepareOptions
  parameters : List Value := []
  batch : List (List Value) := []
  keys : List Value := []
  registered : List Nat := []
  closed : Bool := false

structure RecordedRows where
  columns : Columns
  rows : List (List Value)
  closed : Bool := false

/-- The state of a recording database. Connections, statements and row sources are numbered in the
order in which they were opened. -/
structure Recording where
  script : Script := {}
  counters : Counters := {}
  log : List Execution := []
  nextKey : Nat := 1
  connections : List RecordedConnection := []
  statements : List RecordedStatement := []
  rowSources : List RecordedRows := []

def beginsWith (cs fragment : List Char) : Bool :=
  fragment.isPrefixOf cs

def containsFragment (fragment : List Char) : List Char → Bool
  | [] => fragment.isEmpty
  | c :: rest => beginsWith (c :: rest) fragment || containsFragment fragment rest

def mentions (sql fragment : String) : Bool :=
  containsFragment fragment.toList sql.toList

namespace Script

def rowsFor (script : Script) (sql : String) : Columns × List (List Value) :=
  match script.answers.find? fun answer => mentions sql answer.fragment with
  | some answer => (answer.columns, answer.rows)
  | none => ([], [])

def check (script : Script) (sql : String) : Except Error Unit :=
  match script.failing.find? (mentions sql) with
  | some fragment => failWith (.execution s!"scripted failure for `{fragment}`")
  | none => .ok ()

def output (script : Script) (position : Nat) : Value :=
  (script.outputs.reverse.lookup position).getD .null

end Script

namespace Recording

def count (change : Counters → Counters) : Action Recording Unit :=
  modify fun recording => { recording with counters := change recording.counters }

def statement (recording : Recording) (id : StatementId) : RecordedStatement :=
  recording.statements[id]?.getD ⟨"", {}, [], [], [], [], true⟩

def setStatement (id : StatementId) (change : RecordedStatement → RecordedStatement) :
    Action Recording Unit :=
  modify fun recording => { recording with statements := recording.statements.modify id change }

def rowSource (recording : Recording) (id : RowsId) : RecordedRows :=
  recording.rowSources[id]?.getD ⟨[], [], true⟩

def setRows (id : RowsId) (change : RecordedRows → RecordedRows) : Action Recording Unit :=
  modify fun recording => { recording with rowSources := recording.rowSources.modify id change }

def isConnectionClosed (recording : Recording) (id : ConnectionId) : Bool :=
  recording.connections[id]?.all (·.closed)

def openStatement (id : StatementId) : Action Recording RecordedStatement := do
  let statement ← Action.read (·.statement id)
  if statement.closed then failWith (.closed s!"statement `{statement.sql}` is closed")
  return statement

def record (sql : String) (parameters : List Value) : Action Recording Unit :=
  modify fun recording => { recording with log := recording.log ++ [Execution.mk sql parameters] }

def takeKey : Action Recording Value := do
  let recording ← get
  set { recording with nextKey := recording.nextKey + 1 }
  return .int (Int64.ofNat recording.nextKey)

def connect (autocommit : Bool) : Action Recording ConnectionId := do
  let recording ← get
  let connection : RecordedConnection := { autocommit := autocommit }
  set { recording with connections := recording.connections ++ [connection] }
  count fun counters => { counters with connectionsOpened := counters.connectionsOpened + 1 }
  return recording.connections.length

def isAutocommit (recording : Recording) (connection : ConnectionId) : Bool :=
  recording.connections[connection]?.any (·.autocommit)

def commit (_connection : ConnectionId) : Action Recording Unit :=
  count fun counters => { counters with commits := counters.commits + 1 }

def rollback (_connection : ConnectionId) : Action Recording Unit :=
  count fun counters => { counters with rollbacks := counters.rollbacks + 1 }

def closeConnection (connection : ConnectionId) : Action Recording Unit := do
  if isConnectionClosed (← get) connection then return ()
  modify fun recording =>
    { recording with
      connections := recording.connections.modify connection ({ · with closed := true }) }
  count fun counters => { counters with connectionsClosed := counters.connectionsClosed + 1 }

def prepare (connection : ConnectionId) (sql : String) (options : PrepareOptions) :
    Action Recording StatementId := do
  let recording ← get
  if recording.isConnectionClosed connection then
    failWith (.closed "mock connection is closed")
  let statement : RecordedStatement := { sql := sql, options := options }
  set { recording with statements := recording.statements ++ [statement] }
  count fun counters => { counters with prepared := counters.prepared + 1 }
  return recording.statements.length

def setParameter (id : StatementId) (position : Nat) (value : Value) : Action Recording Unit := do
  let _ ← openStatement id
  if position = 0 then failWith (.execution "parameter indexes start at 1")
  setStatement id fun statement =>
    { statement with parameters := placeParameter .null statement.parameters position value }

def registerOutput (id : StatementId) (position : Nat) (_type : Option DbType) :
    Action Recording Unit := do
  let statement ← Action.read (·.statement id)
  if !statement.options.callable then
    failWith (.execution "OUT parameters need a callable statement")
  setStatement id fun statement =>
    { statement with registered := position :: statement.registered }

def output (id : StatementId) (position : Nat) : Action Recording Value := do
  let recording ← get
  if !(recording.statement id).registered.contains position then
    failWith (.execution s!"parameter #{position} was not registered as OUT")
  return recording.script.output position

def clearParameters (id : StatementId) : Action Recording Unit :=
  setStatement id fun statement => { statement with parameters := [] }

def update (id : StatementId) : Action Recording Nat := do
  let statement ← openStatement id
  let script ← Action.read Recording.script
  script.check statement.sql
  record statement.sql statement.parameters
  count fun counters => { counters with updates := counters.updates + 1 }
  let keys ← if statement.options.returnKeys then (do return [← takeKey]) else pure []
  setStatement id fun statement => { statement with keys := keys }
  return script.updateCount

def answer (id : StatementId) : Action Recording (Columns × List (List Value)) := do
  let statement ← openStatement id
  let script ← Action.read Recording.script
  script.check statement.sql
  record statement.sql statement.parameters
  return script.rowsFor statement.sql

def query (id : StatementId) : Action Recording ResultSet := do
  let (columns, rows) ← answer id
  count fun counters => { counters with queries := counters.queries + 1 }
  return { rows := rows.map fun values => ⟨columns, values⟩, columns := some columns }

def openRows (id : StatementId) : Action Recording RowsId := do
  let (columns, rows) ← answer id
  count fun counters => { counters with cursorsOpened := counters.cursorsOpened + 1 }
  let recording ← get
  set { recording with rowSources := recording.rowSources ++ [RecordedRows.mk columns rows false] }
  return recording.rowSources.length

def addBatch (id : StatementId) : Action Recording Unit := do
  let _ ← openStatement id
  setStatement id fun statement =>
    { statement with batch := statement.batch ++ [statement.parameters], parameters := [] }

def runEntries (sql : String) (returnKeys : Bool) :
    List (List Value) → Action Recording (List Value)
  | [] => return []
  | parameters :: rest => do
      record sql parameters
      let key ← if returnKeys then (do return [← takeKey]) else pure []
      return key ++ (← runEntries sql returnKeys rest)

def executeBatch (id : StatementId) : Action Recording (List Nat) := do
  let statement ← openStatement id
  let script ← Action.read Recording.script
  script.check statement.sql
  count fun counters => { counters with batches := counters.batches + 1 }
  let keys ← runEntries statement.sql statement.options.returnKeys statement.batch
  setStatement id fun statement => { statement with batch := [], keys := keys }
  return List.replicate statement.batch.length script.updateCount

def generatedKeys (id : StatementId) : Action Recording (List Value) := do
  let statement ← Action.read (·.statement id)
  setStatement id fun statement => { statement with keys := [] }
  return statement.keys

def closeStatement (id : StatementId) : Action Recording Unit := do
  if ((← get).statement id).closed then return ()
  setStatement id fun statement => { statement with closed := true }
  count fun counters => { counters with statementsClosed := counters.statementsClosed + 1 }

def nextRow (id : RowsId) : Action Recording (Option Row) := do
  let source ← Action.read (·.rowSource id)
  if source.closed then return none
  match source.rows with
  | [] => return none
  | values :: rest =>
      setRows id fun source => { source with rows := rest }
      count fun counters => { counters with rowsFetched := counters.rowsFetched + 1 }
      return some ⟨source.columns, values⟩

def closeRows (id : RowsId) : Action Recording Unit := do
  if ((← get).rowSource id).closed then return ()
  setRows id fun source => { source with closed := true }
  count fun counters => { counters with cursorsClosed := counters.cursorsClosed + 1 }

def source : DataSource Recording where
  connect := connect
  isAutocommit := isAutocommit
  commit := commit
  rollback := rollback
  closeConnection := closeConnection
  dropConnection := fun _ recording => recording
  prepare := prepare
  sql := fun recording id => (recording.statement id).sql
  setParameter := setParameter
  registerOutput := registerOutput
  output := output
  clearParameters := clearParameters
  update := update
  query := query
  openRows := openRows
  addBatch := addBatch
  executeBatch := executeBatch
  generatedKeys := generatedKeys
  closeStatement := closeStatement
  isClosed := fun recording id => (recording.statement id).closed
  dropStatement := fun _ recording => recording
  columns := fun recording id => (recording.rowSource id).columns
  nextRow := nextRow
  closeRows := closeRows
  dropRows := fun _ recording => recording

end Recording

end MappedSql
