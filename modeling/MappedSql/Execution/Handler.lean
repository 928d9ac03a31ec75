import MappedSql.Configuration

namespace MappedSql

/-- How a unit of work runs: its configuration, its data source, and interceptors that stand around
its calls besides those of the configuration. -/
structure Pipeline (σ : Type) where
  configuration : Configuration σ
  source : DataSource σ
  extra : Chain σ := []

namespace Pipeline

variable {σ α : Type} (pipeline : Pipeline σ)

def setting : CompileSetting :=
  pipeline.configuration.setting

def chain : Stage → Chain σ
  | .executor => pipeline.configuration.chain ++ pipeline.extra
  | _ => pipeline.configuration.chain

def call (shape : Shape α) (method : Method) (args : Args) (target : Args → Work σ α) :
    Work σ α :=
  Chain.around pipeline.source (pipeline.chain method.stage) shape method target args

def refuse (method : Method) (args : Args) : Work σ α :=
  Chain.refuse pipeline.source method args

end Pipeline

structure Handler where
  statement : MappedStatement
  bound : BoundSql
  bounds : RowBounds

namespace Handler

variable {σ : Type} (pipeline : Pipeline σ)

def forParameter (statement : MappedStatement) : Work σ Handler := do
  let bound ← statement.boundSql (← Work.parameter) pipeline.setting
  return ⟨statement, bound, .unbounded⟩

variable (handler : Handler)

def effectiveTimeout (transactionTimeout : Option Nat) : Option Nat :=
  match handler.statement.timeout.or pipeline.configuration.settings.statementTimeout,
      transactionTimeout with
  | some own, some limit => some (min own limit)
  | own, limit => own.or limit

def prepareOptions (transactionTimeout : Option Nat) : PrepareOptions where
  timeout := handler.effectiveTimeout pipeline transactionTimeout
  fetchSize := handler.statement.fetchSize.or pipeline.configuration.settings.fetchSize
  scrolling := handler.statement.scrolling
  returnKeys := handler.statement.keys.isEnabled
  callable := handler.statement.isCallable

def preparedSql : String :=
  pipeline.configuration.settings.markerStyle.number handler.bound.sql

def prepareOn (connection : ConnectionId) (timeout : Option Nat) : Work σ StatementId :=
  (Work.onSource
    (pipeline.source.prepare connection (handler.preparedSql pipeline)
      (handler.prepareOptions pipeline timeout))).inContext
    s!"Error preparing statement `{handler.statement.id}`"

def prepare (connection : ConnectionId) (timeout : Option Nat) : Work σ StatementId :=
  pipeline.call .statement .prepare (.prepare connection timeout) fun
    | .prepare connection timeout => handler.prepareOn pipeline connection timeout
    | args => pipeline.refuse .prepare args

def prepareInTransaction : Work σ StatementId := do
  let timeout := (← Work.executor).transaction.timeout
  let connection ← Work.onTransaction (Transaction.obtain pipeline.source)
  handler.prepare pipeline connection timeout

def bindOne (statement : StatementId) (position : Nat) (mapping : ParameterMapping) :
    Work σ Unit := do
  let value ← withContext (fun _ => s!"statement `{handler.statement.id}`")
    (handler.bound.parameterValue mapping)
  let bind : Work σ Unit := do
    let converted ← mapping.handler.bind value mapping.dbType
    Work.onSource (pipeline.source.setParameter statement position converted)
  bind.inContext
    s!"Could not set parameter #{position} ({mapping.property}) of `{handler.statement.id}`"

/-- Binds the values of the markers from a position on, except those that are only read back. -/
def bindFrom (statement : StatementId) (position : Nat) : List ParameterMapping → Work σ Unit
  | [] => return ()
  | mapping :: rest => do
      if mapping.direction != .output then
        handler.bindOne pipeline statement position mapping
      bindFrom statement (position + 1) rest

def setParameters (statement : StatementId) : Work σ Unit :=
  pipeline.call .unit .setParameters (.statement statement) fun
    | .statement statement => handler.bindFrom pipeline statement 1 handler.bound.mappings
    | args => pipeline.refuse .setParameters args

def outputType (mapping : ParameterMapping) : Except Error DbType :=
  match mapping.dbType with
  | some type => .ok type
  | none =>
      if mapping.type = .cursor then .ok .cursor
      else failWith (.execution
        (s!"The jdbcType must be specified for output parameter `{mapping.property}`" ++
          s!" of `{handler.statement.id}`"))

def registerFrom (statement : StatementId) (position : Nat) : List ParameterMapping → Work σ Unit
  | [] => return ()
  | mapping :: rest => do
      if mapping.direction.isOutput then
        let type ← handler.outputType mapping
        Work.onSource (pipeline.source.registerOutput statement position (some type))
      registerFrom statement (position + 1) rest

def supply (statement : StatementId) : Work σ Unit :=
  match handler.statement.kind with
  | .plain => return ()
  | .prepared => handler.setParameters pipeline statement
  | .callable => do
      handler.registerFrom pipeline statement 1 handler.bound.mappings
      handler.setParameters pipeline statement

def parameterize (statement : StatementId) : Work σ Unit :=
  pipeline.call .unit .parameterize (.statement statement) fun
    | .statement statement => handler.supply pipeline statement
    | args => pipeline.refuse .parameterize args

def addBatch (statement : StatementId) : Work σ Unit :=
  pipeline.call .unit .addBatch (.statement statement) fun
    | .statement statement => Work.onSource (pipeline.source.addBatch statement)
    | args => pipeline.refuse .addBatch args

def mapResults (results : ResultSet) : Work σ (List Value) :=
  pipeline.call .rows .mapResults (.resultSet results) fun
    | .resultSet results => results.mapRows handler.statement.mapper handler.bounds
    | args => pipeline.refuse .mapResults args

def mapCursor (rows : RowsId) : Work σ Cursor :=
  pipeline.call .cursor .mapCursor (.rowSource rows) fun
    | .rowSource rows =>
        return { rows := some rows, mapper := handler.statement.mapper, bounds := handler.bounds }
    | args => pipeline.refuse .mapCursor args

def readFrom (statement : StatementId) (position : Nat) : List ParameterMapping → Work σ Unit
  | [] => return ()
  | mapping :: rest => do
      if mapping.direction.isOutput then
        let value ← Work.onSource (pipeline.source.output statement position)
        Work.setParameter (← (← Work.parameter).setPath mapping.property value)
      readFrom statement (position + 1) rest

def readOutputs (statement : StatementId) : Work σ Unit :=
  pipeline.call .unit .readOutputs (.statementWithParameter statement) fun
    | .statementWithParameter statement =>
        readFrom pipeline statement 1 handler.bound.mappings
    | args => pipeline.refuse .readOutputs args

def assignKeys (statement : StatementId) : Work σ Unit := do
  if handler.statement.keys.isEnabled then
    let keys ← Work.onSource (pipeline.source.generatedKeys statement)
    let (assigned, result) := handler.statement.keys.assignKeys (← Work.parameter) keys
    Work.setParameter assigned
    result

def executeUpdate (statement : StatementId) : Work σ Nat := do
  let count ← Work.onSource (pipeline.source.update statement)
  handler.assignKeys pipeline statement
  if handler.statement.isCallable then handler.readOutputs pipeline statement
  return count

def update (statement : StatementId) : Work σ Nat :=
  pipeline.call .count .runUpdate (.statementWithParameter statement) fun
    | .statementWithParameter statement => handler.executeUpdate pipeline statement
    | args => pipeline.refuse .runUpdate args

def query (statement : StatementId) : Work σ (List Value) :=
  pipeline.call .rows .runQuery (.statement statement) fun
    | .statement statement => do
        let results ← Work.onSource (pipeline.source.query statement)
        handler.mapResults pipeline results
    | args => pipeline.refuse .runQuery args

/-- Opens a cursor that owns the statement; without a cursor the statement is closed. -/
def openCursor (statement : StatementId) : Work σ Cursor := do
  let opened : Work σ Cursor := do
    let rows ← Work.onSource (pipeline.source.openRows statement)
    handler.mapCursor pipeline rows
  match ← opened.attempt with
  | .ok cursor =>
      let (_, cursor) ← Work.onSource
        (Action.beside cursor (Cursor.attachStatement pipeline.source statement))
      return cursor
  | .error e => do
      (Work.onSource (pipeline.source.finishStatement statement)).quietly
      throw e

def queryCursor (statement : StatementId) : Work σ Cursor :=
  pipeline.call .cursor .runCursor (.ownedStatement statement) fun
    | .ownedStatement statement => handler.openCursor pipeline statement
    | args => pipeline.refuse .runCursor args

end Handler

end MappedSql
