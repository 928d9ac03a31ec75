import MappedSql.Error

namespace MappedSql

inductive Stage
  | executor
  | statementHandler
  | parameterHandler
  | resultSetHandler
  deriving DecidableEq, Repr

namespace Stage

def all : List Stage :=
  [executor, statementHandler, parameterHandler, resultSetHandler]

def name : Stage → String
  | executor => "Executor"
  | statementHandler => "StatementHandler"
  | parameterHandler => "ParameterHandler"
  | resultSetHandler => "ResultSetHandler"

def ofName? (name : String) : Option Stage :=
  all.find? (·.name == name)

end Stage

inductive Method
  | update
  | query
  | keyedQuery
  | queryCursor
  | flush
  | commit
  | rollback
  | prepare
  | parameterize
  | addBatch
  | runUpdate
  | runQuery
  | runCursor
  | setParameters
  | mapResults
  | mapCursor
  | readOutputs
  deriving DecidableEq, Repr

namespace Method

def all : List Method :=
  [update, query, keyedQuery, queryCursor, flush, commit, rollback, prepare, parameterize, addBatch,
    runUpdate, runQuery, runCursor, setParameters, mapResults, mapCursor, readOutputs]

def stage : Method → Stage
  | update | query | keyedQuery | queryCursor | flush | commit | rollback => .executor
  | prepare | parameterize | addBatch | runUpdate | runQuery | runCursor => .statementHandler
  | setParameters => .parameterHandler
  | mapResults | mapCursor | readOutputs => .resultSetHandler

def name : Method → String
  | update | runUpdate => "update"
  | query | keyedQuery | runQuery => "query"
  | queryCursor | runCursor => "query_cursor"
  | flush => "flush_statements"
  | commit => "commit"
  | rollback => "rollback"
  | prepare => "prepare"
  | parameterize => "parameterize"
  | addBatch => "batch"
  | setParameters => "set_parameters"
  | mapResults => "handle_result_sets"
  | mapCursor => "handle_cursor_result_sets"
  | readOutputs => "handle_output_parameters"

def argumentTypes : Method → List String
  | update => ["MappedStatement", "Value"]
  | query | queryCursor => ["MappedStatement", "Value", "RowBounds"]
  | keyedQuery => ["MappedStatement", "Value", "RowBounds", "CacheKey", "BoundSql"]
  | flush => []
  | commit | rollback => ["bool"]
  | prepare => ["Connection", "Duration"]
  | parameterize | addBatch | runQuery | runCursor | setParameters => ["Statement"]
  | runUpdate | readOutputs => ["Statement", "Value"]
  | mapResults => ["ResultSet"]
  | mapCursor => ["RowSource"]

end Method

structure Signature where
  stage : Stage
  method : String
  argumentTypes : List String
  deriving DecidableEq, Repr

def Method.signature (method : Method) : Signature :=
  ⟨method.stage, method.name, method.argumentTypes⟩

namespace Signature

def text (signature : Signature) : String :=
  signature.method ++ "(" ++ String.intercalate ", " signature.argumentTypes ++ ")"

def method? (signature : Signature) : Option Method :=
  Method.all.find? fun method => method.signature == signature

def resolveAll (interceptor : String) : List Signature → Except Error (List Method)
  | [] => .ok []
  | signature :: rest =>
      match signature.method? with
      | some method => return method :: (← resolveAll interceptor rest)
      | none =>
          failWith (.interception
            (s!"Could not find method on {signature.stage.name} named {signature.text}" ++
              s!" for interceptor `{interceptor}`"))

def resolve (interceptor : String) (signatures : List Signature) : Except Error (List Method) :=
  if signatures.isEmpty then
    failWith (.interception s!"interceptor `{interceptor}` declares no intercepted methods")
  else resolveAll interceptor signatures

end Signature

def Method.text (method : Method) : String :=
  s!"{method.stage.name}::{method.signature.text}"

end MappedSql
