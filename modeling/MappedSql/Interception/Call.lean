import MappedSql.Execution.State
import MappedSql.Interception.Method
import MappedSql.Statement.Mapped

namespace MappedSql

inductive Args
  | none
  | flag (required : Bool)
  | update (statement : MappedStatement)
  | query (statement : MappedStatement) (parameter : Value) (bounds : RowBounds)
  | keyedQuery (statement : MappedStatement) (parameter : Value) (bounds : RowBounds)
      (key : CacheKey) (bound : BoundSql)
  | prepare (connection : ConnectionId) (timeout : Option Nat)
  | statement (statement : StatementId)
  | statementWithParameter (statement : StatementId)
  | ownedStatement (statement : StatementId)
  | resultSet (results : ResultSet)
  | rowSource (rows : RowsId)

namespace Args

def kind : Args → String
  | none => "none"
  | flag _ => "flag"
  | update _ => "update"
  | query _ _ _ => "query"
  | keyedQuery _ _ _ _ _ => "query-with-key"
  | prepare _ _ => "prepare"
  | statement _ => "statement"
  | statementWithParameter _ => "statement-with-parameter"
  | ownedStatement _ => "owned-statement"
  | resultSet _ => "result-set"
  | rowSource _ => "row-source"

def fit (method : Method) : Args → Bool
  | none => method == .flush
  | flag _ => method == .commit || method == .rollback
  | update _ => method == .update
  | query _ _ _ => method == .query || method == .queryCursor
  | keyedQuery _ _ _ _ _ => method == .keyedQuery
  | prepare _ _ => method == .prepare
  | statement _ =>
      method == .parameterize || method == .addBatch || method == .runQuery ||
        method == .setParameters
  | statementWithParameter _ => method == .runUpdate || method == .readOutputs
  | ownedStatement _ => method == .runCursor
  | resultSet _ => method == .mapResults
  | rowSource _ => method == .mapCursor

variable {σ : Type} (source : DataSource σ)

def drop (args : Args) (state : σ) : σ :=
  match args with
  | .ownedStatement id => source.dropStatement id state
  | .rowSource id => source.dropRows id state
  | _ => state

end Args

inductive Outcome
  | unit
  | count (n : Nat)
  | rows (values : List Value)
  | batches (results : List BatchResult)
  | statement (statement : StatementId)
  | cursor (cursor : Cursor)

namespace Outcome

def kind : Outcome → String
  | unit => "unit"
  | count _ => "a count"
  | rows _ => "rows"
  | batches _ => "batch results"
  | statement _ => "a statement"
  | cursor _ => "a cursor"

variable {σ : Type} (source : DataSource σ)

def drop (outcome : Outcome) (state : σ) : σ :=
  match outcome with
  | .statement id => source.dropStatement id state
  | .cursor unused => unused.drop source state
  | _ => state

end Outcome

structure Shape (α : Type) where
  kind : String
  wrap : α → Outcome
  unwrap? : Outcome → Option α

namespace Shape

def unit : Shape Unit :=
  ⟨"unit", fun _ => .unit, fun | .unit => some () | _ => none⟩

def count : Shape Nat :=
  ⟨"a count", .count, fun | .count n => some n | _ => none⟩

def rows : Shape (List Value) :=
  ⟨"rows", .rows, fun | .rows values => some values | _ => none⟩

def batches : Shape (List BatchResult) :=
  ⟨"batch results", .batches, fun | .batches results => some results | _ => none⟩

def statement : Shape StatementId :=
  ⟨"a statement", .statement, fun | .statement id => some id | _ => none⟩

def cursor : Shape Cursor :=
  ⟨"a cursor", .cursor, fun | .cursor cursor => some cursor | _ => none⟩

end Shape

end MappedSql
