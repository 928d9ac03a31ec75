import MappedSql.Action
import MappedSql.Rows.Basic

namespace MappedSql

inductive Scrolling
  | default
  | forwardOnly
  | insensitive
  | sensitive
  deriving DecidableEq, Repr

namespace Scrolling

def all : List Scrolling :=
  [default, forwardOnly, insensitive, sensitive]

def name : Scrolling → String
  | default => "default"
  | forwardOnly => "forward_only"
  | insensitive => "scroll_insensitive"
  | sensitive => "scroll_sensitive"

def ofName? (name : String) : Option Scrolling :=
  all.find? (·.name == name)

end Scrolling

/-- What is asked for when a statement is prepared. Timeouts are in seconds. -/
structure PrepareOptions where
  timeout : Option Nat := none
  fetchSize : Option Nat := none
  scrolling : Option Scrolling := none
  returnKeys : Bool := false
  callable : Bool := false
  deriving DecidableEq, Repr

/-- Sets the parameter at a position, counted from one; positions that were skipped are blank. -/
def placeParameter {α : Type} (blank : α) (parameters : List α) (position : Nat) (value : α) :
    List α :=
  (parameters ++ List.replicate (position - parameters.length) blank).set (position - 1) value

abbrev ConnectionId := Nat

abbrev StatementId := Nat

abbrev RowsId := Nat

/-- The operations of a data source on its state. Parameters are numbered from one. What is dropped
is not used again; dropping alone neither fails nor answers. -/
structure DataSource (σ : Type) where
  connect : Bool → Action σ ConnectionId
  isAutocommit : σ → ConnectionId → Bool
  commit : ConnectionId → Action σ Unit
  rollback : ConnectionId → Action σ Unit
  closeConnection : ConnectionId → Action σ Unit
  dropConnection : ConnectionId → σ → σ
  prepare : ConnectionId → String → PrepareOptions → Action σ StatementId
  sql : σ → StatementId → String
  setParameter : StatementId → Nat → Value → Action σ Unit
  registerOutput : StatementId → Nat → Option DbType → Action σ Unit
  output : StatementId → Nat → Action σ Value
  clearParameters : StatementId → Action σ Unit
  update : StatementId → Action σ Nat
  query : StatementId → Action σ ResultSet
  openRows : StatementId → Action σ RowsId
  addBatch : StatementId → Action σ Unit
  executeBatch : StatementId → Action σ (List Nat)
  generatedKeys : StatementId → Action σ (List Value)
  closeStatement : StatementId → Action σ Unit
  isClosed : σ → StatementId → Bool
  dropStatement : StatementId → σ → σ
  columns : σ → RowsId → Columns
  nextRow : RowsId → Action σ (Option Row)
  closeRows : RowsId → Action σ Unit
  dropRows : RowsId → σ → σ

namespace DataSource

variable {σ : Type} (source : DataSource σ)

def refuseOutput {α : Type} : Action σ α :=
  failWith (.unimplemented "output parameters are not supported by this driver")

def finishStatement (statement : StatementId) : Action σ Unit := do
  let closed ← (source.closeStatement statement).attempt
  modify (source.dropStatement statement)
  closed

def finishRows (rows : RowsId) : Action σ Unit := do
  let closed ← (source.closeRows rows).attempt
  modify (source.dropRows rows)
  closed

end DataSource

end MappedSql
