import MappedSql.Database.Basic
import MappedSql.Rows.Mapper

namespace MappedSql

inductive CursorState
  | created
  | opened
  | consumed
  | closed
  deriving DecidableEq, Repr

def CursorState.name : CursorState → String
  | created => "created"
  | opened => "open"
  | consumed => "consumed"
  | closed => "closed"

structure Cursor where
  rows : Option RowsId
  statement : Option StatementId := none
  mapper : RowMapper
  bounds : RowBounds
  state : CursorState := .created
  skipped : Bool := false
  yielded : Nat := 0

namespace Cursor

def isOpen (cursor : Cursor) : Bool :=
  cursor.state == .created || cursor.state == .opened

variable {σ : Type} (source : DataSource σ)

def update (change : Cursor → Cursor) : Action (σ × Cursor) Unit :=
  modify fun (state, cursor) => (state, change cursor)

def finishIfAny (finish : Nat → Action σ Unit) : Option Nat → Action σ Unit
  | some id => finish id
  | none => return ()

def release : Action (σ × Cursor) Unit := do
  let (_, cursor) ← get
  update fun cursor => { cursor with rows := none, statement := none }
  let rowsClosed ← (finishIfAny source.finishRows cursor.rows).attempt.onFirst
  let statementClosed ← (finishIfAny source.finishStatement cursor.statement).attempt.onFirst
  rowsClosed
  statementClosed

def close : Action (σ × Cursor) Unit := do
  update fun cursor =>
    { cursor with state := if cursor.state = .consumed then .consumed else .closed }
  release source

def drop (cursor : Cursor) (state : σ) : σ :=
  (close source (state, cursor)).2.1

/-- Hands the statement behind the rows to the cursor; a closed cursor closes it at once. -/
def attachStatement (statement : StatementId) : Action (σ × Cursor) Unit := do
  let (_, cursor) ← get
  if cursor.state = .closed then (source.finishStatement statement).quietly.onFirst
  else update fun cursor => { cursor with statement := some statement }

def skipRows (rows : RowsId) : Nat → Action σ Bool
  | 0 => return true
  | count + 1 => do
      match ← source.nextRow rows with
      | some _ => skipRows rows count
      | none => return false

def skipOffset (rows : RowsId) : Action (σ × Cursor) Bool := do
  let (_, cursor) ← get
  if cursor.skipped then return true
  update fun cursor => { cursor with skipped := true }
  (skipRows source rows cursor.bounds.offset).onFirst

def fetch : Action (σ × Cursor) (Option Value) := do
  let (_, cursor) ← get
  match cursor.rows with
  | none => return none
  | some rows =>
      if !(← skipOffset source rows) then return none
      if cursor.bounds.limit ≤ cursor.yielded then return none
      match ← (source.nextRow rows).onFirst with
      | some row => return some (← cursor.mapper.mapRow row)
      | none => return none

/-- The next row, if there is one. The cursor ends with the rows, and with the first failure. -/
def next : Action (σ × Cursor) (Option Value) := do
  let (_, cursor) ← get
  if !cursor.isOpen then return none
  update fun cursor => { cursor with state := .opened }
  match ← (fetch source).attempt with
  | .ok (some value) =>
      update fun cursor => { cursor with yielded := cursor.yielded + 1 }
      return some value
  | .ok none =>
      update fun cursor => { cursor with state := .consumed }
      (release source).quietly
      return none
  | .error e =>
      update fun cursor => { cursor with state := .closed }
      (release source).quietly
      throw e

end Cursor

end MappedSql
