import MappedSql.Rows.Basic

namespace MappedSql

inductive RowMapper
  | map
  | scalar
  | record (typeName : String)
  deriving DecidableEq, Repr

def RowMapper.mapRow (mapper : RowMapper) (row : Row) : Except Error Value :=
  match mapper with
  | map => .ok (.map (Fields.ofList row.pairs))
  | record typeName => .ok (.record typeName (Fields.ofList row.pairs))
  | scalar =>
      match row.values with
      | value :: _ => .ok value
      | [] => failWith (.execution "scalar mapping of a row with no columns")

/-- How many rows are passed over and how many are mapped at most. -/
structure RowBounds where
  offset : Nat
  limit : Nat
  deriving DecidableEq, Repr

namespace RowBounds

def noLimit : Nat := Nat.pow 2 64 - 1

def unbounded : RowBounds := ⟨0, noLimit⟩

def select {α : Type} (bounds : RowBounds) (rows : List α) : List α :=
  (rows.drop bounds.offset).take bounds.limit

end RowBounds

def ResultSet.mapRows (results : ResultSet) (mapper : RowMapper) (bounds : RowBounds) :
    Except Error (List Value) :=
  (bounds.select results.rows).mapM mapper.mapRow

end MappedSql
