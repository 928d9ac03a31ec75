import MappedSql.Rows.Basic
import MappedSql.Storage.Sql.Statement

namespace MappedSql.Storage

/-- What a column of a row holds when it is given a value; nothing if it is left without a value
that it needs. -/
def Column.cell? (column : Column) (number : Nat) (given : StoredValue) : Option StoredValue :=
  if column.numbered then some (.integer (Int64.ofNat number))
  else if column.required && given.isNull then none
  else some (column.affinity.apply given)

structure Table where
  name : String
  columns : List Column
  rows : List (Nat × List StoredValue) := []
  lastNumber : Nat := 0

namespace Table

def isNamed (name : String) (table : Table) : Bool :=
  Text.equalIgnoringCase table.name name

def column? (table : Table) (name : String) : Option Column :=
  table.columns.find? (Text.equalIgnoringCase ·.name name)

def canSet (table : Table) (name : String) : Bool :=
  (table.column? name).any (!·.numbered)

def valueIn (table : Table) (cells : List StoredValue) (name : String) : StoredValue :=
  ((table.columns.zip cells).find? (Text.equalIgnoringCase ·.1.name name)).elim .null (·.2)

end Table

namespace Sql

def Operand.value (parameters : List StoredValue) : Operand → StoredValue
  | literal value => value
  | parameter position => parameters[position - 1]?.getD .null

def Condition.column : Condition → String
  | equal column _ | atLeast column _ | oneOf column _ => column

/-- How a row compares with an operand in a column, which turns the operand into its own kind. -/
def compareIn (table : Table) (cells : List StoredValue) (column : String) (operand : StoredValue) :
    Option Ordering :=
  let affinity := (table.column? column).elim .none Column.affinity
  (table.valueIn cells column).compare? (affinity.apply operand)

def Condition.holds (parameters : List StoredValue) (table : Table) (cells : List StoredValue) :
    Condition → Bool
  | equal column operand =>
      compareIn table cells column (operand.value parameters) == some .eq
  | atLeast column operand =>
      (compareIn table cells column (operand.value parameters)).any Ordering.isGE
  | oneOf column operands =>
      operands.any fun operand =>
        compareIn table cells column (operand.value parameters) == some .eq

def meets (parameters : List StoredValue) (conditions : List Condition) (table : Table)
    (row : Nat × List StoredValue) : Bool :=
  conditions.all (·.holds parameters table row.2)

end Sql

namespace Table

open Sql

def insert? (table : Table) (given : List (String × StoredValue)) : Option Table := do
  let number := table.lastNumber + 1
  let cells ← table.columns.mapM fun column =>
    let value := (given.find? (Text.equalIgnoringCase ·.1 column.name)).map (·.2)
    column.cell? number (value.getD .null)
  return { table with rows := table.rows ++ [(number, cells)], lastNumber := number }

def update? (table : Table) (name : String) (value : StoredValue)
    (chosen : Nat × List StoredValue → Bool) : Option Table := do
  let rows ← table.rows.mapM fun row =>
    if chosen row then do
      let cells ← (table.columns.zip row.2).mapM fun (column, cell) =>
        if Text.equalIgnoringCase column.name name then column.cell? row.1 value else some cell
      return (row.1, cells)
    else some row
  return { table with rows := rows }

def delete (table : Table) (chosen : Nat × List StoredValue → Bool) : Table :=
  { table with rows := table.rows.filter (!chosen ·) }

def chosen (table : Table) (order : Option String) (chosen : Nat × List StoredValue → Bool) :
    List (List StoredValue) :=
  let rows := (table.rows.filter chosen).map (·.2)
  match order with
  | none => rows
  | some column =>
      rows.mergeSort fun a b =>
        ((table.valueIn a column).order (table.valueIn b column)).isLE

def select (table : Table) (rows : List (List StoredValue)) : Selection → List (List StoredValue)
  | .columns names => rows.map fun cells => names.map (table.valueIn cells)
  | .count _ => [[.integer (Int64.ofNat rows.length)]]

def headings (table : Table) : Selection → Columns
  | .columns names => names.map fun name => (table.column? name).elim name Column.name
  | .count heading => [heading]

end Table

end MappedSql.Storage
