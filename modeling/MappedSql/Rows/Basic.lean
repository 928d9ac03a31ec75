import MappedSql.Value.Basic

namespace MappedSql

abbrev Columns := List String

namespace Columns

def lastPosition? (columns : Columns) (name : String) : Option Nat :=
  ((columns.zipIdx.filter (·.1 = name)).getLast?).map (·.2)

def position? (columns : Columns) (name : String) : Option Nat :=
  (lastPosition? columns name).or (columns.findIdx? (Text.equalIgnoringCase · name))

end Columns

structure Row where
  columns : Columns
  values : List Value

namespace Row

def get? (row : Row) (name : String) : Option Value :=
  (Columns.position? row.columns name).bind fun position => row.values[position]?

def pairs (row : Row) : List (String × Value) :=
  row.columns.zip row.values

end Row

structure ResultSet where
  rows : List Row := []
  columns : Option Columns := none

namespace ResultSet

def withColumns (results : ResultSet) (columns : Columns) : ResultSet :=
  { results with columns := some columns }

def addValues (results : ResultSet) (values : List Value) : ResultSet :=
  match results.columns with
  | some columns => { results with rows := results.rows ++ [⟨columns, values⟩] }
  | none => results

def addRow (results : ResultSet) (row : Row) : ResultSet :=
  { results with
    rows := results.rows ++ [row]
    columns := results.columns.or (some row.columns) }

end ResultSet

end MappedSql
