import MappedSql.Storage.Table

namespace MappedSql.Storage.Sql

/-- What became of the tables, the rows that are answered, the number of rows that were changed if
the statement changes rows, and the number of a row that was added. -/
structure Effect where
  tables : List Table
  rows : List (List StoredValue) := []
  changed : Option Nat := none
  inserted : Option Nat := none

def tableNamed? (tables : List Table) (name : String) : Option Table :=
  tables.find? (·.isNamed name)

def replaceTable (tables : List Table) (table : Table) : List Table :=
  tables.map fun other => if other.isNamed table.name then table else other

namespace Statement

def usesTables : Statement → Bool
  | empty | values _ => false
  | _ => true

def isQuery : Statement → Bool
  | select .. | values _ => true
  | _ => false

def isDefinition : Statement → Bool
  | createTable .. | dropTable _ => true
  | _ => false

def isChange : Statement → Bool
  | insert .. | update .. | delete .. => true
  | _ => false

def writes (statement : Statement) : Bool :=
  statement.isDefinition || statement.isChange

def conditionsFit (table : Table) (conditions : List Condition) : Bool :=
  conditions.all fun condition => (table.column? condition.column).isSome

def selectionFits (table : Table) : Selection → Bool
  | .columns names => names.all fun name => (table.column? name).isSome
  | .count _ => true

def fits (tables : List Table) : Statement → Bool
  | empty | values _ => true
  | createTable name _ => (tableNamed? tables name).isNone
  | dropTable name => (tableNamed? tables name).isSome
  | insert name columns _ => (tableNamed? tables name).any fun table => columns.all table.canSet
  | select selection name conditions order =>
      (tableNamed? tables name).any fun table =>
        selectionFits table selection && conditionsFit table conditions
          && order.all fun column => (table.column? column).isSome
  | update name column _ conditions =>
      (tableNamed? tables name).any fun table =>
        table.canSet column && conditionsFit table conditions
  | delete name conditions => (tableNamed? tables name).any (conditionsFit · conditions)

def headings (tables : List Table) : Statement → Columns
  | select selection name _ _ => (tableNamed? tables name).elim [] (·.headings selection)
  | values items => items.map (·.2)
  | _ => []

def effect? (parameters : List StoredValue) (tables : List Table) : Statement → Option Effect
  | empty => none
  | values items =>
      some { tables := tables, rows := [items.map fun item => item.1.value parameters] }
  | createTable name columns =>
      some { tables := tables ++ [{ name := name, columns := columns }] }
  | dropTable name => some { tables := tables.filter (!·.isNamed name) }
  | insert name columns operands => do
      let table ← tableNamed? tables name
      let table ← table.insert? (columns.zip (operands.map (·.value parameters)))
      return {
        tables := replaceTable tables table
        changed := some 1
        inserted := some table.lastNumber }
  | select selection name conditions order => do
      let table ← tableNamed? tables name
      let chosen := table.chosen order (meets parameters conditions table)
      return { tables := tables, rows := table.select chosen selection }
  | update name column operand conditions => do
      let table ← tableNamed? tables name
      let chosen := meets parameters conditions table
      let after ← table.update? column (operand.value parameters) chosen
      return { tables := replaceTable tables after, changed := some (table.rows.countP chosen) }
  | delete name conditions => do
      let table ← tableNamed? tables name
      let chosen := meets parameters conditions table
      return { tables := replaceTable tables (table.delete chosen)
               changed := some (table.rows.countP chosen) }

end Statement

end MappedSql.Storage.Sql
