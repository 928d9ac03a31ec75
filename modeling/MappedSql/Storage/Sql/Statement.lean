import MappedSql.Storage.Sql.Token

namespace MappedSql.Storage

/-- A column of a table. A numbered column holds the number of its row. -/
structure Column where
  name : String
  affinity : Affinity := .none
  required : Bool := false
  numbered : Bool := false
  deriving DecidableEq

namespace Sql

inductive Operand
  | literal (value : StoredValue)
  | parameter (position : Nat)
  deriving DecidableEq

inductive Condition
  | equal (column : String) (operand : Operand)
  | atLeast (column : String) (operand : Operand)
  | oneOf (column : String) (operands : List Operand)
  deriving DecidableEq

/-- What is asked of the rows that meet the conditions: columns of them, or how many there are. -/
inductive Selection
  | columns (names : List String)
  | count (heading : String)
  deriving DecidableEq

inductive Statement
  | empty
  | createTable (table : String) (columns : List Column)
  | dropTable (table : String)
  | insert (table : String) (columns : List String) (values : List Operand)
  | select (selection : Selection) (table : String) (conditions : List Condition)
      (order : Option String)
  | values (items : List (Operand × String))
  | update (table column : String) (value : Operand) (conditions : List Condition)
  | delete (table : String) (conditions : List Condition)
  deriving DecidableEq

def readOperand? : List Token → Option Operand
  | [.parameter (some position)] => some (.parameter position)
  | [.quoted text] => some (.literal (.text text))
  | [.number value] => (Number.int64? value).map fun n => .literal (.integer n)
  | [.mark "-", .number value] => (Number.int64? (-value)).map fun n => .literal (.integer n)
  | [.word "null" _] => some (.literal .null)
  | _ => none

def readOperands? (tokens : List Token) : Option (List Operand) := do
  (← bracketed? tokens).mapM readOperand?

def readName? : List Token → Option String
  | [.word _ spelling] => some spelling
  | _ => none

def readCondition? : List Token → Option Condition
  | .word _ column :: .mark "=" :: rest => (readOperand? rest).map (.equal column)
  | .word _ column :: .mark ">=" :: rest => (readOperand? rest).map (.atLeast column)
  | .word _ column :: .word "in" _ :: rest => (readOperands? rest).map (.oneOf column)
  | _ => none

/-- Reads what may follow the table of a statement; no conditions are met by every row. -/
def readConditions? : List Token → Option (List Condition)
  | [] => some []
  | .word "where" _ :: rest => (separate (·.isWord "and") rest).mapM readCondition?
  | _ => none

def readConstraints? (column : Column) : List Token → Option Column
  | [] => some column
  | .word "not" _ :: .word "null" _ :: rest =>
      readConstraints? { column with required := true } rest
  | .word "primary" _ :: .word "key" _ :: .word "autoincrement" _ :: rest =>
      if column.affinity = .integer then readConstraints? { column with numbered := true } rest
      else none
  | _ => none

def readColumn? : List Token → Option Column
  | .word _ name :: .word "integer" _ :: rest =>
      readConstraints? { name := name, affinity := .integer } rest
  | .word _ name :: .word "text" _ :: rest =>
      readConstraints? { name := name, affinity := .text } rest
  | .word _ name :: rest => readConstraints? { name := name } rest
  | _ => none

def headingOf (tokens : List Token) : String :=
  String.join (tokens.map Token.spelling)

def readSelection? : List Token → Option Selection
  | [.word "count" spelling, .mark "(", .mark "*", .mark ")"] => some (.count (spelling ++ "(*)"))
  | tokens => ((separate (· == .mark ",") tokens).mapM readName?).map .columns

def readItem? (tokens : List Token) : Option (Operand × String) :=
  match aroundWord? "as" tokens with
  | some (operand, name) => do return (← readOperand? operand, ← readName? name)
  | none => (readOperand? tokens).map (·, headingOf tokens)

def readOrder? : List Token → Option String
  | [.word "by" _, .word _ column] => some column
  | _ => none

def readSelect? (tokens : List Token) : Option Statement :=
  match aroundWord? "from" tokens with
  | none => ((separate (· == .mark ",") tokens).mapM readItem?).map .values
  | some (selection, .word _ table :: rest) => do
      let selection ← readSelection? selection
      match aroundWord? "order" rest with
      | none => return .select selection table (← readConditions? rest) none
      | some (conditions, order) =>
          let conditions ← readConditions? conditions
          return .select selection table conditions (some (← readOrder? order))
  | some _ => none

def readStatement? : List Token → Option Statement
  | [] => some .empty
  | .word "create" _ :: .word "table" _ :: .word _ table :: rest => do
      return .createTable table (← (← bracketed? rest).mapM readColumn?)
  | [.word "drop" _, .word "table" _, .word _ table] => some (.dropTable table)
  | .word "insert" _ :: .word "into" _ :: .word _ table :: rest => do
      let (columns, values) ← aroundWord? "values" rest
      let columns ← (← bracketed? columns).mapM readName?
      let values ← readOperands? values
      if columns.length = values.length then some (.insert table columns values) else none
  | .word "select" _ :: rest => readSelect? rest
  | .word "update" _ :: .word _ table :: .word "set" _ :: .word _ column :: .mark "=" :: rest =>
      match aroundWord? "where" rest with
      | none => (readOperand? rest).map (.update table column · [])
      | some (value, conditions) => do
          return .update table column (← readOperand? value)
            (← (separate (·.isWord "and") conditions).mapM readCondition?)
  | .word "delete" _ :: .word "from" _ :: .word _ table :: rest =>
      (readConditions? rest).map (.delete table)
  | _ => none

def parameterLimit : Nat := 32766

def isAllowed : Token → Bool
  | .parameter (some position) => 1 ≤ position && position ≤ parameterLimit
  | _ => true

def readNumbered? (tokens : List Token) : Option (Statement × Nat) :=
  let (tokens, count) := numberParameters 0 tokens
  if tokens.all isAllowed then (readStatement? tokens).map (·, count) else none

def statementsOf (script : String) : List (List Token) :=
  separate (· == .mark ";") (tokensOf script)

def readSingle? (sql : String) : Option (Statement × Nat) :=
  match statementsOf sql with
  | [] => none
  | first :: others => if others.all List.isEmpty then readNumbered? first else none

end Sql

end MappedSql.Storage
