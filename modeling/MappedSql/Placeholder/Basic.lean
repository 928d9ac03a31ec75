import MappedSql.Error
import MappedSql.Template.Piece
import MappedSql.Text.Blank

namespace MappedSql

/-- The parts of a placeholder; a column type after a colon counts as the attribute `jdbcType`. -/
structure Placeholder where
  property : Option String
  expression : Option String
  attributes : List (String × String)
  deriving DecidableEq, Repr

namespace Placeholder

def attribute? (placeholder : Placeholder) (name : String) : Option String :=
  placeholder.attributes.lookup name

def syntaxError (content : String) (position : Nat) (detail : String) : Error :=
  .of (.config
    ("Parsing error in \x7b" ++ content ++ "\x7d in position " ++ s!"{position}: {detail}"))

def positionOf (content : String) (rest : List Char) : Nat :=
  content.length - rest.length

def readBalanced (depth : Nat) : List Char → Option (List Char × List Char)
  | [] => none
  | '(' :: rest => (readBalanced (depth + 1) rest).map fun (text, rest) => ('(' :: text, rest)
  | ')' :: rest =>
      match depth with
      | 0 => some ([], rest)
      | depth + 1 => (readBalanced depth rest).map fun (text, rest) => (')' :: text, rest)
  | c :: rest => (readBalanced depth rest).map fun (text, rest) => (c :: text, rest)

def readSubject (content : String) (cs : List Char) :
    Except Error ((Option String × Option String) × List Char) :=
  match cs with
  | '(' :: rest =>
      match readBalanced 0 rest with
      | some (expression, rest) =>
          .ok ((none, some (String.ofList (Text.trim expression))), rest)
      | none => .error (syntaxError content content.length "unbalanced parentheses")
  | cs =>
      let isPlain (c : Char) := c != ',' && c != ':'
      let property := Text.trim (cs.takeWhile isPlain)
      if property.isEmpty then
        .error (syntaxError content (positionOf content cs) "missing property name")
      else .ok ((some (String.ofList property), none), cs.dropWhile isPlain)

def readColumnType (content : String) (cs : List Char) :
    Except Error (Option String × List Char) :=
  match cs with
  | ':' :: rest =>
      let name := Text.trim (rest.takeWhile (· != ','))
      if name.isEmpty then
        .error (syntaxError content (positionOf content rest) "missing jdbcType after `:`")
      else .ok (some (String.ofList name), rest.dropWhile (· != ','))
  | cs => .ok (none, cs)

def readOption? (option : List Char) : Option (String × String) :=
  if option.contains '=' then
    let name := option.takeWhile (· != '=')
    let value := (option.dropWhile (· != '=')).drop 1
    some (String.ofList (Text.trim name), String.ofList (Text.trim value))
  else none

def readOptions (content : String) (position : Nat) :
    List (List Char) → Except Error (List (String × String))
  | [] => .ok []
  | option :: rest => do
      if (Text.trim option).isEmpty then readOptions content position rest
      else
        match readOption? option with
        | some pair => return pair :: (← readOptions content position rest)
        | none =>
            .error (syntaxError content position
              s!"attribute `{String.ofList (Text.trim option)}` has no value")

def parse (content : String) : Except Error Placeholder := do
  let ((property, expression), rest) ← readSubject content (Text.trimStart content.toList)
  let (columnType, rest) ← readColumnType content (Text.trimStart rest)
  let typeAttribute := columnType.toList.map (("jdbcType", ·))
  match Text.trimStart rest with
  | [] => return ⟨property, expression, typeAttribute⟩
  | ',' :: options =>
      let position := positionOf content options
      let attributes ← readOptions content position (Text.splitAtChar ',' options)
      return ⟨property, expression, typeAttribute ++ attributes⟩
  | c :: tail =>
      .error (syntaxError content (positionOf content (c :: tail)) s!"unexpected `{c}`")

def knownAttributes : List String :=
  ["javaType", "jdbcType", "mode", "numericScale", "resultMap", "typeHandler", "jdbcTypeName",
    "property"]

def unsupported (content : String) : Error :=
  .of (.config ("Expression based parameters are not supported yet: #\x7b" ++ content ++ "\x7d"))

def checkNames (content : String) : List (String × String) → Except Error Unit
  | [] => .ok ()
  | (name, _) :: rest =>
      if knownAttributes.contains name then checkNames content rest
      else if name = "expression" then .error (unsupported content)
      else
        failWith (.config
          (s!"An invalid property '{name}' was found in mapping " ++ "#\x7b" ++ content ++ "\x7d. "
            ++ "Valid properties are "
            ++ "javaType,jdbcType,mode,numericScale,resultMap,typeHandler,jdbcTypeName"))

def check (placeholder : Placeholder) (content : String) : Except Error Unit :=
  if placeholder.expression.isSome then .error (unsupported content)
  else checkNames content placeholder.attributes

end Placeholder

def validatePlaceholders (sql : String) : Except Error Unit := do
  let _ ← (Piece.contents (Piece.ofText '#' sql)).mapM fun content => do
    (← Placeholder.parse content).check content

end MappedSql
