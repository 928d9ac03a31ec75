import MappedSql.Value.Basic

namespace MappedSql.Value

mutual

def display : Value → String
  | null => "null"
  | bool value => if value then "true" else "false"
  | int value => toString value.toInt
  | float value => NumberNotation.plain.write value
  | text value => value
  | timestamp value => value.write
  | json value => value.compact
  | blob bytes => "x'" ++ Number.hexBytes bytes ++ "'"
  | list items => "[" ++ String.intercalate ", " (displayItems items) ++ "]"
  | map fields => "\x7b" ++ String.intercalate ", " (displayFields fields) ++ "\x7d"
  | record typeName fields =>
      typeName ++ "\x7b" ++ String.intercalate ", " (displayFields fields) ++ "\x7d"

def displayItems : List Value → List String
  | [] => []
  | item :: rest => display item :: displayItems rest

def displayFields : List (String × Value) → List String
  | [] => []
  | (name, value) :: rest => (name ++ "=" ++ display value) :: displayFields rest

end

mutual

def toJson : Value → Json
  | null => .null
  | bool value => .bool value
  | int value => .int value.toInt
  | float value => Json.ofFloat value
  | text value => .str value
  | timestamp value => .str value.write
  | json value => value
  | blob bytes => .arr (bytes.map fun b => .int b.toNat)
  | list items => .arr (itemsToJson items)
  | map fields | record _ fields => .obj (fieldsToJson fields)

def itemsToJson : List Value → List Json
  | [] => []
  | item :: rest => toJson item :: itemsToJson rest

def fieldsToJson : List (String × Value) → List (String × Json)
  | [] => []
  | (name, value) :: rest => (name, toJson value) :: fieldsToJson rest

end

mutual

def ofJson : Json → Value
  | .null => null
  | .bool value => bool value
  | .int value =>
      match Number.int64? value with
      | some n => int n
      | none => float (Binary64.ofInt value)
  | .float value => float value
  | .str value => text value
  | .arr items => list (ofJsonItems items)
  | .obj fields => map (ofJsonFields fields)

def ofJsonItems : List Json → List Value
  | [] => []
  | item :: rest => ofJson item :: ofJsonItems rest

def ofJsonFields : List (String × Json) → List (String × Value)
  | [] => []
  | (name, value) :: rest => (name, ofJson value) :: ofJsonFields rest

end

end MappedSql.Value
