import MappedSql.Json.Access
import MappedSql.Json.Reader
import MappedSql.Value.Print

namespace MappedSql

def bytesOfHex : List Char → List UInt8
  | a :: b :: rest =>
      UInt8.ofNat ((Json.hexValue? a).getD 0 * 16 + (Json.hexValue? b).getD 0) :: bytesOfHex rest
  | _ => []

def Binary64.ofText (s : String) : Binary64 :=
  (Number.readFloat? s.toList).getD Binary64.nan

def Binary64.toText (x : Binary64) : String :=
  NumberNotation.plain.write x

namespace Value

def ofTagged (tag s : String) : Value :=
  match tag with
  | "float" => .float (.ofText s)
  | "ts" => ((Timestamp.read? s).map .timestamp).getD .null
  | "json" => ((Json.read? s).map .json).getD .null
  | "blob" => .blob (bytesOfHex s.toList)
  | _ => .null

mutual

def ofDocument : Json → Value
  | .null => .null
  | .bool value => .bool value
  | .int value => .int (Int64.ofInt value)
  | .float value => .float value
  | .str value => .text value
  | .arr items => .list (ofItems items)
  | .obj [("map", .obj fields)] => .mapOf (ofMembers fields)
  | .obj [("record", .arr [.str name, .obj fields])] => .recordOf name (ofMembers fields)
  | .obj [(tag, .str s)] => ofTagged tag s
  | .obj _ => .null

def ofItems : List Json → List Value
  | [] => []
  | item :: rest => ofDocument item :: ofItems rest

def ofMembers : List (String × Json) → List (String × Value)
  | [] => []
  | (name, value) :: rest => (name, ofDocument value) :: ofMembers rest

end

mutual

def toDocument : Value → Json
  | null => .null
  | bool value => .bool value
  | int value => .int value.toInt
  | float value => .obj [("float", .str value.toText)]
  | text value => .str value
  | timestamp value => .obj [("ts", .str value.write)]
  | json value => .obj [("json", .str value.compact)]
  | blob bytes => .obj [("blob", .str (Number.hexBytes bytes))]
  | list items => .arr (toItems items)
  | map fields => .obj [("map", .obj (toMembers fields))]
  | record name fields => .obj [("record", .arr [.str name, .obj (toMembers fields)])]

def toItems : List Value → List Json
  | [] => []
  | item :: rest => toDocument item :: toItems rest

def toMembers : List (String × Value) → List (String × Json)
  | [] => []
  | (name, value) :: rest => (name, toDocument value) :: toMembers rest

end

end Value

namespace ValueType

def plainTypes : List ValueType :=
  [.bool, .int, .float, .text, .timestamp, .json, .blob, .list, .map, .cursor]

def ofDocument : Json → ValueType
  | .str name => (plainTypes.find? (·.name == name)).getD .any
  | .obj [("record", .str name)] => .record name
  | _ => .any

def toDocument : ValueType → Json
  | record name => .obj [("record", .str name)]
  | type => .str type.name

end ValueType

end MappedSql
