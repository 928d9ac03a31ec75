import MappedSql.Json.Reader
import MappedSql.Value.Print

namespace MappedSql

namespace Number

def clampInt64 (n : Int) : Int64 :=
  Int64.ofInt (max (-(Nat.pow 2 63 : Int)) (min n (Nat.pow 2 63 - 1)))

end Number

namespace Value

def readBool? (s : String) : Option Bool :=
  match Text.lowered (Text.trimmed s) with
  | "true" | "1" | "y" | "yes" => some true
  | "false" | "0" | "n" | "no" => some false
  | _ => none

def ofUtf8? (bytes : List UInt8) : Option String :=
  String.fromUTF8? (ByteArray.mk bytes.toArray)

def toUtf8 (s : String) : List UInt8 :=
  s.toUTF8.toList

def convert? (target : ValueType) (value : Value) : Option Value :=
  match target, value with
  | .any, v => some (if v.isComposite then json v.toJson else v)
  | .bool, text s => (readBool? s).map bool
  | .bool, v => v.bool?.map bool
  | .int, int n => some (int n)
  | .int, bool b => some (int (if b then 1 else 0))
  | .int, float x => if x.isWhole then some (int (Number.clampInt64 x.truncated)) else none
  | .int, text s => (Number.readInt64? (Text.trim s.toList)).map int
  | .float, text s => (Number.readFloat? (Text.trim s.toList)).map float
  | .float, v => v.float?.map float
  | .text, blob bytes => (ofUtf8? bytes).map text
  | .text, v => some (text (if v.isComposite then v.toJson.compact else v.display))
  | .timestamp, v => v.timestamp?.map timestamp
  | .json, text s => (Json.read? s).map json
  | .json, v => some (json v.toJson)
  | .blob, blob bytes => some (blob bytes)
  | .blob, text s => some (blob (toUtf8 s))
  | _, _ => none

def coerce (target : ValueType) (value : Value) : Except Error Value :=
  if value.isNull then .ok null
  else
    match value.convert? target with
    | some converted => .ok converted
    | none =>
        failWith (.binding value.display
          s!"cannot convert a {value.kind.name} value to {target.name}")

end Value

end MappedSql
