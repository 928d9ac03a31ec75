import MappedSql.Json.Basic
import MappedSql.Timestamp
import MappedSql.Value.Kind

/-!
# Values

The dynamically typed values that parameters, bound values and column values are made of.
-/

namespace MappedSql

inductive Value
  | null
  | bool (value : Bool)
  | int (value : Int64)
  | float (value : Binary64)
  | text (value : String)
  | timestamp (value : Timestamp)
  | json (value : Json)
  | blob (bytes : List UInt8)
  | list (items : List Value)
  | map (fields : List (String × Value))
  | record (typeName : String) (fields : List (String × Value))
  deriving Inhabited

namespace Value

def mapOf (entries : List (String × Value)) : Value :=
  map (Fields.ofList entries)

def recordOf (typeName : String) (entries : List (String × Value)) : Value :=
  record typeName (Fields.ofList entries)

def isNull : Value → Bool
  | null => true
  | _ => false

def isComposite : Value → Bool
  | list _ | map _ | record _ _ => true
  | _ => false

def kind : Value → ValueType
  | null => .any
  | bool _ => .bool
  | int _ => .int
  | float _ => .float
  | text _ => .text
  | timestamp _ => .timestamp
  | json _ => .json
  | blob _ => .blob
  | list _ => .list
  | map _ => .map
  | record typeName _ => .record typeName

def fields? : Value → Option (Fields Value)
  | map fields | record _ fields => some fields
  | _ => none

def withFields : Value → Fields Value → Value
  | map _, fields => map fields
  | record typeName _, fields => record typeName fields
  | value, _ => value

def int? : Value → Option Int64
  | int value => some value
  | _ => none

def text? : Value → Option String
  | text value => some value
  | _ => none

def bool? : Value → Option Bool
  | bool value => some value
  | int 1 => some true
  | int 0 => some false
  | _ => none

def float? : Value → Option Binary64
  | float value => some value
  | int value => some (Binary64.ofInt value.toInt)
  | _ => none

def timestamp? : Value → Option Timestamp
  | timestamp value => some value
  | text value => Timestamp.read? value
  | _ => none

def blob? : Value → Option (List UInt8)
  | blob bytes => some bytes
  | _ => none

def list? : Value → Option (List Value)
  | list items => some items
  | _ => none

mutual

def same : Value → Value → Bool
  | null, null => true
  | bool a, bool b => a == b
  | int a, int b => a == b
  | float a, float b => a.same b
  | text a, text b => a == b
  | timestamp a, timestamp b => a == b
  | json a, json b => a.same b
  | blob a, blob b => a == b
  | list a, list b => sameItems a b
  | map a, map b => sameFields a b
  | record s a, record t b => s == t && sameFields a b
  | _, _ => false

def sameItems : List Value → List Value → Bool
  | [], [] => true
  | a :: as, b :: bs => same a b && sameItems as bs
  | _, _ => false

def sameFields : List (String × Value) → List (String × Value) → Bool
  | [], [] => true
  | (k, a) :: as, (l, b) :: bs => k == l && same a b && sameFields as bs
  | _, _ => false

end

end Value

def ValueType.accepts (type : ValueType) (value : Value) : Bool :=
  type == .any || value.isNull || type == value.kind

end MappedSql
