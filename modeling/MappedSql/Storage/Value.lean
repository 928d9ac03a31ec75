import MappedSql.Value.Print

namespace MappedSql

inductive StoredValue
  | null
  | integer (value : Int64)
  | real (value : Binary64)
  | text (value : String)
  | blob (bytes : List UInt8)
  deriving DecidableEq

namespace StoredValue

/-- What a value is bound as: truth as a number, times, documents and composites as text. -/
def ofValue : Value → StoredValue
  | .null => null
  | .bool value => integer (if value then 1 else 0)
  | .int value => integer value
  | .float value => real value
  | .text value => text value
  | .timestamp value => text value.write
  | .blob bytes => blob bytes
  | value => text value.toJson.compact

def toValue : StoredValue → Value
  | null => .null
  | integer value => .int value
  | real value => .float value
  | text value => .text value
  | blob bytes => .blob bytes

def kept : StoredValue → StoredValue
  | real value => if value.isNaN then null else real value
  | value => value

def isNull (value : StoredValue) : Bool :=
  value == null

def isNumberMark (c : Char) : Bool :=
  c.isDigit || c == '+' || c == '-' || c == '.' || c == 'e' || c == 'E'

def isSpace (c : Char) : Bool :=
  c == ' ' || ('\t' ≤ c && c ≤ '\r')

def ofNumeral? (numeral : String) : Option StoredValue :=
  let cs := Text.trimBoth isSpace numeral.toList
  if cs.all isNumberMark then
    ((Number.readInt64? cs).map integer).or ((Number.readFloat? cs).map real)
  else none

def withoutPoint : StoredValue → StoredValue
  | real value =>
      if value.isWhole then ((Number.int64? value.truncated).map integer).getD (real value)
      else real value
  | value => value

end StoredValue

inductive Affinity
  | integer
  | text
  | none
  deriving DecidableEq, Repr

def Affinity.apply : Affinity → StoredValue → StoredValue
  | .integer, .text value => ((StoredValue.ofNumeral? value).getD (.text value)).withoutPoint
  | .integer, value => value.withoutPoint
  | .text, .integer value => .text (toString value.toInt)
  | .text, .real value => .text (NumberNotation.json.write value)
  | _, value => value

namespace StoredValue

def quantity : StoredValue → Int
  | integer value => value.toInt * Nat.pow 2 1074
  | real value => value.scaled
  | _ => 0

def rank : StoredValue → Nat
  | null => 0
  | integer _ | real _ => 1
  | text _ => 2
  | blob _ => 3

def order : StoredValue → StoredValue → Ordering
  | text a, text b => compare a b
  | blob a, blob b => compare a b
  | a, b => (compare a.rank b.rank).then (compare a.quantity b.quantity)

def compare? (a b : StoredValue) : Option Ordering :=
  if a.isNull || b.isNull then none else some (order a b)

end StoredValue

end MappedSql
