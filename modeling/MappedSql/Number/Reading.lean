import MappedSql.Number.Binary64
import MappedSql.Text.Blank

namespace MappedSql.Number

def digitValue (c : Char) : Nat :=
  c.toNat - '0'.toNat

def digitsValue (digits : List Char) : Nat :=
  digits.foldl (fun n d => 10 * n + digitValue d) 0

def readDigits? (cs : List Char) : Option Nat :=
  if !cs.isEmpty && cs.all Char.isDigit then some (digitsValue cs) else none

def readInteger? : List Char → Option Int
  | '-' :: digits => (readDigits? digits).map fun n => -(n : Int)
  | '+' :: digits => (readDigits? digits).map fun n => (n : Int)
  | digits => (readDigits? digits).map fun n => (n : Int)

def fitsInt64 (n : Int) : Bool :=
  -(Nat.pow 2 63 : Int) ≤ n && n < Nat.pow 2 63

def int64? (n : Int) : Option Int64 :=
  if fitsInt64 n then some (Int64.ofInt n) else none

def readInt64? (cs : List Char) : Option Int64 :=
  (readInteger? cs).bind int64?

def readIndex? (cs : List Char) : Option Nat :=
  let digits := match cs with
    | '+' :: rest => rest
    | _ => cs
  (readDigits? digits).filter (· < Nat.pow 2 64)

def spanDigits (cs : List Char) : List Char × List Char :=
  (cs.takeWhile Char.isDigit, cs.dropWhile Char.isDigit)

def readExponent? : List Char → Option Int
  | [] => some 0
  | mark :: rest => if mark == 'e' || mark == 'E' then readInteger? rest else none

/-- Digits with an optional point and exponent, at least one digit before or after the point. -/
def readUnsignedFloat? (negative : Bool) (cs : List Char) : Option Binary64 :=
  let (whole, rest) := spanDigits cs
  let (fraction, rest) := match rest with
    | '.' :: rest => spanDigits rest
    | _ => ([], rest)
  if whole.isEmpty && fraction.isEmpty then none
  else
    (readExponent? rest).map fun exponent =>
      Binary64.ofDecimal negative (digitsValue (whole ++ fraction)) (exponent - fraction.length)

def readUnsignedSpecial? (negative : Bool) (cs : List Char) : Option Binary64 :=
  match Text.lowered (String.ofList cs) with
  | "inf" | "infinity" => some (Binary64.infinity negative)
  | "nan" => some (if negative then Binary64.nan.neg else Binary64.nan)
  | _ => none

def readFloat? (cs : List Char) : Option Binary64 :=
  let (negative, rest) := match cs with
    | '-' :: rest => (true, rest)
    | '+' :: rest => (false, rest)
    | _ => (false, cs)
  (readUnsignedSpecial? negative rest).orElse fun _ => readUnsignedFloat? negative rest

def hexDigit (n : Nat) : Char :=
  if n < 10 then Char.ofNat ('0'.toNat + n) else Char.ofNat ('a'.toNat + (n - 10))

def hexByte (b : UInt8) : List Char :=
  [hexDigit (b.toNat / 16), hexDigit (b.toNat % 16)]

def hexBytes (bytes : List UInt8) : String :=
  String.ofList (bytes.flatMap hexByte)

end MappedSql.Number
