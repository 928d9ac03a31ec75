import MappedSql.Number.Reading

namespace MappedSql

structure Timestamp where
  year : Int
  month : Nat
  day : Nat
  hour : Nat
  minute : Nat
  second : Nat
  nano : Nat
  deriving DecidableEq, Repr

namespace Timestamp

def isLeapYear (year : Int) : Bool :=
  (year % 4 == 0 && year % 100 != 0) || year % 400 == 0

def daysInMonth (year : Int) (month : Nat) : Nat :=
  match month with
  | 2 => if isLeapYear year then 29 else 28
  | 4 | 6 | 9 | 11 => 30
  | _ => 31

def isValid (t : Timestamp) : Bool :=
  -262143 ≤ t.year && t.year ≤ 262142 && 1 ≤ t.month && t.month ≤ 12 && 1 ≤ t.day
    && t.day ≤ daysInMonth t.year t.month && t.hour ≤ 23 && t.minute ≤ 59 && t.second ≤ 60
    && t.nano < Nat.pow 10 9

def padded (width n : Nat) : String :=
  let digits := toString n
  String.ofList (List.replicate (width - digits.length) '0') ++ digits

def writeYear (year : Int) : String :=
  if 0 ≤ year && year ≤ 9999 then padded 4 year.toNat
  else (if year < 0 then "-" else "+") ++ padded 4 year.natAbs

def writeFraction (nano : Nat) : String :=
  if nano = 0 then ""
  else if nano % 1000000 = 0 then "." ++ padded 3 (nano / 1000000)
  else if nano % 1000 = 0 then "." ++ padded 6 (nano / 1000)
  else "." ++ padded 9 nano

def write (t : Timestamp) : String :=
  writeYear t.year ++ "-" ++ padded 2 t.month ++ "-" ++ padded 2 t.day ++ " " ++ padded 2 t.hour
    ++ ":" ++ padded 2 t.minute ++ ":" ++ padded 2 t.second ++ writeFraction t.nano

def readNumber (width : Nat) (cs : List Char) : Option (Nat × List Char) :=
  let digits := (cs.takeWhile Char.isDigit).take width
  if digits.isEmpty then none
  else some (Number.digitsValue digits, cs.drop digits.length)

def readField (cs : List Char) : Option (Nat × List Char) :=
  readNumber 2 (Text.trimStart cs)

def readYear (cs : List Char) : Option (Int × List Char) :=
  let cs := Text.trimStart cs
  match cs with
  | '-' :: rest => (readNumber rest.length rest).map fun (n, rest) => (-(n : Int), rest)
  | '+' :: rest => (readNumber rest.length rest).map fun (n, rest) => ((n : Int), rest)
  | _ => (readNumber 4 cs).map fun (n, rest) => ((n : Int), rest)

def skipMark (mark : Char) : List Char → Option (List Char)
  | c :: rest => if c == mark then some rest else none
  | [] => none

def readFraction (cs : List Char) : Option (Nat × List Char) :=
  match cs with
  | '.' :: rest =>
      let digits := (rest.takeWhile Char.isDigit).take 9
      if digits.isEmpty then none
      else
        some (Number.digitsValue digits * Nat.pow 10 (9 - digits.length),
          rest.dropWhile Char.isDigit)
  | _ => some (0, cs)

def read? (s : String) : Option Timestamp := do
  let (year, rest) ← readYear s.toList
  let rest ← skipMark '-' rest
  let (month, rest) ← readField rest
  let rest ← skipMark '-' rest
  let (day, rest) ← readField rest
  let (hour, rest) ← readField (Text.trimStart rest)
  let rest ← skipMark ':' rest
  let (minute, rest) ← readField rest
  let rest ← skipMark ':' rest
  let (second, rest) ← readField rest
  let (nano, rest) ← readFraction rest
  let t : Timestamp := ⟨year, month, day, hour, minute, second, nano⟩
  if rest.isEmpty && t.isValid then some t else none

end Timestamp

end MappedSql
