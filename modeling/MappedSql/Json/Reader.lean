import MappedSql.Json.Basic

namespace MappedSql.Json

def isJsonBlank (c : Char) : Bool :=
  c == ' ' || c == '\n' || c == '\t' || c == '\r'

def skipBlanks (cs : List Char) : List Char :=
  cs.dropWhile isJsonBlank

def powerOfTen (n : Nat) : Binary64 :=
  Binary64.ofDecimal false 1 n

def scaleByPower (fuel : Nat) (x : Binary64) (exponent : Int) : Option Binary64 :=
  match fuel with
  | 0 => none
  | fuel + 1 =>
      if exponent.natAbs ≤ 308 then
        if 0 ≤ exponent then
          let product := x.times (powerOfTen exponent.natAbs)
          if product.isFinite then some product else none
        else some (x.divideBy (powerOfTen exponent.natAbs))
      else if x.isZero then some x
      else if 0 ≤ exponent then none
      else scaleByPower fuel (x.divideBy (powerOfTen 308)) (exponent + 308)

def floatOfParts (negative : Bool) (significand : Nat) (exponent : Int) : Option Binary64 :=
  (scaleByPower 8 (Binary64.ofInt significand) exponent).map fun x =>
    if negative then x.neg else x

/-- Takes digits into a significand while it fits an unsigned word. The result holds the
significand, the number of digits taken and the digits left over. -/
def takeDigits (significand : Nat) (taken : Nat) : List Char → Nat × Nat × List Char
  | [] => (significand, taken, [])
  | d :: rest =>
      let next := 10 * significand + Number.digitValue d
      if next < Nat.pow 2 64 then takeDigits next (taken + 1) rest
      else (significand, taken, d :: rest)

def largestExponent : Nat := Nat.pow 2 31 - 1

def saturate (n : Int) : Int :=
  max (-(Nat.pow 2 31 : Int)) (min n largestExponent)

def readExponentPart (negative : Bool) (significand : Nat) (start : Int) (cs : List Char) :
    Option (Binary64 × List Char) :=
  let (down, cs) := match cs with
    | '+' :: rest => (false, rest)
    | '-' :: rest => (true, rest)
    | _ => (false, cs)
  let (digits, rest) := Number.spanDigits cs
  if digits.isEmpty then none
  else
    let size := Number.digitsValue digits
    if size ≤ largestExponent then
      let exponent := if down then start - size else start + size
      (floatOfParts negative significand (saturate exponent)).map (·, rest)
    else if significand != 0 && !down then none
    else some (Binary64.pack negative 0, rest)

def finishFloat (negative : Bool) (significand : Nat) (exponent : Int) (cs : List Char) :
    Option (Binary64 × List Char) :=
  match cs with
  | 'e' :: rest | 'E' :: rest => readExponentPart negative significand exponent rest
  | _ => (floatOfParts negative significand exponent).map (·, cs)

def readFraction (negative : Bool) (significand : Nat) (before : Int) (cs : List Char) :
    Option (Binary64 × List Char) :=
  let (digits, rest) := Number.spanDigits cs
  if digits.isEmpty then none
  else
    let (significand, taken, _) := takeDigits significand 0 digits
    finishFloat negative significand (before - taken) rest

def readUnsignedNumber (negative : Bool) (cs : List Char) : Option (Json × List Char) :=
  let (digits, rest) := Number.spanDigits cs
  match digits with
  | [] => none
  | '0' :: _ :: _ => none
  | _ =>
      let (significand, _, left) := takeDigits 0 0 digits
      let exponent : Int := left.length
      match rest with
      | '.' :: rest =>
          (readFraction negative significand exponent rest).map fun (x, rest) => (float x, rest)
      | 'e' :: rest | 'E' :: rest =>
          (readExponentPart negative significand exponent rest).map fun (x, rest) => (float x, rest)
      | _ =>
          if !left.isEmpty then
            (floatOfParts negative significand exponent).map fun x => (float x, rest)
          else if !negative then some (int significand, rest)
          else if 0 < significand && significand ≤ Nat.pow 2 63 then
            some (int (-significand), rest)
          else some (float (Binary64.ofInt significand).neg, rest)

def readNumber (cs : List Char) : Option (Json × List Char) :=
  match cs with
  | '-' :: rest => readUnsignedNumber true rest
  | _ => readUnsignedNumber false cs

def hexValue? (c : Char) : Option Nat :=
  if c.isDigit then some (c.toNat - '0'.toNat)
  else if 'a' ≤ c && c ≤ 'f' then some (c.toNat - 'a'.toNat + 10)
  else if 'A' ≤ c && c ≤ 'F' then some (c.toNat - 'A'.toNat + 10)
  else none

def readHex4 : List Char → Option (Nat × List Char)
  | a :: b :: c :: d :: rest => do
      let a ← hexValue? a
      let b ← hexValue? b
      let c ← hexValue? c
      let d ← hexValue? d
      some (((a * 16 + b) * 16 + c) * 16 + d, rest)
  | _ => none

def readUnicodeEscape (cs : List Char) : Option (Char × List Char) := do
  let (first, rest) ← readHex4 cs
  if 0xdc00 ≤ first && first ≤ 0xdfff then none
  else if 0xd800 ≤ first && first ≤ 0xdbff then
    match rest with
    | '\\' :: 'u' :: rest =>
        let (second, rest) ← readHex4 rest
        if 0xdc00 ≤ second && second ≤ 0xdfff then
          some (Char.ofNat (0x10000 + (first - 0xd800) * 0x400 + (second - 0xdc00)), rest)
        else none
    | _ => none
  else some (Char.ofNat first, rest)

def simpleEscape? : Char → Option Char
  | '"' => some '"'
  | '\\' => some '\\'
  | '/' => some '/'
  | 'b' => some '\x08'
  | 'f' => some '\x0c'
  | 'n' => some '\n'
  | 'r' => some '\r'
  | 't' => some '\t'
  | _ => none

def readString (fuel : Nat) (cs : List Char) : Option (List Char × List Char) :=
  match fuel with
  | 0 => none
  | fuel + 1 =>
      let continueWith (c : Char) (rest : List Char) := do
        let (tail, rest) ← readString fuel rest
        some (c :: tail, rest)
      match cs with
      | '"' :: rest => some ([], rest)
      | '\\' :: 'u' :: rest => do
          let (c, rest) ← readUnicodeEscape rest
          continueWith c rest
      | '\\' :: c :: rest => do
          let c ← simpleEscape? c
          continueWith c rest
      | c :: rest => if c.toNat < 0x20 then none else continueWith c rest
      | [] => none

def readKey (cs : List Char) : Option (String × List Char) :=
  match cs with
  | '"' :: rest => (readString (rest.length + 1) rest).map fun (s, rest) => (String.ofList s, rest)
  | _ => none

mutual

/-- Reads one document; `depth` is how many more containers may be opened, plus one. -/
def readValue (fuel depth : Nat) (cs : List Char) : Option (Json × List Char) :=
  match fuel with
  | 0 => none
  | fuel + 1 =>
      match skipBlanks cs with
      | 'n' :: 'u' :: 'l' :: 'l' :: rest => some (null, rest)
      | 't' :: 'r' :: 'u' :: 'e' :: rest => some (bool true, rest)
      | 'f' :: 'a' :: 'l' :: 's' :: 'e' :: rest => some (bool false, rest)
      | '"' :: rest =>
          (readString (rest.length + 1) rest).map fun (s, rest) => (str (String.ofList s), rest)
      | '[' :: rest =>
          if depth ≤ 1 then none
          else
            match skipBlanks rest with
            | ']' :: rest => some (arr [], rest)
            | rest => (readItems fuel (depth - 1) rest).map fun (items, rest) => (arr items, rest)
      | '{' :: rest =>
          if depth ≤ 1 then none
          else
            match skipBlanks rest with
            | '}' :: rest => some (obj [], rest)
            | rest =>
                (readMembers fuel (depth - 1) rest).map fun (members, rest) => (obj members, rest)
      | rest => readNumber rest

def readItems (fuel depth : Nat) (cs : List Char) : Option (List Json × List Char) :=
  match fuel with
  | 0 => none
  | fuel + 1 => do
      let (item, rest) ← readValue fuel depth cs
      match skipBlanks rest with
      | ']' :: rest => some ([item], rest)
      | ',' :: rest =>
          let (items, rest) ← readItems fuel depth rest
          some (item :: items, rest)
      | _ => none

def readMembers (fuel depth : Nat) (cs : List Char) :
    Option (List (String × Json) × List Char) :=
  match fuel with
  | 0 => none
  | fuel + 1 => do
      let (name, rest) ← readKey (skipBlanks cs)
      match skipBlanks rest with
      | ':' :: rest =>
          let (value, rest) ← readValue fuel depth rest
          match skipBlanks rest with
          | '}' :: rest => some ([(name, value)], rest)
          | ',' :: rest =>
              let (members, rest) ← readMembers fuel depth rest
              some ((name, value) :: members, rest)
          | _ => none
      | _ => none

end

def readAsWritten? (s : String) : Option Json :=
  let cs := s.toList
  match readValue (2 * cs.length + 2) 128 cs with
  | some (value, rest) => if (skipBlanks rest).isEmpty then some value else none
  | none => none

mutual

/-- Sorts the members of every object; of several members of one name the last counts. -/
def sortMembers : Json → Json
  | arr items => arr (sortItems items)
  | obj members => obj (Fields.ofList (sortFields members))
  | value => value

def sortItems : List Json → List Json
  | [] => []
  | item :: rest => sortMembers item :: sortItems rest

def sortFields : List (String × Json) → List (String × Json)
  | [] => []
  | (name, value) :: rest => (name, sortMembers value) :: sortFields rest

end

def read? (s : String) : Option Json :=
  (readAsWritten? s).map sortMembers

end MappedSql.Json
