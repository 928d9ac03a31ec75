import MappedSql.Storage.Value

namespace MappedSql.Storage.Sql

/-- A word carries its lower-case form, by which keywords are known, beside its spelling. -/
inductive Token
  | word (key spelling : String)
  | number (value : Nat)
  | quoted (text : String)
  | parameter (position : Option Nat)
  | mark (symbol : String)
  deriving DecidableEq

namespace Token

def spelling : Token → String
  | word _ spelling => spelling
  | number value => toString value
  | quoted text => "'" ++ text ++ "'"
  | parameter position => "?" ++ (position.map toString).getD ""
  | mark symbol => symbol

def isWord (key : String) : Token → Bool
  | word found _ => found == key
  | _ => false

end Token

def startsWord (c : Char) : Bool :=
  c.isAlpha || c == '_' || '\x7f' < c

def continuesWord (c : Char) : Bool :=
  startsWord c || c.isDigit || c == '$'

/-- Reads a quoted text up to its closing quote; a quote inside it is written twice. -/
def readQuoted : List Char → Option (List Char × List Char)
  | [] => none
  | '\'' :: '\'' :: rest => (readQuoted rest).map fun (text, rest) => ('\'' :: text, rest)
  | '\'' :: rest => some ([], rest)
  | c :: rest => (readQuoted rest).map fun (text, rest) => (c :: text, rest)

def readToken (c : Char) (rest : List Char) : Token × List Char :=
  let (digits, afterDigits) := Number.spanDigits rest
  match c, rest with
  | '?', _ =>
      (.parameter (if digits.isEmpty then none else some (Number.digitsValue digits)), afterDigits)
  | '>', '=' :: rest => (.mark ">=", rest)
  | '\'', _ =>
      match readQuoted rest with
      | some (text, rest) => (.quoted (String.ofList text), rest)
      | none => (.mark "'", [])
  | _, _ =>
      if c.isDigit then (.number (Number.digitsValue (c :: digits)), afterDigits)
      else if startsWord c then
        let spelling := String.ofList (c :: rest.takeWhile continuesWord)
        (.word (Text.lowered spelling) spelling, rest.dropWhile continuesWord)
      else (.mark c.toString, rest)

def readTokens (fuel : Nat) (cs : List Char) : List Token :=
  match fuel, cs with
  | 0, _ | _, [] => []
  | fuel + 1, c :: rest =>
      if StoredValue.isSpace c then readTokens fuel rest
      else
        let (token, rest) := readToken c rest
        token :: readTokens fuel rest

def tokensOf (sql : String) : List Token :=
  readTokens sql.toList.length sql.toList

def separate (isSeparator : Token → Bool) : List Token → List (List Token)
  | [] => [[]]
  | token :: rest =>
      if isSeparator token then [] :: separate isSeparator rest
      else
        match separate isSeparator rest with
        | [] => [[token]]
        | piece :: pieces => (token :: piece) :: pieces

def bracketed? : List Token → Option (List (List Token))
  | .mark "(" :: rest =>
      if rest.getLast? == some (.mark ")") then some (separate (· == .mark ",") rest.dropLast)
      else none
  | _ => none

def aroundWord? (key : String) (tokens : List Token) : Option (List Token × List Token) :=
  match tokens.dropWhile (!·.isWord key) with
  | [] => none
  | _ :: rest => some (tokens.takeWhile (!·.isWord key), rest)

def numberParameters (largest : Nat) : List Token → List Token × Nat
  | [] => ([], largest)
  | .parameter position :: rest =>
      let number := position.getD (largest + 1)
      let (rest, largest) := numberParameters (max largest number) rest
      (.parameter (some number) :: rest, largest)
  | token :: rest =>
      let (rest, largest) := numberParameters largest rest
      (token :: rest, largest)

end MappedSql.Storage.Sql
