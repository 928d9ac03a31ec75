namespace MappedSql

inductive MarkerStyle
  | plain
  | question
  | dollar
  deriving DecidableEq, Repr

namespace Marker

inductive Mode
  | code
  | quoted (quote : Char)
  | lineComment
  | blockComment (depth : Nat)
  | dollarBody (tag : List Char)
  deriving DecidableEq, Repr

def startsTag (c : Char) : Bool :=
  c.isAlpha || c == '_'

def continuesTag (c : Char) : Bool :=
  c.isAlphanum || c == '_'

def dollarTag? : List Char → Option (List Char)
  | '$' :: _ => some ['$', '$']
  | c :: rest =>
      if startsTag c then
        match rest.dropWhile continuesTag with
        | '$' :: _ => some ('$' :: c :: rest.takeWhile continuesTag ++ ['$'])
        | _ => none
      else none
  | [] => none

/-- What one character means: whether it is a bare marker, the mode after it, and how many further
characters belong to it. -/
structure Reading where
  marked : Bool := false
  mode : Mode
  skip : Nat := 0

def readCode (c : Char) (rest : List Char) : Reading :=
  match c, rest with
  | '\'', _ => { mode := .quoted '\'' }
  | '"', _ => { mode := .quoted '"' }
  | '-', '-' :: _ => { mode := .lineComment, skip := 1 }
  | '/', '*' :: _ => { mode := .blockComment 1, skip := 1 }
  | '$', rest =>
      match dollarTag? rest with
      | some tag => { mode := .dollarBody tag, skip := tag.length - 1 }
      | none => { mode := .code }
  | '?', rest => { marked := !(rest.head?.any Char.isDigit), mode := .code }
  | _, _ => { mode := .code }

def readBlockComment (depth : Nat) (c : Char) (rest : List Char) : Reading :=
  match c, rest with
  | '/', '*' :: _ => { mode := .blockComment (depth + 1), skip := 1 }
  | '*', '/' :: _ => { mode := if depth ≤ 1 then .code else .blockComment (depth - 1), skip := 1 }
  | _, _ => { mode := .blockComment depth }

def read (mode : Mode) (c : Char) (rest : List Char) : Reading :=
  match mode with
  | .code => readCode c rest
  | .quoted quote =>
      if c = quote then
        if rest.head? = some quote then { mode := mode, skip := 1 } else { mode := .code }
      else { mode := mode }
  | .lineComment => { mode := if c = '\n' then .code else mode }
  | .blockComment depth => readBlockComment depth c rest
  | .dollarBody tag =>
      if tag.isPrefixOf (c :: rest) then { mode := .code, skip := tag.length - 1 }
      else { mode := mode }

/-- Tells for each character whether it is a bare marker. `skip` characters belong to what came
before. -/
def flags (mode : Mode) (skip : Nat) : List Char → List Bool
  | [] => []
  | c :: rest =>
      if 0 < skip then false :: flags mode (skip - 1) rest
      else
        let reading := read mode c rest
        reading.marked :: flags reading.mode reading.skip rest

def positions (cs : List Char) : List Nat :=
  ((flags .code 0 cs).zipIdx.filter (·.1)).map (·.2)

/-- Writes every flagged character as a sign and its number, counting up from `next`. -/
def writeNumbered (sign : Char) : Nat → List (Char × Bool) → List Char
  | _, [] => []
  | next, (c, flagged) :: rest =>
      if flagged then sign :: (toString next).toList ++ writeNumbered sign (next + 1) rest
      else c :: writeNumbered sign next rest

def numbered (sign : Char) (sql : String) : String :=
  let cs := sql.toList
  String.ofList (writeNumbered sign 1 (cs.zip (flags .code 0 cs)))

end Marker

def MarkerStyle.number (style : MarkerStyle) (sql : String) : String :=
  match style with
  | .plain => sql
  | .question => Marker.numbered '?' sql
  | .dollar => Marker.numbered '$' sql

end MappedSql
