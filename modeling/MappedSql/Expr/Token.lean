import MappedSql.Number.Notation
import MappedSql.Number.Reading
import MappedSql.Text.Quoted

namespace MappedSql.Expr

inductive Token
  | name (word : String)
  | int (value : Int64)
  | float (value : Binary64)
  | text (value : String)
  | op (symbol : String)
  | leftParen
  | rightParen
  | leftBracket
  | rightBracket
  | dot
  deriving DecidableEq

def Token.shown : Token → String
  | name word => "Ident(" ++ Text.quoted word ++ ")"
  | int value => "Int(" ++ toString value.toInt ++ ")"
  | float value => "Float(" ++ NumberNotation.token.write value ++ ")"
  | text value => "Str(" ++ Text.quoted value ++ ")"
  | op symbol => "Op(" ++ Text.quoted symbol ++ ")"
  | leftParen => "LParen"
  | rightParen => "RParen"
  | leftBracket => "LBracket"
  | rightBracket => "RBracket"
  | dot => "Dot"

def startsName (c : Char) : Bool :=
  Text.isLetter c || c == '_' || c == '$'

def continuesName (c : Char) : Bool :=
  Text.isLetterOrNumber c || c == '_' || c == '$'

def isNumberChar (c : Char) : Bool :=
  c.isDigit || c == '.'

def isNumberSuffix (c : Char) : Bool :=
  c == 'L' || c == 'l' || c == 'd' || c == 'D' || c == 'f' || c == 'F'

/-- Reads quoted text up to its closing quote; a backslash keeps the next character. -/
def readText (quote : Char) : List Char → Option (List Char × List Char)
  | [] => none
  | ['\\'] => none
  | '\\' :: c :: rest =>
      let kept := if c == 'n' then '\n' else if c == 't' then '\t' else c
      (readText quote rest).map fun (text, rest) => (kept :: text, rest)
  | c :: rest =>
      if c == quote then some ([], rest)
      else (readText quote rest).map fun (text, rest) => (c :: text, rest)

def numberToken (digits : List Char) : Except String Token :=
  let number? : Option Token :=
    if digits.contains '.' then (Number.readFloat? digits).map .float
    else (Number.readInt64? digits).map .int
  match number? with
  | some token => .ok token
  | none => .error s!"bad number `{String.ofList digits}`"

/-- The operator that a text begins with, and how many characters it has. Lone `=`, `&` and `|`
are recognised only to be refused. -/
def operator? : List Char → Option (String × Nat)
  | '=' :: '=' :: _ => some ("==", 2)
  | '!' :: '=' :: _ => some ("!=", 2)
  | '<' :: '=' :: _ => some ("<=", 2)
  | '>' :: '=' :: _ => some (">=", 2)
  | '&' :: '&' :: _ => some ("&&", 2)
  | '|' :: '|' :: _ => some ("||", 2)
  | '<' :: _ => some ("<", 1)
  | '>' :: _ => some (">", 1)
  | '!' :: _ => some ("!", 1)
  | '+' :: _ => some ("+", 1)
  | '-' :: _ => some ("-", 1)
  | '=' :: _ => some ("=", 1)
  | '&' :: _ => some ("&", 1)
  | '|' :: _ => some ("|", 1)
  | _ => none

def readToken (c : Char) (rest : List Char) : Except String (Token × List Char) :=
  match c with
  | '(' => .ok (.leftParen, rest)
  | ')' => .ok (.rightParen, rest)
  | '[' => .ok (.leftBracket, rest)
  | ']' => .ok (.rightBracket, rest)
  | _ =>
      if c == '.' && !(rest.head?.any Char.isDigit) then .ok (.dot, rest)
      else if c == '\'' || c == '"' then
        match readText c rest with
        | some (text, rest) => .ok (.text (String.ofList text), rest)
        | none => .error "unterminated string literal"
      else if isNumberChar c then
        let rest' := rest.dropWhile isNumberChar
        let after := if rest'.head?.any isNumberSuffix then rest'.drop 1 else rest'
        (numberToken (c :: rest.takeWhile isNumberChar)).map (·, after)
      else if startsName c then
        .ok (.name (String.ofList (c :: rest.takeWhile continuesName)),
          rest.dropWhile continuesName)
      else
        match operator? (c :: rest) with
        | none => .error s!"unexpected character `{c}`"
        | some (symbol, length) =>
            if symbol == "=" || symbol == "&" || symbol == "|" then
              .error s!"unexpected operator `{symbol}`"
            else .ok (.op symbol, rest.drop (length - 1))

def readTokens (fuel : Nat) (cs : List Char) : Except String (List Token) :=
  match fuel, cs with
  | 0, _ | _, [] => .ok []
  | fuel + 1, c :: rest =>
      if Text.isBlank c then readTokens fuel rest
      else do
        let (token, rest) ← readToken c rest
        return token :: (← readTokens fuel rest)

def tokenize (source : String) : Except String (List Token) :=
  readTokens source.toList.length source.toList

end MappedSql.Expr
