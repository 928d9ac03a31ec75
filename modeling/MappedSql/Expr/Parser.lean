import MappedSql.Expr.Syntax
import MappedSql.Expr.Token

namespace MappedSql.Expr

abbrev ParseResult := Except String (Expr × List Token)

def isWord (words : List String) : Token → Bool
  | .name word => words.contains word
  | .op symbol => words.contains symbol
  | _ => false

def comparisonOf? : Token → Option Comparison
  | .op "==" | .name "eq" => some .eq
  | .op "!=" | .name "neq" => some .ne
  | .op "<" | .name "lt" => some .lt
  | .op "<=" | .name "lte" => some .le
  | .op ">" | .name "gt" => some .gt
  | .op ">=" | .name "gte" => some .ge
  | _ => none

def keywords : List String :=
  ["and", "or", "not", "eq", "neq", "lt", "lte", "gt", "gte"]

def ofName (word : String) : Except String Expr :=
  if word = "null" then .ok (literal .null)
  else if word = "true" then .ok (literal (.bool true))
  else if word = "false" then .ok (literal (.bool false))
  else if keywords.contains word then .error s!"unexpected keyword `{word}`"
  else .ok (var word)

def expect (wanted : Token) : List Token → Except String (List Token)
  | [] => .error s!"expected {wanted.shown} at end of expression"
  | token :: rest =>
      if token = wanted then .ok rest
      else .error s!"expected {wanted.shown}, found {token.shown}"

def ofMethod (name : String) (target : Expr) : Except String Expr :=
  if name = "size" || name = "length" then .ok (size target)
  else if name = "isEmpty" then .ok (isEmpty target)
  else .error s!"unsupported method `{name}()`"

def outOfFuel : String := "expression too deep"

mutual

def parseOr (fuel : Nat) (tokens : List Token) : ParseResult :=
  match fuel with
  | 0 => .error outOfFuel
  | fuel + 1 => do
      let (left, rest) ← parseAnd fuel tokens
      parseOrRest fuel left rest

def parseOrRest (fuel : Nat) (left : Expr) (tokens : List Token) : ParseResult :=
  match fuel with
  | 0 => .error outOfFuel
  | fuel + 1 =>
      match tokens with
      | token :: rest =>
          if isWord ["or", "||"] token then do
            let (right, rest) ← parseAnd fuel rest
            parseOrRest fuel (or left right) rest
          else .ok (left, tokens)
      | [] => .ok (left, [])

def parseAnd (fuel : Nat) (tokens : List Token) : ParseResult :=
  match fuel with
  | 0 => .error outOfFuel
  | fuel + 1 => do
      let (left, rest) ← parseNot fuel tokens
      parseAndRest fuel left rest

def parseAndRest (fuel : Nat) (left : Expr) (tokens : List Token) : ParseResult :=
  match fuel with
  | 0 => .error outOfFuel
  | fuel + 1 =>
      match tokens with
      | token :: rest =>
          if isWord ["and", "&&"] token then do
            let (right, rest) ← parseNot fuel rest
            parseAndRest fuel (and left right) rest
          else .ok (left, tokens)
      | [] => .ok (left, [])

def parseNot (fuel : Nat) (tokens : List Token) : ParseResult :=
  match fuel with
  | 0 => .error outOfFuel
  | fuel + 1 =>
      match tokens with
      | token :: rest =>
          if isWord ["not", "!"] token then do
            let (operand, rest) ← parseNot fuel rest
            return (not operand, rest)
          else parseComparison fuel tokens
      | [] => parseComparison fuel tokens

def parseComparison (fuel : Nat) (tokens : List Token) : ParseResult :=
  match fuel with
  | 0 => .error outOfFuel
  | fuel + 1 => do
      let (left, rest) ← parseSum fuel tokens
      match rest with
      | token :: after =>
          match comparisonOf? token with
          | some comparison =>
              let (right, rest) ← parseSum fuel after
              return (compare comparison left right, rest)
          | none => return (left, rest)
      | [] => return (left, [])

def parseSum (fuel : Nat) (tokens : List Token) : ParseResult :=
  match fuel with
  | 0 => .error outOfFuel
  | fuel + 1 => do
      let (left, rest) ← parseSigned fuel tokens
      parseSumRest fuel left rest

def parseSumRest (fuel : Nat) (left : Expr) (tokens : List Token) : ParseResult :=
  match fuel with
  | 0 => .error outOfFuel
  | fuel + 1 =>
      match tokens with
      | token :: rest =>
          if isWord ["+"] token then do
            let (right, rest) ← parseSigned fuel rest
            parseSumRest fuel (add left right) rest
          else if isWord ["-"] token then do
            let (right, rest) ← parseSigned fuel rest
            parseSumRest fuel (sub left right) rest
          else .ok (left, tokens)
      | [] => .ok (left, [])

def parseSigned (fuel : Nat) (tokens : List Token) : ParseResult :=
  match fuel with
  | 0 => .error outOfFuel
  | fuel + 1 =>
      match tokens with
      | token :: rest =>
          if isWord ["-"] token then do
            let (operand, rest) ← parseSigned fuel rest
            return (neg operand, rest)
          else if isWord ["!"] token then do
            let (operand, rest) ← parseSigned fuel rest
            return (not operand, rest)
          else parsePostfix fuel tokens
      | [] => parsePostfix fuel tokens

def parsePostfix (fuel : Nat) (tokens : List Token) : ParseResult :=
  match fuel with
  | 0 => .error outOfFuel
  | fuel + 1 => do
      let (target, rest) ← parsePrimary fuel tokens
      parsePostfixRest fuel target rest

def parsePostfixRest (fuel : Nat) (target : Expr) (tokens : List Token) : ParseResult :=
  match fuel with
  | 0 => .error outOfFuel
  | fuel + 1 =>
      match tokens with
      | .dot :: .name word :: .leftParen :: rest => do
          let rest ← expect .rightParen rest
          parsePostfixRest fuel (← ofMethod word target) rest
      | .dot :: .name word :: rest => parsePostfixRest fuel (member target word) rest
      | .dot :: _ => .error "expected a property name after `.`"
      | .leftBracket :: rest => do
          let (key, rest) ← parseOr fuel rest
          parsePostfixRest fuel (index target key) (← expect .rightBracket rest)
      | tokens => .ok (target, tokens)

def parsePrimary (fuel : Nat) (tokens : List Token) : ParseResult :=
  match fuel with
  | 0 => .error outOfFuel
  | fuel + 1 =>
      match tokens with
      | .int value :: rest => .ok (literal (.int value), rest)
      | .float value :: rest => .ok (literal (.float value), rest)
      | .text value :: rest => .ok (literal (.text value), rest)
      | .leftParen :: rest => do
          let (inner, rest) ← parseOr fuel rest
          return (inner, ← expect .rightParen rest)
      | .name word :: rest => (ofName word).map (·, rest)
      | token :: _ => .error s!"unexpected token {token.shown}"
      | [] => .error "unexpected end of expression"

end

def enoughFuel (tokens : List Token) : Nat :=
  12 * (tokens.length + 1)

def parseTokens (tokens : List Token) : Except String Expr := do
  let (expr, rest) ← parseOr (enoughFuel tokens) tokens
  match rest with
  | [] => return expr
  | token :: _ => .error s!"unexpected token {token.shown}"

def parse (source : String) : Except String Expr := do
  match ← tokenize source with
  | [] => .error "empty expression"
  | tokens => parseTokens tokens

end MappedSql.Expr
