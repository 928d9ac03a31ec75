import MappedSql.Error

namespace MappedSql

inductive Piece
  | plain (text : List Char)
  | token (content : List Char)
  deriving DecidableEq, Repr

namespace Piece

mutual

/-- Splits a text into pieces. `before` holds the plain characters since the last token,
backwards. -/
def scan (mark : Char) (before : List Char) : List Char → List Piece
  | [] => [.plain before.reverse]
  | [c] => [.plain (c :: before).reverse]
  | c :: d :: rest =>
      if c = mark ∧ d = '{' then
        match before with
        | '\\' :: earlier => scan mark ('{' :: mark :: earlier) rest
        | _ => scanToken mark before [] [] rest
      else scan mark (c :: before) (d :: rest)

/-- Goes on inside a token. `raw` holds all characters since its opening and `content` those that
belong to the token, both backwards. -/
def scanToken (mark : Char) (before raw content : List Char) : List Char → List Piece
  | [] => [.plain (before.reverse ++ mark :: '{' :: raw.reverse)]
  | c :: rest =>
      if c = '}' then
        match content with
        | '\\' :: earlier => scanToken mark before (c :: raw) ('}' :: earlier) rest
        | _ => .plain before.reverse :: .token content.reverse :: scan mark [] rest
      else scanToken mark before (c :: raw) (c :: content) rest

end

def ofText (mark : Char) (s : String) : List Piece :=
  scan mark [] s.toList

def isToken : Piece → Bool
  | token _ => true
  | plain _ => false

/-- Writes the pieces, each token replaced by the text that a handler gives for its content. -/
def replaceWith {m : Type → Type} [Monad m] (handler : String → m String) :
    List Piece → m String
  | [] => pure ""
  | .plain text :: rest => do
      let tail ← replaceWith handler rest
      pure (String.ofList text ++ tail)
  | .token content :: rest => do
      let replaced ← handler (String.ofList content)
      let tail ← replaceWith handler rest
      pure (replaced ++ tail)

def contents : List Piece → List String
  | [] => []
  | .plain _ :: rest => contents rest
  | .token content :: rest => String.ofList content :: contents rest

end Piece

def hasToken (mark : Char) (s : String) : Bool :=
  (Piece.ofText mark s).any Piece.isToken

def replaceTokens {m : Type → Type} [Monad m] (mark : Char) (s : String)
    (handler : String → m String) : m String :=
  Piece.replaceWith handler (Piece.ofText mark s)

end MappedSql
