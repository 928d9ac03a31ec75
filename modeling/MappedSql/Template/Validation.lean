import MappedSql.Expr.Eval
import MappedSql.Placeholder.Basic
import MappedSql.Template.Node

namespace MappedSql.Node

def checkExpression (part source : String) : Except Error Unit :=
  match Expr.compile source with
  | .ok _ => .ok ()
  | .error e => .error (e.inContext s!"{part} `{source}`")

def checkTokens : List String → Except Error Unit
  | [] => .ok ()
  | content :: rest => do
      checkExpression "$\x7b\x7d" (Text.trimmed content)
      checkTokens rest

mutual

def validate : Node → Except Error Unit
  | static s => validatePlaceholders s
  | text raw _ => do
      checkTokens (Piece.contents (Piece.ofText '$' raw))
      validatePlaceholders raw
  | mixed children => validateAll children
  | cond test contents => do
      checkExpression "if test" test
      validate contents
  | choose branches otherwise => do
      validateBranches branches
      validateOtherwise otherwise
  | trim _ contents => validate contents
  | forEach loop contents => do
      checkExpression "foreach collection" loop.collection
      validate contents
  | bind _ source => checkExpression "bind value" source

def validateAll : List Node → Except Error Unit
  | [] => .ok ()
  | node :: rest => do
      validate node
      validateAll rest

def validateBranches : List (String × Node) → Except Error Unit
  | [] => .ok ()
  | (test, contents) :: rest => do
      checkExpression "when test" test
      validate contents
      validateBranches rest

def validateOtherwise : Option Node → Except Error Unit
  | none => .ok ()
  | some node => validate node

end

end MappedSql.Node
