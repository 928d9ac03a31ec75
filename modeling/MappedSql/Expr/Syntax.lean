import MappedSql.Value.Basic

namespace MappedSql

inductive Comparison
  | eq
  | ne
  | lt
  | le
  | gt
  | ge
  deriving DecidableEq, Repr

inductive Expr
  | literal (value : Value)
  | var (name : String)
  | member (target : Expr) (name : String)
  | index (target key : Expr)
  | size (target : Expr)
  | isEmpty (target : Expr)
  | not (operand : Expr)
  | neg (operand : Expr)
  | and (left right : Expr)
  | or (left right : Expr)
  | compare (comparison : Comparison) (left right : Expr)
  | add (left right : Expr)
  | sub (left right : Expr)
  deriving Inhabited

def Expr.vars : Expr → List String
  | literal _ => []
  | var name => [name]
  | member target _ | size target | isEmpty target | not target | neg target => target.vars
  | index a b | and a b | or a b | compare _ a b | add a b | sub a b => a.vars ++ b.vars

end MappedSql
