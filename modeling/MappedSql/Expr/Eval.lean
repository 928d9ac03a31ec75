import MappedSql.Expr.Parser
import MappedSql.Value.Print

namespace MappedSql

abbrev Scope := String → Option Value

/-- Null is false, numbers are true when they are not zero, and all else but `false` is true. -/
def Value.truthy : Value → Bool
  | .null => false
  | .bool value => value
  | .int value => value != 0
  | .float value => !value.isZero
  | _ => true

def Timestamp.order (s t : Timestamp) : Ordering :=
  (compare s.year t.year).then <| (compare s.month t.month).then <| (compare s.day t.day).then <|
    (compare s.hour t.hour).then <| (compare s.minute t.minute).then <|
    (compare s.second t.second).then <| compare s.nano t.nano

namespace Expr

abbrev Evaluated := Except String

def memberOf (name : String) : Value → Evaluated Value
  | .null => .ok .null
  | .map fields | .record _ fields => .ok ((Fields.get? fields name).getD .null)
  | other => .error s!"no property `{name}` on a {other.kind.name} value"

def elementOf (target key : Value) : Evaluated Value :=
  match target, key with
  | .null, _ => .ok .null
  | .list items, .int n =>
      if n.toInt < 0 then .error s!"negative index {n.toInt}"
      else .ok ((items[n.toInt.toNat]?).getD .null)
  | .map fields, key | .record _ fields, key =>
      .ok ((Fields.get? fields key.display).getD .null)
  | target, _ => .error s!"cannot index a {target.kind.name} value"

def sizeOf : Value → Evaluated Nat
  | .list items => .ok items.length
  | .map fields | .record _ fields => .ok fields.length
  | .text s => .ok s.length
  | .blob bytes => .ok bytes.length
  | other => .error s!"{other.kind.name} value has no size"

def exactInt (n : Int) : Evaluated Value :=
  match Number.int64? n with
  | some n => .ok (.int n)
  | none => .error "integer overflow"

def negate : Value → Evaluated Value
  | .int n => exactInt (-n.toInt)
  | .float x => .ok (.float x.neg)
  | other => .error s!"cannot negate a {other.kind.name} value"

def sum (left right : Value) : Evaluated Value :=
  match left, right with
  | .text _, _ | _, .text _ => .ok (.text (left.display ++ right.display))
  | .int a, .int b => exactInt (a.toInt + b.toInt)
  | _, _ =>
      match left.float?, right.float? with
      | some a, some b => .ok (.float (a.add b))
      | _, _ => .error s!"cannot add {left.kind.name} and {right.kind.name}"

def difference (left right : Value) : Evaluated Value :=
  match left, right with
  | .int a, .int b => exactInt (a.toInt - b.toInt)
  | _, _ =>
      match left.float?, right.float? with
      | some a, some b => .ok (.float (a.sub b))
      | _, _ => .error s!"cannot subtract {right.kind.name} from {left.kind.name}"

def isNumber : Value → Bool
  | .int _ | .float _ => true
  | _ => false

def equalValues (left right : Value) : Bool :=
  if isNumber left && isNumber right then
    match left.float?, right.float? with
    | some a, some b => a.numEq b
    | _, _ => false
  else left.same right

def orderOf? (left right : Value) : Option Ordering :=
  match left, right with
  | .int a, .int b => some (Ord.compare a.toInt b.toInt)
  | .text a, .text b => some (if a < b then .lt else if a = b then .eq else .gt)
  | .timestamp a, .timestamp b => some (a.order b)
  | _, _ =>
      if isNumber left && isNumber right then
        match left.float?, right.float? with
        | some a, some b => a.compare? b
        | _, _ => none
      else none

def holds (comparison : Comparison) (order : Ordering) : Bool :=
  match comparison with
  | .eq => order == .eq
  | .ne => order != .eq
  | .lt => order == .lt
  | .le => order != .gt
  | .gt => order == .gt
  | .ge => order != .lt

def compareValues (comparison : Comparison) (left right : Value) : Evaluated Bool :=
  match comparison with
  | .eq => .ok (equalValues left right)
  | .ne => .ok (!equalValues left right)
  | _ =>
      match orderOf? left right with
      | some order => .ok (holds comparison order)
      | none => .error s!"cannot order {left.kind.name} against {right.kind.name}"

def eval (scope : Scope) : Expr → Evaluated Value
  | literal value => .ok value
  | var name => .ok ((scope name).getD .null)
  | member target name => do memberOf name (← eval scope target)
  | index target key => do
      let target ← eval scope target
      let key ← eval scope key
      elementOf target key
  | size target => do
      let count ← sizeOf (← eval scope target)
      return .int (Int64.ofNat count)
  | isEmpty target => do
      let count ← sizeOf (← eval scope target)
      return .bool (count == 0)
  | not operand => do return .bool (!(← eval scope operand).truthy)
  | neg operand => do negate (← eval scope operand)
  | and left right => do
      let left ← eval scope left
      if !left.truthy then return .bool false
      else return .bool (← eval scope right).truthy
  | or left right => do
      let left ← eval scope left
      if left.truthy then return .bool true
      else return .bool (← eval scope right).truthy
  | compare comparison left right => do
      let left ← eval scope left
      let right ← eval scope right
      return .bool (← compareValues comparison left right)
  | add left right => do
      let left ← eval scope left
      let right ← eval scope right
      sum left right
  | sub left right => do
      let left ← eval scope left
      let right ← eval scope right
      difference left right

def failure (source message : String) : Error :=
  .of (.expression s!"`{source}`: {message}")

def compile (source : String) : Except Error Expr :=
  (parse source).mapError (failure source)

def evaluate (source : String) (scope : Scope) : Except Error Value := do
  let expr ← compile source
  (expr.eval scope).mapError (failure source)

def evaluateBool (source : String) (scope : Scope) : Except Error Bool :=
  (evaluate source scope).map Value.truthy

end Expr

end MappedSql
