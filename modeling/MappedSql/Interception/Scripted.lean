import MappedSql.Interception.Chain

namespace MappedSql

/-- What a scripted interceptor does, in the order of the fields; what is absent is passed over.
A timeout may be taken away. -/
structure InterceptorScript where
  fail : Option String := none
  answer : Option Outcome := none
  parameter : Option Value := none
  bounds : Option RowBounds := none
  sql : Option String := none
  additional : Option (String × Value) := none
  timeout : Option (Option Nat) := none
  args : Option Args := none
  closesCursor : Bool := false
  failAfter : Option String := none
  replacement : Option Outcome := none

namespace InterceptorScript

variable {σ : Type}

def rewriteParameter (value : Value) : Args → Work σ Args
  | .query statement _ bounds => return .query statement value bounds
  | .keyedQuery statement _ bounds key bound => return .keyedQuery statement value bounds key bound
  | .update statement => do
      Work.setParameter value
      return .update statement
  | .statementWithParameter statement => do
      Work.setParameter value
      return .statementWithParameter statement
  | args => return args

def rewriteBounds (bounds : RowBounds) : Args → Args
  | .query statement parameter _ => .query statement parameter bounds
  | .keyedQuery statement parameter _ key bound => .keyedQuery statement parameter bounds key bound
  | args => args

def rewriteBound (change : BoundSql → BoundSql) : Args → Args
  | .keyedQuery statement parameter bounds key bound =>
      .keyedQuery statement parameter bounds key (change bound)
  | args => args

def rewriteTimeout (timeout : Option Nat) : Args → Args
  | .prepare connection _ => .prepare connection timeout
  | args => args

def applyIf {α : Type} (rewrite : α → Args → Args) : Option α → Args → Args
  | some a, args => rewrite a args
  | none, args => args

def rewrite (source : DataSource σ) (script : InterceptorScript) (args : Args) : Work σ Args := do
  let args ← match script.parameter with
    | some value => rewriteParameter value args
    | none => pure args
  let args := applyIf rewriteBounds script.bounds args
  let args := applyIf (fun sql => rewriteBound ({ · with sql := sql })) script.sql args
  let args := applyIf (fun (name, value) => rewriteBound (·.setAdditional name value))
    script.additional args
  let args := applyIf rewriteTimeout script.timeout args
  match script.args with
  | some others => do
      Work.onSource (modify (args.drop source))
      return others
  | none => return args

def closeCursor (source : DataSource σ) (outcome : Outcome) : Work σ Outcome :=
  match outcome with
  | .cursor cursor => do
      let (closed, cursor) ← Work.onSource (Action.beside cursor (Cursor.close source))
      closed
      return .cursor cursor
  | outcome => return outcome

/-- What an interceptor notes about the end of a call: the kind of outcome, or the cause. -/
def ending : Except Error Outcome → Except Cause String
  | .ok outcome => .ok outcome.kind
  | .error e => .error e.cause

def dropAny (source : DataSource σ) : Except Error Outcome → Work σ Unit
  | .ok outcome => Work.onSource (modify (outcome.drop source))
  | .error _ => return ()

def conclude (source : DataSource σ) (script : InterceptorScript) (result : Except Error Outcome) :
    Work σ Outcome := do
  match script.failAfter, script.replacement, result with
  | some text, _, result => do
      dropAny source result
      failWith (.interception text)
  | none, some replacement, .ok outcome => do
      dropAny source (.ok outcome)
      return replacement
  | none, _, result => result

def intercept (source : DataSource σ) (noteBefore : Method → String → σ → σ)
    (noteAfter : Method → Except Cause String → σ → σ)
    (script : InterceptorScript) (method : Method) (args : Args)
    (proceed : Args → Work σ Outcome) : Work σ Outcome := do
  Work.onSource (modify (noteBefore method args.kind))
  match script.fail, script.answer with
  | some text, _ => do
      Work.onSource (modify (args.drop source))
      failWith (.interception text)
  | none, some answer => do
      Work.onSource (modify (args.drop source))
      return answer
  | none, none => do
      let args ← script.rewrite source args
      let result ← (proceed args).attempt
      let result ← match script.closesCursor, result with
        | true, .ok outcome => (do return .ok (← closeCursor source outcome))
        | _, result => pure result
      Work.onSource (modify (noteAfter method (ending result)))
      script.conclude source result

end InterceptorScript

end MappedSql
