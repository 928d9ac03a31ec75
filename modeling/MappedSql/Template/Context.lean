import MappedSql.Expr.Eval

namespace MappedSql

structure Context where
  parameter : Value
  bindings : Fields Value
  sql : String
  unique : Nat

def parameterName : String := "_parameter"

def databaseIdName : String := "_databaseId"

namespace Context

def initial (parameter : Value) (databaseId : Option String) : Context where
  parameter := parameter
  bindings := [(databaseIdName, (databaseId.map Value.text).getD .null)]
  sql := ""
  unique := 0

/-- Names stand for bindings, then the whole parameter, then its fields; a scalar or a list answers
to any name. -/
def lookup (context : Context) : Scope := fun name =>
  match Fields.get? context.bindings name with
  | some value => some value
  | none =>
      if name = parameterName then some context.parameter
      else
        match context.parameter with
        | .null => none
        | .map fields | .record _ fields => Fields.get? fields name
        | scalar => some scalar

def bind (context : Context) (name : String) (value : Value) : Context :=
  { context with bindings := Fields.insert context.bindings name value }

def restore (context : Context) (name : String) (previous : Option Value) : Context :=
  match previous with
  | some value => context.bind name value
  | none => { context with bindings := Fields.erase context.bindings name }

def append (context : Context) (fragment : String) : Context :=
  { context with sql := context.sql ++ fragment }

end Context

/-- A step of rendering, which may fail and leaves its changes to the context in any case. -/
abbrev Render := ExceptT Error (StateM Context)

namespace Render

def evaluate (source : String) (failure : Error → Error) : Render Value := do
  match Expr.evaluate source (← get).lookup with
  | .ok value => return value
  | .error e => throw (failure e)

/-- Runs a step on an empty SQL buffer, and returns what it wrote beside its result. The buffer is
put back in any case. -/
def isolated {α : Type} (body : Render α) : Render (α × String) := fun context =>
  match body { context with sql := "" } with
  | (.ok result, after) => (.ok (result, after.sql), { after with sql := context.sql })
  | (.error e, after) => (.error e, { after with sql := context.sql })

end Render

end MappedSql
