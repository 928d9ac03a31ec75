namespace MappedSql

/-- Why an operation failed. Storage reports its own reasons, whose text is its own. -/
inductive Cause
  | storage
  | config (message : String)
  | binding (fragment message : String)
  | expression (message : String)
  | execution (message : String)
  | cache (message : String)
  | interception (message : String)
  | connection (message : String)
  | closed (message : String)
  | unimplemented (message : String)
  deriving DecidableEq, Repr

structure Error where
  contexts : List String
  cause : Cause
  deriving DecidableEq, Repr

namespace Error

def of (cause : Cause) : Error :=
  ⟨[], cause⟩

def inContext (error : Error) (context : String) : Error :=
  ⟨context :: error.contexts, error.cause⟩

end Error

def Cause.kind : Cause → String
  | .storage => "SqliteError"
  | .config _ => "ConfigError"
  | .binding _ _ => "BindingError"
  | .expression _ => "ExpressionError"
  | .execution _ => "ExecutionError"
  | .cache _ => "CacheError"
  | .interception _ => "PluginError"
  | .connection _ => "ConnectionError"
  | .closed _ => "ClosedError"
  | .unimplemented _ => "Unimplemented"

def Cause.message : Cause → String
  | .storage => "<sqlite>"
  | .config message => s!"Configuration error: {message}"
  | .binding fragment message => s!"Binding error in `{fragment}`: {message}"
  | .expression message => s!"Expression error: {message}"
  | .execution message => s!"SQL execution error: {message}"
  | .cache message => s!"Cache error: {message}"
  | .interception message => s!"Plugin error: {message}"
  | .connection message => s!"Connection error: {message}"
  | .closed message => s!"Executor closed: {message}"
  | .unimplemented message => s!"Unimplemented feature: {message}"

def Error.message (error : Error) : String :=
  error.contexts.foldr (fun context text => s!"{context}: {text}") error.cause.message

def failWith {m : Type → Type} [MonadExceptOf Error m] {α : Type} (cause : Cause) : m α :=
  throw (Error.of cause)

def withContext {α : Type} (context : Error → String) (result : Except Error α) :
    Except Error α :=
  result.mapError fun error => error.inContext (context error)

@[simp]
theorem withContext_ok {α : Type} (context : Error → String) (a : α) :
    withContext context (.ok a) = .ok a :=
  rfl

@[simp]
theorem withContext_error {α : Type} (context : Error → String) (e : Error) :
    withContext context (.error e : Except Error α) = .error (e.inContext (context e)) :=
  rfl

end MappedSql
