import MappedSql.Interception.Call

namespace MappedSql

/-- `intercept` is given the method, the arguments and the way to proceed. -/
structure Interceptor (σ : Type) where
  name : String
  signatures : List Signature
  intercept : Method → Args → (Args → Work σ Outcome) → Work σ Outcome

structure Registration (σ : Type) where
  interceptor : Interceptor σ
  methods : List Method

def Interceptor.register {σ : Type} (interceptor : Interceptor σ) :
    Except Error (Registration σ) := do
  return ⟨interceptor, ← Signature.resolve interceptor.name interceptor.signatures⟩

abbrev Chain (σ : Type) := List (Registration σ)

namespace Chain

variable {σ α : Type} (source : DataSource σ)

def refuse (method : Method) (args : Args) : Work σ α := do
  Work.onSource (modify (args.drop source))
  failWith (.interception s!"{method.text} cannot be invoked with {args.kind} arguments")

def proceed (shape : Shape α) (method : Method) (target : Args → Work σ α) (args : Args) :
    Work σ Outcome :=
  if args.fit method then shape.wrap <$> target args
  else refuse source method args

def accept (shape : Shape α) (outcome : Outcome) : Work σ α :=
  match shape.unwrap? outcome with
  | some answer => return answer
  | none => do
      Work.onSource (modify (outcome.drop source))
      failWith (.interception
        s!"interceptor returned {outcome.kind} where {shape.kind} was expected")

def wrap (shape : Shape α) (method : Method) (target : Args → Work σ α)
    (registration : Registration σ) : Args → Work σ α :=
  if registration.methods.contains method then fun args => do
    let outcome ← registration.interceptor.intercept method args
      (proceed source shape method target)
    accept source shape outcome
  else target

def around (chain : Chain σ) (shape : Shape α) (method : Method) (target : Args → Work σ α) :
    Args → Work σ α :=
  List.foldl (wrap source shape method) target chain

end Chain

end MappedSql
