import MappedSql.Error

namespace MappedSql

def Action (S α : Type) : Type :=
  S → Except Error α × S

namespace Action

variable {S T α β : Type}

def run (act : Action S α) (state : S) : Except Error α × S :=
  act state

instance : Monad (Action S) where
  pure a := fun state => (.ok a, state)
  bind act next := fun state =>
    match act state with
    | (.ok a, state) => next a state
    | (.error e, state) => (.error e, state)

instance : MonadExceptOf Error (Action S) where
  throw e := fun state => (.error e, state)
  tryCatch act handle := fun state =>
    match act state with
    | (.ok a, state) => (.ok a, state)
    | (.error e, state) => handle e state

instance : MonadStateOf S (Action S) where
  get := fun state => (.ok state, state)
  set state := fun _ => (.ok (), state)
  modifyGet f := fun state =>
    let (a, state) := f state
    (.ok a, state)

def ofResult (result : Except Error α) : Action S α :=
  fun state => (result, state)

instance : MonadLift (Except Error) (Action S) :=
  ⟨ofResult⟩

def read (view : S → α) : Action S α :=
  fun state => (.ok (view state), state)

def attempt (act : Action S α) : Action S (Except Error α) :=
  fun state =>
    let (result, state) := act state
    (.ok result, state)

def quietly (act : Action S α) : Action S Unit :=
  fun state => (.ok (), (act state).2)

def within (part : S → T) (put : S → T → S) (act : Action T α) : Action S α :=
  fun state =>
    let (result, after) := act (part state)
    (result, put state after)

def onFirst (act : Action S α) : Action (S × T) α :=
  within Prod.fst (fun state first => (first, state.2)) act

/-- Runs an action that changes a value beside the state; hands on how it went, and the value. -/
def beside (value : T) (act : Action (S × T) α) : Action S (Except Error α × T) :=
  fun state =>
    let (result, (state, value)) := act (state, value)
    (.ok (result, value), state)

def inContext (context : String) (act : Action S α) : Action S α :=
  fun state =>
    let (result, state) := act state
    (withContext (fun _ => context) result, state)

theorem pure_apply (a : α) (state : S) : (pure a : Action S α) state = (.ok a, state) :=
  rfl

theorem bind_apply (act : Action S α) (next : α → Action S β) (state : S) :
    (act >>= next) state =
      match act state with
      | (.ok a, after) => next a after
      | (.error e, after) => (.error e, after) :=
  rfl

theorem get_apply (state : S) : (get : Action S S) state = (.ok state, state) :=
  rfl

theorem set_apply (state before : S) : (set state : Action S PUnit) before = (.ok (), state) :=
  rfl

end Action

end MappedSql
