import MappedSql.Session.Desk

namespace MappedSql

variable {σ α : Type}

namespace Named

theorem lookup_remove_self (things : Named α) (name : String) :
    (things.remove name).lookup name = none := by
  unfold remove
  induction things with
  | nil => rfl
  | cons thing rest ih =>
      obtain ⟨own, a⟩ := thing
      by_cases same : own = name
      · simpa only [List.filter, same, bne_self_eq_false] using ih
      · have apart : (name == own) = false := by simpa using Ne.symm same
        simp only [List.filter, bne_iff_ne.mpr same, List.lookup_cons, apart, ih]

theorem lookup_remove_of_ne (things : Named α) {name other : String} (differ : other ≠ name) :
    (things.remove name).lookup other = things.lookup other := by
  unfold remove
  induction things with
  | nil => rfl
  | cons thing rest ih =>
      obtain ⟨own, a⟩ := thing
      by_cases same : own = name
      · subst same
        have apart : (other == own) = false := by simpa using differ
        simp only [List.filter, bne_self_eq_false, List.lookup_cons, apart]
        exact ih
      · simp only [List.filter, bne_iff_ne.mpr same, List.lookup_cons, ih]

theorem lookup_put_self (things : Named α) (name : String) (a : α) :
    (things.put name a).lookup name = some a := by
  simp [put]

theorem lookup_put_of_ne (things : Named α) {name other : String} (a : α)
    (differ : other ≠ name) : (things.put name a).lookup other = things.lookup other := by
  have apart : (other == name) = false := by simpa using differ
  rw [put, List.lookup_cons, apart]
  exact lookup_remove_of_ne things differ

end Named

namespace Session

/-- A call of a session. -/
inductive Call : Type 1
  | list (id : String) (bounds : RowBounds)
  | one (id : String)
  | cursor (id : String) (bounds : RowBounds)
  | select (id : String) (bounds : RowBounds) {τ : Type} (receive : Nat → Value → Action τ Bool)
      (receiver : τ)
  | update (id : String)
  | flush
  | commit (force : Bool)
  | rollback (force : Bool)
  | clearCache
  | close

def Call.statement? : Call → Option String
  | list id _ => some id
  | one id => some id
  | cursor id _ => some id
  | select id _ _ _ => some id
  | update id => some id
  | flush | commit _ | rollback _ | clearCache | close => none

def Call.act (pipeline : Pipeline σ) : Call → Act σ Unit
  | list id bounds => do let _ ← Session.list pipeline id bounds
  | one id => do let _ ← Session.one pipeline id
  | cursor id bounds => do let _ ← Session.cursor pipeline id bounds
  | select id bounds receive receiver => do
      let _ ← Session.select pipeline id bounds receive receiver
  | update id => do let _ ← Session.update pipeline id
  | flush => do let _ ← Session.flush pipeline
  | commit force => Session.commit pipeline force
  | rollback force => Session.rollback pipeline force
  | clearCache => Session.clearCache
  | close => Session.close pipeline

end Session

namespace Desk

/-- What can happen next at a desk. -/
inductive Move (σ : Type) : Type 1
  | opens (name : String) (kind : ExecutorKind) (transaction : Transaction) (autocommit : Bool)
      (drains : Drains)
  | calls (name : String) (parameter : Value) (call : Session.Call)
  | drops (name : String)
  | elsewhere (source : σ)

/-- The desk after a move. A session that is not there is not called. -/
def play (pipeline : Pipeline σ) (desk : Desk σ) : Move σ → Desk σ
  | .opens name kind transaction autocommit drains =>
      desk.putSession pipeline name (.onTransaction kind transaction autocommit drains)
  | .calls name parameter call =>
      match desk.sessions.lookup name with
      | some session => (desk.call name session parameter (call.act pipeline)).2.2
      | none => desk
  | .drops name => (desk.dropSession pipeline name).2
  | .elsewhere source => { desk with source := source }

end Desk

namespace Session

/-- What the caller gets from a call that goes through; a cursor is kept aside. -/
def Call.Reply : Call → Type
  | list _ _ => List Value
  | one _ => Option Value
  | cursor _ _ => Unit
  | @select _ _ τ _ _ => Except Error Unit × τ
  | update _ => Nat
  | flush => List BatchResult
  | commit _ => Unit
  | rollback _ => Unit
  | clearCache => Unit
  | close => Unit

def Call.ask (pipeline : Pipeline σ) : (call : Call) → Act σ (call.Reply × List Cursor)
  | list id bounds => do return (← Session.list pipeline id bounds, [])
  | one id => do return (← Session.one pipeline id, [])
  | cursor id bounds => do return ((), [← Session.cursor pipeline id bounds])
  | select id bounds receive receiver => do
      return (← Session.select pipeline id bounds receive receiver, [])
  | update id => do return (← Session.update pipeline id, [])
  | flush => do return (← Session.flush pipeline, [])
  | commit force => do return (← Session.commit pipeline force, [])
  | rollback force => do return (← Session.rollback pipeline force, [])
  | clearCache => do return (← Session.clearCache, [])
  | close => do return (← Session.close pipeline, [])

end Session

structure Visit (σ : Type) where
  source : σ
  shared : SharedCaches
  session : Session
  cursors : List Cursor := []

def Pipeline.over (source : DataSource σ) (statements : List MappedStatement) : Pipeline σ where
  configuration :=
    { settings := {}
      databaseId := none
      registry := .initial
      rules := {}
      statements := statements.map fun statement => (statement.id, statement)
      mappers := []
      chain := []
      source := some source }
  source := source

namespace Visit

/-- What can happen next. Cursors are known by their places. -/
inductive Move : Type 1
  | calls (parameter : Value) (call : Session.Call)
  | next (place : Nat)
  | closes (place : Nat)
  | drops (place : Nat)

/-- What comes of a move: how a call went and the parameter that it leaves, or how an action of a cursor
went, if there is one at the place. -/
def Move.Reply : Move → Type
  | calls _ call => Except Error call.Reply × Value
  | next _ => Option (Except Error (Option Value))
  | closes _ => Option (Except Error Unit)
  | drops _ => Unit

variable (pipeline : Pipeline σ) (visit : Visit σ)

def scene (parameter : Value) : SessionScene σ :=
  ⟨visit.source, visit.shared, visit.session, parameter⟩

def onCursor {α : Type} (place : Nat) (act : Action (σ × Cursor) α) :
    Option (Except Error α) × Visit σ :=
  match visit.cursors[place]? with
  | some cursor =>
      let (result, (source, cursor)) := act.run (visit.source, cursor)
      (some result, { visit with source := source, cursors := visit.cursors.set place cursor })
  | none => (none, visit)

def leave (after : SessionScene σ) (handed : List Cursor) : Visit σ :=
  { source := after.source
    shared := after.shared
    session := after.session
    cursors := visit.cursors ++ handed }

def ask (parameter : Value) (call : Session.Call) : (Except Error call.Reply × Value) × Visit σ :=
  match call.ask pipeline (visit.scene parameter) with
  | (.ok (reply, handed), after) => ((.ok reply, after.parameter), visit.leave after handed)
  | (.error e, after) => ((.error e, after.parameter), visit.leave after [])

def letGo (place : Nat) : Visit σ :=
  match visit.cursors[place]? with
  | some cursor =>
      { visit with
        source := cursor.drop pipeline.source visit.source
        cursors := visit.cursors.eraseIdx place }
  | none => visit

def step : (move : Move) → move.Reply × Visit σ
  | .calls parameter call => visit.ask pipeline parameter call
  | .next place => visit.onCursor place (Cursor.next pipeline.source)
  | .closes place => visit.onCursor place (Cursor.close pipeline.source)
  | .drops place => ((), visit.letGo pipeline place)

section

variable {pipeline visit}

theorem ask_of_ok {parameter : Value} {call : Session.Call} {reply : call.Reply}
    {handed : List Cursor} {after : SessionScene σ}
    (went : call.ask pipeline (visit.scene parameter) = (.ok (reply, handed), after)) :
    visit.step pipeline (.calls parameter call) = ((.ok reply, after.parameter), visit.leave after handed) := by
  show visit.ask pipeline parameter call = _
  rw [ask, went]

theorem ask_of_error {parameter : Value} {call : Session.Call} {e : Error}
    {after : SessionScene σ}
    (failed : call.ask pipeline (visit.scene parameter) = (.error e, after)) :
    visit.step pipeline (.calls parameter call) = ((.error e, after.parameter), visit.leave after []) := by
  show visit.ask pipeline parameter call = _
  rw [ask, failed]

theorem onCursor_of_none {α : Type} {place : Nat} (none : visit.cursors[place]? = none)
    (act : Action (σ × Cursor) α) : visit.onCursor place act = (Option.none, visit) := by
  unfold onCursor
  rw [none]

theorem onCursor_of_some {α : Type} {place : Nat} {cursor : Cursor}
    (found : visit.cursors[place]? = some cursor) (act : Action (σ × Cursor) α) :
    visit.onCursor place act =
      (some (act (visit.source, cursor)).1,
        { visit with
          source := (act (visit.source, cursor)).2.1
          cursors := visit.cursors.set place (act (visit.source, cursor)).2.2 }) := by
  unfold onCursor
  rw [found]
  rfl

end

def after (moves : List Move) : Visit σ :=
  moves.foldl (fun visit move => (visit.step pipeline move).2) visit

def replies (visit : Visit σ) : List Move → List (Σ move : Move, move.Reply)
  | [] => []
  | move :: rest =>
      ⟨move, (visit.step pipeline move).1⟩ :: replies (visit.step pipeline move).2 rest

theorem after_snoc (moves : List Move) (move : Move) :
    visit.after pipeline (moves ++ [move]) = ((visit.after pipeline moves).step pipeline move).2 := by
  rw [after, List.foldl_append]
  rfl

theorem replies_snoc (moves : List Move) (move : Move) :
    visit.replies pipeline (moves ++ [move]) = visit.replies pipeline moves ++
      [⟨move, ((visit.after pipeline moves).step pipeline move).1⟩] := by
  induction moves generalizing visit with
  | nil => rfl
  | cons first rest ih =>
      rw [List.cons_append, replies, replies, ih]
      rfl

def opened (source : σ) (shared : SharedCaches) (kind : ExecutorKind) (autocommit : Bool)
    (timeout : Option Nat) (drains : Drains) : Visit σ :=
  { source := source
    shared := shared
    session :=
      .onTransaction kind { autocommit := autocommit, timeout := timeout } autocommit drains }

end Visit

end MappedSql
