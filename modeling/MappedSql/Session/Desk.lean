import MappedSql.Session

namespace MappedSql

abbrev Named (α : Type) := List (String × α)

namespace Named

variable {α : Type}

def remove (things : Named α) (name : String) : Named α :=
  things.filter (·.1 != name)

def put (things : Named α) (name : String) (a : α) : Named α :=
  (name, a) :: remove things name

end Named

/-- An executor without a session, with interceptors of its own. -/
structure BareExecutor (σ : Type) where
  executor : Executor
  extra : Chain σ

structure Desk (σ : Type) where
  source : σ
  shared : SharedCaches
  sessions : Named Session := []
  cursors : Named Cursor := []
  executors : Named (BareExecutor σ) := []

namespace Desk

variable {σ α : Type} (pipeline : Pipeline σ) (desk : Desk σ)

def closeSession (session : Session) : Desk σ :=
  let (_, after) := (Session.close pipeline).run ⟨desk.source, desk.shared, session, .null⟩
  { desk with source := after.source, shared := after.shared }

def putSession (name : String) (session : Session) : Desk σ :=
  let after := { desk with sessions := desk.sessions.put name session }
  match desk.sessions.lookup name with
  | some old => after.closeSession pipeline old
  | none => after

def dropSession (name : String) : Bool × Desk σ :=
  match desk.sessions.lookup name with
  | some session =>
      (true,
        { desk with sessions := desk.sessions.remove name }.closeSession pipeline session)
  | none => (false, desk)

def call (name : String) (session : Session) (parameter : Value) (act : Session.Act σ α) :
    Except Error α × Value × Desk σ :=
  let (result, after) := act.run ⟨desk.source, desk.shared, session, parameter⟩
  (result, after.parameter,
    { desk with
      source := after.source
      shared := after.shared
      sessions := desk.sessions.put name after.session })

def closeCursor (cursor : Cursor) : Desk σ :=
  { desk with source := cursor.drop pipeline.source desk.source }

def putCursor (name : String) (cursor : Cursor) : Desk σ :=
  let after := { desk with cursors := desk.cursors.put name cursor }
  match desk.cursors.lookup name with
  | some old => after.closeCursor pipeline old
  | none => after

def dropCursor (name : String) (cursor : Cursor) : Desk σ :=
  { desk with cursors := desk.cursors.remove name }.closeCursor pipeline cursor

def onCursor (name : String) (cursor : Cursor) (act : Action (σ × Cursor) α) :
    Except Error α × Cursor × Desk σ :=
  let (result, (source, cursor)) := act.run (desk.source, cursor)
  (result, cursor, { desk with source := source, cursors := desk.cursors.put name cursor })

def putExecutor (name : String) (bare : BareExecutor σ) : Desk σ :=
  let after := { desk with executors := desk.executors.put name bare }
  match desk.executors.lookup name with
  | some old => { after with source := old.executor.drop pipeline after.source }
  | none => after

def work (name : String) (bare : BareExecutor σ) (parameter : Value)
    (act : Pipeline σ → Work σ α) : Except Error α × Value × Desk σ :=
  let (result, after) := (act { pipeline with extra := bare.extra }).run
    ⟨desk.source, desk.shared, bare.executor, parameter⟩
  (result, after.parameter,
    { desk with
      source := after.source
      shared := after.shared
      executors := desk.executors.put name { bare with executor := after.executor } })

end Desk

end MappedSql
