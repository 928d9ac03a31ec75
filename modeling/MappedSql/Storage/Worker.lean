import MappedSql.Action
import MappedSql.Rows.Basic
import MappedSql.Storage.Value

/-!
# Workers

A worker owns a connection to a store and answers one command after the other. Without autocommit it
begins a transaction before the first execution after a commit or rollback. While a cursor is open
it answers nothing but the cursor's own commands. It stops at the command to shut down, which takes
back what was not committed.
-/

namespace MappedSql.Storage

structure Engine (ε : Type) where
  inTransaction : ε → Bool
  begin : Action ε Unit
  commit : Action ε Unit
  rollback : Action ε Unit
  prepare : String → Action ε Columns
  bind : String → List StoredValue → Action ε Unit
  execute : String → List StoredValue → Action ε Nat
  query : String → List StoredValue → Action ε (List (List StoredValue))
  lastKey : ε → Value

inductive Command
  | prepare (sql : String)
  | execute (sql : String) (parameters : List StoredValue) (returnKeys : Bool)
  | executeBatch (sql : String) (entries : List (List StoredValue)) (returnKeys : Bool)
  | query (sql : String) (parameters : List StoredValue)
  | openCursor (sql : String) (parameters : List StoredValue)
  | cursorNext
  | cursorClose
  | commit
  | rollback
  | shutdown
  deriving DecidableEq

/-- What a command is answered with: counts of rows with generated keys, headings, or rows. -/
@[reducible] def Command.Answer : Command → Type
  | .execute .. => Nat × List Value
  | .executeBatch .. => List Nat × List Value
  | .query .. => Columns × List (List StoredValue)
  | .openCursor .. => Columns
  | .cursorNext => Option (List StoredValue)
  | _ => Unit

/-- A cursor whose query is still to be run, or the rows that it has left. -/
inductive OpenCursor
  | waiting (sql : String) (parameters : List StoredValue)
  | rows (remaining : List (List StoredValue))
  deriving DecidableEq

structure Worker where
  autocommit : Bool
  cursor : Option OpenCursor := none
  stopped : Bool := false
  deriving DecidableEq

namespace Worker

variable {ε : Type} (engine : Engine ε)

def beginIfNeeded (autocommit : Bool) : Action ε Unit := do
  if !autocommit && !engine.inTransaction (← get) then engine.begin

def start (autocommit : Bool) (sql : String) : Action ε Columns := do
  beginIfNeeded engine autocommit
  engine.prepare sql

def executeOnce (sql : String) (returnKeys : Bool) (parameters : List StoredValue) :
    Action ε (Nat × List Value) := do
  let count ← engine.execute sql parameters
  let key ← Action.read engine.lastKey
  return (count, if returnKeys then [key] else [])

def executeEntries (sql : String) (returnKeys : Bool) :
    List (List StoredValue) → Action ε (List Nat × List Value)
  | [] => return ([], [])
  | parameters :: rest => do
      let (count, keys) ← executeOnce engine sql returnKeys parameters
      let (counts, others) ← executeEntries sql returnKeys rest
      return (count :: counts, keys ++ others)

def ifInTransaction (act : Action ε Unit) : Action ε Unit := do
  if engine.inTransaction (← get) then act

def setCursor (cursor : Option OpenCursor) : Action (ε × Worker) Unit :=
  modify fun (store, worker) => (store, { worker with cursor := cursor })

def openCursor (autocommit : Bool) (sql : String) (parameters : List StoredValue) :
    Action (ε × Worker) Columns := do
  let columns ← (do
    let columns ← start engine autocommit sql
    engine.bind sql parameters
    return columns : Action ε Columns).onFirst
  setCursor (some (.waiting sql parameters))
  return columns

/-- The rows that a cursor has left. Its query runs when the first row is asked for; if it fails
there are none. -/
def remaining : OpenCursor → Action (ε × Worker) (List (List StoredValue))
  | .rows remaining => return remaining
  | .waiting sql parameters => do
      setCursor (some (.rows []))
      (engine.query sql parameters).onFirst

def cursorNext (cursor : OpenCursor) : Action (ε × Worker) (Option (List StoredValue)) := do
  let rows ← remaining engine cursor
  setCursor (some (.rows rows.tail))
  return rows.head?

def stop : Action (ε × Worker) Unit := do
  modify fun (store, worker) => (store, { worker with cursor := none, stopped := true })
  (ifInTransaction engine engine.rollback).quietly.onFirst

def serve (autocommit : Bool) : (command : Command) → Action (ε × Worker) command.Answer
  | .prepare sql => (do let _ ← engine.prepare sql : Action ε Unit).onFirst
  | .execute sql parameters returnKeys =>
      (do
        let _ ← start engine autocommit sql
        executeOnce engine sql returnKeys parameters : Action ε (Nat × List Value)).onFirst
  | .executeBatch sql entries returnKeys =>
      (do
        let _ ← start engine autocommit sql
        executeEntries engine sql returnKeys entries : Action ε (List Nat × List Value)).onFirst
  | .query sql parameters =>
      (do
        let columns ← start engine autocommit sql
        return (columns, ← engine.query sql parameters) :
          Action ε (Columns × List (List StoredValue))).onFirst
  | .openCursor sql parameters => openCursor engine autocommit sql parameters
  | .cursorNext => return none
  | .cursorClose => return ()
  | .commit => (ifInTransaction engine engine.commit).onFirst
  | .rollback => (ifInTransaction engine engine.rollback).onFirst
  | .shutdown => stop engine

def busy : Cause :=
  .execution "the SQLite connection is busy with an open cursor"

def serveBeside (cursor : OpenCursor) : (command : Command) → Action (ε × Worker) command.Answer
  | .cursorNext => cursorNext engine cursor
  | .cursorClose => setCursor none
  | .shutdown => stop engine
  | _ => failWith busy

def answer (command : Command) : Action (ε × Worker) command.Answer := do
  let worker ← Action.read (·.2)
  if worker.stopped then failWith (.connection "SQLite worker closed")
  match worker.cursor with
  | none => serve engine worker.autocommit command
  | some cursor => serveBeside engine cursor command

structure Exchange where
  command : Command
  answer : Except Error command.Answer

def answerAll : List Command → ε × Worker → List Exchange × (ε × Worker)
  | [], state => ([], state)
  | command :: rest, state =>
      let (result, state) := (answer engine command).run state
      let (exchanges, state) := answerAll rest state
      (⟨command, result⟩ :: exchanges, state)

end Worker

end MappedSql.Storage
