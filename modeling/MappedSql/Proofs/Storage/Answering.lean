import MappedSql.Proofs.Triple
import MappedSql.Storage.Worker

namespace MappedSql.Storage.Worker

variable {ε : Type} {engine : Engine ε} {state : ε × Worker}

theorem answer_of_stopped (command : Command) (stopped : state.2.stopped = true) :
    answer engine command state =
      (failWith (.connection "SQLite worker closed") : Action _ _) state := by
  rw [answer, Action.bind_apply, Action.read]
  simp only [stopped]
  rfl

theorem answer_of_free (command : Command) (running : state.2.stopped = false)
    (free : state.2.cursor = none) :
    answer engine command state = serve engine state.2.autocommit command state := by
  rw [answer, Action.bind_apply, Action.read]
  simp only [running, free]
  rfl

theorem answer_of_open (command : Command) {cursor : OpenCursor}
    (running : state.2.stopped = false) (isOpen : state.2.cursor = some cursor) :
    answer engine command state = serveBeside engine cursor command state := by
  rw [answer, Action.bind_apply, Action.read]
  simp only [running, isOpen]
  rfl

theorem free_of_answer {command : Command} {result : command.Answer} {after : ε × Worker}
    (kept : ∀ cursor, serveBeside engine cursor command = failWith busy)
    (ran : answer engine command state = (.ok result, after)) :
    state.2.stopped = false ∧ state.2.cursor = none := by
  cases stopped : state.2.stopped with
  | true =>
      rw [answer_of_stopped _ stopped] at ran
      cases ran
  | false =>
      cases cursor : state.2.cursor with
      | some cursor' =>
          rw [answer_of_open _ stopped cursor, kept] at ran
          cases ran
      | none => exact ⟨rfl, rfl⟩

theorem serve_of_answer {command : Command} {result : command.Answer} {after : ε × Worker}
    (kept : ∀ cursor, serveBeside engine cursor command = failWith busy)
    (ran : answer engine command state = (.ok result, after)) :
    serve engine state.2.autocommit command state = (.ok result, after) := by
  obtain ⟨running, free⟩ := free_of_answer kept ran
  rwa [answer_of_free _ running free] at ran

theorem ifInTransaction_apply (act : Action ε Unit) (store : ε) :
    ifInTransaction engine act store =
      if engine.inTransaction store then act store else (.ok (), store) := by
  rw [ifInTransaction, Action.bind_apply, Action.get_apply]
  dsimp only
  split <;> rfl

theorem openCursor_apply (autocommit : Bool) (sql : String) (parameters : List StoredValue) :
    openCursor engine autocommit sql parameters state =
      match (start engine autocommit sql >>= fun columns => do
        engine.bind sql parameters; return columns : Action ε Columns) state.1 with
      | (.ok columns, store) =>
          (.ok columns, (store, { state.2 with cursor := some (.waiting sql parameters) }))
      | (.error e, store) => (.error e, (store, state.2)) := by
  rw [openCursor, Action.bind_apply, Action.onFirst_apply]
  rcases (start engine autocommit sql >>= fun columns => do
    engine.bind sql parameters; return columns : Action ε Columns) state.1 with ⟨e | columns, store⟩
  · rfl
  · rfl

theorem stop_apply :
    stop engine state = (.ok (), ((ifInTransaction engine engine.rollback state.1).2,
      { state.2 with cursor := none, stopped := true })) :=
  rfl

section keys

variable {sql : String} {returnKeys : Bool} {after : ε × Worker} {keys : List Value}

theorem executeOnce_eq_ok {parameters : List StoredValue} {store after : ε} {count : Nat}
    {keys : List Value}
    (ran : executeOnce engine sql returnKeys parameters store = (.ok (count, keys), after)) :
    keys = if returnKeys then [engine.lastKey after] else [] := by
  simp only [executeOnce, Action.bind_eq_ok, Action.pure_eq_ok] at ran
  obtain ⟨count', middle, executed, key, last, read, same, rfl⟩ := ran
  cases read
  exact (Prod.mk.inj same).2.symm

theorem executeEntries_eq_ok {entries : List (List StoredValue)} {store after : ε}
    {counts : List Nat} {keys : List Value}
    (ran : executeEntries engine sql returnKeys entries store = (.ok (counts, keys), after)) :
    counts.length = entries.length ∧ keys.length = if returnKeys then entries.length else 0 := by
  induction entries generalizing store counts keys with
  | nil =>
      obtain ⟨same, -⟩ := Action.pure_eq_ok.1 ran
      cases same
      simp
  | cons parameters rest ih =>
      simp only [executeEntries, Action.bind_eq_ok, Action.pure_eq_ok] at ran
      obtain ⟨⟨count, first⟩, middle, once, ⟨counts', others⟩, last, later, same, rfl⟩ := ran
      cases same
      obtain ⟨counted, keyed⟩ := ih later
      rw [executeOnce_eq_ok once]
      cases returnKeys <;> simp_all

theorem keys_of_execute {parameters : List StoredValue} {count : Nat}
    (ran : answer engine (.execute sql parameters returnKeys) state = (.ok (count, keys), after)) :
    keys = if returnKeys then [engine.lastKey after.1] else [] := by
  obtain ⟨store, executed, rfl⟩ := Action.onFirst_eq_ok.1 (serve_of_answer (fun _ => rfl) ran)
  obtain ⟨columns, middle, started, once⟩ := Action.bind_eq_ok.1 executed
  exact executeOnce_eq_ok once

theorem keys_of_executeBatch {entries : List (List StoredValue)} {counts : List Nat}
    (ran : answer engine (.executeBatch sql entries returnKeys) state =
      (.ok (counts, keys), after)) :
    counts.length = entries.length ∧ keys.length = if returnKeys then entries.length else 0 := by
  obtain ⟨store, executed, rfl⟩ := Action.onFirst_eq_ok.1 (serve_of_answer (fun _ => rfl) ran)
  obtain ⟨columns, middle, started, entered⟩ := Action.bind_eq_ok.1 executed
  exact executeEntries_eq_ok entered

end keys

end MappedSql.Storage.Worker
