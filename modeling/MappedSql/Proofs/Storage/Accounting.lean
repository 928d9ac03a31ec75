import MappedSql.Proofs.Storage.Cursors
import MappedSql.Proofs.Storage.Transacting

namespace MappedSql.Storage

def Command.runsStatement : Command → Bool
  | execute .. | executeBatch .. | query .. | openCursor .. => true
  | _ => false

namespace Worker

variable {ε δ : Type}

def batchTasks (engine : Engine ε) (sql : String) (entries : List (List StoredValue))
    (state : ε × Worker) : List Task :=
  if state.2.stopped || state.2.cursor.isSome then []
  else
    match start engine state.2.autocommit sql state.1 with
    | (.ok _, store) => executed engine sql entries store
    | (.error _, _) => []

def performed (engine : Engine ε) (command : Command) (state : ε × Worker) : List Task :=
  match command with
  | .execute sql parameters _ | .query sql parameters =>
      seenThrough (answer engine command state).1 [(sql, parameters)]
  | .executeBatch sql entries _ => batchTasks engine sql entries state
  | .cursorNext =>
      match state.2.cursor with
      | some (.waiting sql parameters) =>
          seenThrough (answer engine command state).1 [(sql, parameters)]
      | _ => []
  | _ => []

structure Books where
  kept : List Task := []
  pending : List Task := []

namespace Books

/-- A successful commit keeps what is pending, and a successful rollback loses it. A transaction that
ends otherwise loses it too. -/
def note (books : Books) (engine : Engine ε) (command : Command) (state : ε × Worker) : Books :=
  let (result, after) := answer engine command state
  if command = .commit ∧ result.isOk then ⟨books.kept ++ books.pending, []⟩
  else if command = .rollback ∧ result.isOk then ⟨books.kept, []⟩
  else if engine.inTransaction after.1 then
    ⟨books.kept, books.pending ++ performed engine command state⟩
  else ⟨books.kept, []⟩

def noteAll (engine : Engine ε) : List Command → ε × Worker → Books → Books
  | [], _, books => books
  | command :: rest, state, books =>
      noteAll engine rest (answer engine command state).2 (books.note engine command state)

end Books

variable {engine : Engine ε} {contents : Contents ε δ} {state : ε × Worker}

structure Steady (engine : Engine ε) (contents : Contents ε δ) (state : ε × Worker) : Prop where
  valid : contents.Valid state.1
  manual : state.2.autocommit = false
  inside : ∀ {sql parameters}, state.2.cursor = some (.waiting sql parameters) →
    engine.inTransaction state.1 = true

theorem performed_of_refused {command : Command} {e : Error}
    (refused : answer engine command state = (.error e, state))
    (engaged : (state.2.stopped || state.2.cursor.isSome) = true) :
    performed engine command state = [] := by
  cases command with
  | execute sql parameters returnKeys =>
      rw [performed, refused]
      rfl
  | query sql parameters =>
      rw [performed, refused]
      rfl
  | executeBatch sql entries returnKeys => exact if_pos engaged
  | cursorNext =>
      rw [performed, refused]
      split <;> rfl
  | _ => rfl

section laws

variable (laws : engine.Transacts contents)
include laws

theorem rolledBack {store : ε} (valid : contents.Valid store) :
    contents.Advances engine [] store (ifInTransaction engine engine.rollback store).2 ∧
      ((ifInTransaction engine engine.rollback store).1.isOk = true →
        engine.inTransaction (ifInTransaction engine engine.rollback store).2 = false) := by
  rw [ifInTransaction_apply]
  split
  · next inside => exact laws.rollsBack valid inside rfl
  · next outside =>
      exact ⟨(Contents.Same.refl valid).advances, fun _ => Bool.eq_false_iff.2 outside⟩

theorem uncommitted_advances {store : ε} (valid : contents.Valid store)
    (failed : (ifInTransaction engine engine.commit store).1.isOk = false) :
    contents.Advances engine [] store (ifInTransaction engine engine.commit store).2 := by
  rw [ifInTransaction_apply] at failed ⊢
  split at failed
  · next inside =>
      rw [if_pos inside]
      rcases ran : engine.commit store with ⟨e | done, after⟩ <;> rw [ran] at failed
      · exact laws.failsToCommit valid inside ran
      · cases failed
  · cases failed

theorem binds_performs (sql : String) (parameters : List StoredValue) (columns : Columns) :
    engine.Performs contents [] (do engine.bind sql parameters; return columns : Action ε Columns) :=
  ((laws.binds sql parameters).map fun _ => columns).performs

theorem serve_advances (valid : contents.Valid state.1) {command : Command}
    (running : state.2.stopped = false) (free : state.2.cursor = none)
    (manual : state.2.autocommit = false)
    (uncommitted : command = .commit → (answer engine command state).1.isOk = false) :
    contents.Advances engine (performed engine command state) state.1
      (answer engine command state).2.1 := by
  have served : answer engine command state = serve engine false command state := by
    rw [answer_of_free command running free, manual]
  cases command with
  | prepare sql =>
      rw [served]
      exact (((laws.prepares sql).map fun _ => ()) valid rfl).1.advances
  | execute sql parameters returnKeys =>
      rw [performed, served]
      exact (start_performs laws (fun _ => executeOnce_performs laws sql returnKeys parameters)
        valid rfl).1
  | executeBatch sql entries returnKeys =>
      rw [performed, batchTasks, running, free, manual, served]
      change contents.Advances engine _ state.1 ((start engine false sql >>= fun _ =>
        executeEntries engine sql returnKeys entries) state.1).2
      rw [Action.bind_apply]
      rcases started : start engine false sql state.1 with ⟨e | columns, middle⟩
      · exact (start_same laws valid started).1.advances
      · obtain ⟨same, inside⟩ := start_same laws valid started
        exact (executeEntries_advances laws same.valid (inside rfl) rfl).1.after_same same
  | query sql parameters =>
      rw [performed, served]
      exact (start_performs laws (fun columns => (laws.queries sql parameters).map (columns, ·))
        valid rfl).1
  | openCursor sql parameters =>
      rw [served, serve, openCursor_apply]
      rcases opened : (start engine false sql >>= fun columns => do
        engine.bind sql parameters; return columns : Action ε Columns) state.1 with ⟨e | columns, store⟩
        <;> exact (start_performs laws (binds_performs laws sql parameters) valid opened).1
  | cursorNext =>
      rw [performed, served, free]
      exact (Contents.Same.refl valid).advances
  | cursorClose =>
      rw [served]
      exact (Contents.Same.refl valid).advances
  | commit =>
      -- a commit that goes through is no advance but a publication, and is told apart in the books
      have failed := uncommitted rfl
      rw [served] at failed ⊢
      exact uncommitted_advances laws valid failed
  | rollback =>
      rw [served]
      exact (rolledBack laws valid).1
  | shutdown =>
      rw [served]
      exact (rolledBack laws valid).1

theorem next_advances (steady : Steady engine contents state) {cursor : OpenCursor}
    (running : state.2.stopped = false) (isOpen : state.2.cursor = some cursor) :
    contents.Advances engine (performed engine .cursorNext state) state.1
      (answer engine .cursorNext state).2.1 := by
  have next : answer engine .cursorNext state = serveBeside engine cursor .cursorNext state :=
    answer_of_open _ running isOpen
  rw [performed, next, isOpen, serveBeside]
  cases cursor with
  | rows rows => exact (Contents.Same.refl steady.valid).advances
  | waiting sql parameters =>
      dsimp only
      rw [cursorNext_waiting]
      rcases asked : engine.query sql parameters state.1 with ⟨e | rows, after⟩
      · exact (laws.queries sql parameters steady.valid (steady.inside isOpen) asked).1
      · exact (laws.queries sql parameters steady.valid (steady.inside isOpen) asked).1

theorem answer_advances (steady : Steady engine contents state) {command : Command}
    (uncommitted : command = .commit → (answer engine command state).1.isOk = false) :
    contents.Advances engine (performed engine command state) state.1
      (answer engine command state).2.1 := by
  have unchanged : contents.Advances engine [] state.1 state.1 :=
    (Contents.Same.refl steady.valid).advances
  cases running : state.2.stopped with
  | true =>
      have refused : answer engine command state =
          (.error (.of (.connection "SQLite worker closed")), state) :=
        answer_of_stopped command running
      rw [performed_of_refused refused (by rw [running]; rfl), refused]
      exact unchanged
  | false =>
      cases found : state.2.cursor with
      | none => exact serve_advances laws steady.valid running found steady.manual uncommitted
      | some cursor =>
          have isOpen : HasCursor state := ⟨running, Option.isSome_of_eq_some found⟩
          cases own : command.isOfCursor with
          | false =>
              have refused : answer engine command state = (.error (.of busy), state) :=
                isOpen.refuses own
              rw [performed_of_refused refused (by rw [isOpen.2, Bool.or_true]), refused]
              exact unchanged
          | true =>
              have answered : answer engine command state = serveBeside engine cursor command state :=
                answer_of_open command running found
              cases command with
              | cursorNext => exact next_advances laws steady running found
              | cursorClose =>
                  rw [answered]
                  exact unchanged
              | shutdown =>
                  rw [answered]
                  exact (rolledBack laws steady.valid).1
              | _ => cases own

theorem inTransaction_of_answer (valid : contents.Valid state.1) (manual : state.2.autocommit = false)
    {command : Command} (runs : command.runsStatement = true)
    (went : (answer engine command state).1.isOk = true) :
    engine.inTransaction (answer engine command state).2.1 = true := by
  rcases ran : answer engine command state with ⟨e | result, after⟩ <;> rw [ran] at went
  · cases went
  have kept : ∀ cursor, serveBeside engine cursor command = failWith busy := by
    intro cursor
    cases command <;> first | rfl | cases runs
  have served := serve_of_answer kept ran
  rw [manual] at served
  cases command with
  | execute sql parameters returnKeys =>
      obtain ⟨store, went', rfl⟩ := Action.onFirst_eq_ok.1 served
      exact (start_performs laws (fun _ => executeOnce_performs laws sql returnKeys parameters)
        valid went').2 rfl
  | executeBatch sql entries returnKeys =>
      obtain ⟨store, went', rfl⟩ := Action.onFirst_eq_ok.1 served
      obtain ⟨columns, middle, started, entered⟩ := Action.bind_eq_ok.1 went'
      obtain ⟨same, inside⟩ := start_same laws valid started
      exact (executeEntries_advances laws same.valid (inside rfl) entered).2 rfl
  | query sql parameters =>
      obtain ⟨store, went', rfl⟩ := Action.onFirst_eq_ok.1 served
      exact (start_performs laws (fun columns => (laws.queries sql parameters).map (columns, ·))
        valid went').2 rfl
  | openCursor sql parameters =>
      obtain ⟨columns, middle, opened, rest⟩ := Action.bind_eq_ok.1 served
      obtain ⟨store, went', rfl⟩ := Action.onFirst_eq_ok.1 opened
      cases rest
      exact (start_performs laws (binds_performs laws sql parameters) valid went').2 rfl
  | _ => cases runs

theorem commit_answered (valid : contents.Valid state.1)
    (went : (answer engine .commit state).1.isOk = true) :
    contents.Valid (answer engine .commit state).2.1 ∧
      engine.inTransaction (answer engine .commit state).2.1 = false ∧
        contents.committed (answer engine .commit state).2.1 = contents.working state.1 := by
  rcases ran : answer engine .commit state with ⟨e | done, after⟩ <;> rw [ran] at went
  · cases went
  obtain ⟨store, committed, rfl⟩ := Action.onFirst_eq_ok.1 (serve_of_answer (fun _ => rfl) ran)
  rw [ifInTransaction_apply] at committed
  split at committed
  · next inside => exact laws.commits valid inside committed
  · next outside =>
      have settled := Bool.eq_false_iff.2 outside
      cases committed
      exact ⟨valid, settled, (laws.settled valid settled).symm⟩

theorem rollback_answered (valid : contents.Valid state.1)
    (went : (answer engine .rollback state).1.isOk = true) :
    contents.Valid (answer engine .rollback state).2.1 ∧
      engine.inTransaction (answer engine .rollback state).2.1 = false ∧
        contents.committed (answer engine .rollback state).2.1 = contents.committed state.1 := by
  rcases ran : answer engine .rollback state with ⟨e | done, after⟩ <;> rw [ran] at went
  · cases went
  obtain ⟨store, rolled, rfl⟩ := Action.onFirst_eq_ok.1 (serve_of_answer (fun _ => rfl) ran)
  obtain ⟨advances, outside⟩ := rolledBack laws valid
  rw [rolled] at advances outside
  exact ⟨advances.valid, outside rfl, advances.committed⟩

theorem Steady.answered (steady : Steady engine contents state) (command : Command) :
    Steady engine contents (answer engine command state).2 where
  valid := by
    by_cases committed : command = .commit ∧ (answer engine command state).1.isOk = true
    · obtain ⟨rfl, went⟩ := committed
      exact (commit_answered laws steady.valid went).1
    · exact (answer_advances laws steady fun same =>
        Bool.eq_false_iff.2 fun went => committed ⟨same, went⟩).valid
  manual := by
    obtain ⟨cursor, worker⟩ := worker_answer engine command state
    rw [worker]
    exact steady.manual
  inside := by
    intro sql parameters waits
    obtain ⟨rfl, went⟩ | ⟨waited, same⟩ := waiting_of_answer waits
    · exact inTransaction_of_answer laws steady.valid steady.manual rfl went
    · rw [same]
      exact steady.inside waited

theorem Steady.left (steady : Steady engine contents state) (commands : List Command) :
    Steady engine contents (left engine commands state) := by
  induction commands generalizing state with
  | nil => exact steady
  | cons command rest ih => exact ih (steady.answered laws command)

structure Accounted (contents : Contents ε δ) (initial : δ) (books : Books) (store : ε) : Prop where
  kept : contents.Replays books.kept initial (contents.committed store)
  pending : contents.Replays books.pending (contents.committed store) (contents.working store)

theorem Accounted.note {initial : δ} {books : Books} (steady : Steady engine contents state)
    (accounted : Accounted contents initial books state.1) (command : Command) :
    Accounted contents initial (books.note engine command state)
      (answer engine command state).2.1 := by
  have nothing : ∀ {store}, contents.Valid store → engine.inTransaction store = false →
      contents.Replays [] (contents.committed store) (contents.working store) := by
    intro store valid outside
    rw [laws.settled valid outside]
    exact .nil _
  rw [Books.note]
  dsimp only
  split
  · next committed =>
      obtain ⟨rfl, went⟩ := committed
      obtain ⟨valid, outside, made⟩ := commit_answered laws steady.valid went
      exact ⟨made ▸ accounted.kept.append accounted.pending, nothing valid outside⟩
  · next uncommitted =>
      have advances := answer_advances laws steady fun same =>
        Bool.eq_false_iff.2 fun went => uncommitted ⟨same, went⟩
      have kept : contents.Replays books.kept initial
          (contents.committed (answer engine command state).2.1) :=
        advances.committed ▸ accounted.kept
      split
      · next rolled =>
          obtain ⟨rfl, went⟩ := rolled
          obtain ⟨valid, outside, -⟩ := rollback_answered laws steady.valid went
          exact ⟨kept, nothing valid outside⟩
      · split
        · next inside =>
            refine ⟨kept, ?_⟩
            rw [advances.committed]
            exact accounted.pending.append (advances.working inside)
        · next outside => exact ⟨kept, nothing advances.valid (Bool.eq_false_iff.2 outside)⟩

theorem Accounted.noteAll {initial : δ} {books : Books} (steady : Steady engine contents state)
    (accounted : Accounted contents initial books state.1) (commands : List Command) :
    Accounted contents initial (books.noteAll engine commands state)
      (Worker.left engine commands state).1 := by
  induction commands generalizing state books with
  | nil => exact accounted
  | cons command rest ih =>
      exact ih (steady.answered laws command) (accounted.note laws steady command)

theorem shutdown_answered (steady : Steady engine contents state)
    (running : state.2.stopped = false) :
    (answer engine .shutdown state).2.2.stopped = true ∧
      contents.committed (answer engine .shutdown state).2.1 = contents.committed state.1 ∧
        ((engine.rollback state.1).1.isOk = true →
          engine.inTransaction (answer engine .shutdown state).2.1 = false) := by
  have stops : answer engine .shutdown state = stop engine state := by
    cases found : state.2.cursor with
    | none => exact answer_of_free _ running found
    | some cursor => exact answer_of_open _ running found
  obtain ⟨advances, outside⟩ := rolledBack laws steady.valid
  rw [stops, stop_apply]
  refine ⟨rfl, advances.committed, fun went => outside ?_⟩
  rw [ifInTransaction_apply]
  split
  · exact went
  · rfl

end laws

end Worker

end MappedSql.Storage
