import MappedSql.Proofs.Storage.Accounting
import MappedSql.Proofs.Storage.Clients

namespace MappedSql.Storage

variable {ε δ α : Type}

/-- An engine that binds, executes and queries as another does when no transaction is open. -/
def Engine.beyond (engine other : Engine ε) : Engine ε :=
  { engine with
    bind := fun sql parameters store =>
      if engine.inTransaction store then engine.bind sql parameters store
      else other.bind sql parameters store
    execute := fun sql parameters store =>
      if engine.inTransaction store then engine.execute sql parameters store
      else other.execute sql parameters store
    query := fun sql parameters store =>
      if engine.inTransaction store then engine.query sql parameters store
      else other.query sql parameters store }

namespace Worker

variable {engine other : Engine ε} {contents : Contents ε δ} {state : ε × Worker} {store : ε}

theorem executeOnce_beyond (sql : String) (returnKeys : Bool) (parameters : List StoredValue)
    (inside : engine.inTransaction store = true) :
    executeOnce (engine.beyond other) sql returnKeys parameters store =
      executeOnce engine sql returnKeys parameters store := by
  rw [executeOnce, executeOnce, Action.bind_apply, Action.bind_apply, Engine.beyond]
  dsimp only
  rw [if_pos inside]

theorem openCursor_congr {sql : String} {parameters : List StoredValue} {autocommit : Bool}
    (same : (start engine autocommit sql >>= fun columns => do
        engine.bind sql parameters; return columns : Action ε Columns) state.1 =
      (start other autocommit sql >>= fun columns => do
        other.bind sql parameters; return columns : Action ε Columns) state.1) :
    openCursor engine autocommit sql parameters state =
      openCursor other autocommit sql parameters state := by
  rw [openCursor_apply, openCursor_apply, same]

section laws

variable (laws : engine.Transacts contents)
include laws

theorem start_bind_congr {sql : String} {next next' : Columns → Action ε α}
    (same : ∀ columns {middle}, contents.Valid middle → engine.inTransaction middle = true →
      next columns middle = next' columns middle) (valid : contents.Valid store) :
    (start engine false sql >>= next) store = (start engine false sql >>= next') store := by
  rw [Action.bind_apply, Action.bind_apply]
  rcases started : start engine false sql store with ⟨e | columns, middle⟩
  · rfl
  · obtain ⟨unchanged, inside⟩ := start_same laws valid started
    exact same columns unchanged.valid (inside rfl)

theorem executeEntries_beyond (sql : String) (returnKeys : Bool) (entries : List (List StoredValue))
    (valid : contents.Valid store) (inside : engine.inTransaction store = true) :
    executeEntries (engine.beyond other) sql returnKeys entries store =
      executeEntries engine sql returnKeys entries store := by
  induction entries generalizing store with
  | nil => rfl
  | cons parameters rest ih =>
      rw [executeEntries, executeEntries, Action.bind_apply, Action.bind_apply,
        executeOnce_beyond _ _ _ inside]
      rcases once : executeOnce engine sql returnKeys parameters store with ⟨e | first, middle⟩
      · rfl
      · obtain ⟨advances, inside'⟩ :=
          executeOnce_performs laws sql returnKeys parameters valid inside once
        dsimp only
        rw [Action.bind_apply, Action.bind_apply, ih advances.valid (inside' rfl)]

theorem serve_beyond (valid : contents.Valid state.1) (command : Command) :
    serve (engine.beyond other) false command state = serve engine false command state := by
  cases command with
  | execute sql parameters returnKeys =>
      exact Action.onFirst_congr (start_bind_congr laws
        (fun _ _ _ inside => executeOnce_beyond sql returnKeys parameters inside) valid)
  | executeBatch sql entries returnKeys =>
      exact Action.onFirst_congr (start_bind_congr laws
        (fun _ _ valid inside => executeEntries_beyond laws sql returnKeys entries valid inside)
        valid)
  | query sql parameters =>
      refine Action.onFirst_congr (start_bind_congr laws (fun columns middle _ inside => ?_) valid)
      rw [Action.bind_apply, Action.bind_apply, Engine.beyond]
      dsimp only
      rw [if_pos inside]
  | openCursor sql parameters =>
      refine openCursor_congr (start_bind_congr laws (fun columns middle _ inside => ?_) valid)
      rw [Action.bind_apply, Action.bind_apply, Engine.beyond]
      dsimp only
      rw [if_pos inside]
  | _ => rfl

theorem answer_beyond (steady : Steady engine contents state) (command : Command) :
    answer (engine.beyond other) command state = answer engine command state := by
  cases running : state.2.stopped with
  | true => rw [answer_of_stopped _ running, answer_of_stopped _ running]
  | false =>
      cases found : state.2.cursor with
      | none =>
          rw [answer_of_free _ running found, answer_of_free _ running found, steady.manual]
          exact serve_beyond laws steady.valid command
      | some cursor =>
          rw [answer_of_open _ running found, answer_of_open _ running found]
          cases command with
          | cursorNext =>
              cases cursor with
              | rows rows => rfl
              | waiting sql parameters =>
                  rw [serveBeside, serveBeside, cursorNext_waiting, cursorNext_waiting,
                    Engine.beyond]
                  dsimp only
                  rw [if_pos (steady.inside found)]
          | _ => rfl

theorem answerAll_beyond (steady : Steady engine contents state) (commands : List Command) :
    answerAll (engine.beyond other) commands state = answerAll engine commands state := by
  induction commands generalizing state with
  | nil => rfl
  | cons command rest ih =>
      rw [answerAll, answerAll, Action.run, Action.run, answer_beyond laws steady]
      dsimp only
      rw [ih (steady.answered laws command)]

end laws

/-- What a worker with an open cursor does after some commands that do not end the cursor. -/
structure Attends (engine : Engine ε) (opened : ε × Worker) (sql : String)
    (parameters : List StoredValue) (during : List Command) : Prop where
  /-- It is busy for every other command, and nothing changes. -/
  refuses : ∀ {command}, command.isOfCursor = false →
    answer engine command (left engine during opened) =
      (.error (.of busy), left engine during opened)
  /-- It has handed out the rows of the query in their order and nothing after them. -/
  fetches : ∀ {rows store}, engine.query sql parameters opened.1 = (.ok rows, store) →
    fetched (answerAll engine during opened).1 = handedOut rows (during.count .cursorNext)
  /-- Closing the cursor changes nothing in the store; then commands are served again. -/
  closes : ∃ closed, answer engine .cursorClose (left engine during opened) = (.ok (), closed) ∧
    closed.1 = (left engine during opened).1 ∧
      ∀ command, answer engine command closed = serve engine opened.2.autocommit command closed

/-- What a worker does with any commands. -/
structure Conducts (engine : Engine ε) (contents : Contents ε δ) (start : ε × Worker) : Prop where
  /-- Every command is answered once. -/
  answers : ∀ commands, (answerAll engine commands start).1.map Exchange.command = commands
  /-- It is answered when its turn comes, after those before it. -/
  inTurn : ∀ before command later,
    (answerAll engine (before ++ command :: later) start).1 =
      (answerAll engine before start).1 ++
        ⟨command, (answer engine command (left engine before start)).1⟩ ::
          (answerAll engine later (left engine (before ++ [command]) start)).1
  attends : ∀ {before sql parameters columns opened during},
    answer engine (.openCursor sql parameters) (left engine before start) = (.ok columns, opened) →
      (∀ command ∈ during, command.endsCursor = false) →
        Attends engine opened sql parameters during
  /-- Without autocommit nothing is bound, executed or queried outside a transaction. -/
  inside : start.2.autocommit = false → ∀ other commands,
    answerAll (engine.beyond other) commands start = answerAll engine commands start
  /-- What was run leaves its transaction open. -/
  opens : start.2.autocommit = false → ∀ {before command}, command.runsStatement = true →
    (answer engine command (left engine before start)).1.isOk = true →
      engine.inTransaction (answer engine command (left engine before start)).2.1 = true
  /-- A rollback that goes through leaves no transaction, and statements see what is committed, which
  is what was committed before. -/
  rollsBack : start.2.autocommit = false → ∀ {before},
    (answer engine .rollback (left engine before start)).1.isOk = true →
      let after := (answer engine .rollback (left engine before start)).2.1
      engine.inTransaction after = false ∧
        contents.committed after = contents.committed (left engine before start).1 ∧
          contents.working after = contents.committed after
  /-- A worker that has shut down leaves what successful commits made final, and no transaction if it
  could roll back. Nothing that it is told later changes that. -/
  remains : start.2.autocommit = false → ∀ {commands}, .shutdown ∉ commands →
    let last := left engine commands start
    let down := (answer engine .shutdown last).2
    contents.Replays (Books.noteAll engine commands start {}).kept
        (contents.committed start.1) (contents.committed down.1) ∧
      ((engine.rollback last.1).1.isOk = true → engine.inTransaction down.1 = false) ∧
        ∀ later, left engine later down = down

theorem attends_of_opened {sql : String} {parameters : List StoredValue} {columns : Columns}
    {opened : ε × Worker}
    (went : answer engine (.openCursor sql parameters) state = (.ok columns, opened))
    {during : List Command} (goesOn : ∀ command ∈ during, command.endsCursor = false) :
    Attends engine opened sql parameters during := by
  obtain ⟨running, -, worker⟩ := openCursor_eq_ok went
  have waits : opened.2.cursor = some (.waiting sql parameters) := by rw [worker]
  have running' : opened.2.stopped = false := by rw [worker]; exact running
  have isOpen : HasCursor opened := ⟨running', Option.isSome_of_eq_some waits⟩
  have stillOpen : HasCursor (left engine during opened) := isOpen.left goesOn
  refine ⟨stillOpen.refuses, fun asked => ?_, _, stillOpen.closes, rfl, fun command => ?_⟩
  · have hands : HandsOut engine opened _ := ⟨running', _, waits, congrArg Prod.fst asked⟩
    exact hands.fetched goesOn
  · refine (answer_of_free command ?_ ?_).trans ?_
    · exact stillOpen.1
    · rfl
    · dsimp only
      rw [autocommit_left]

/-- A worker on a store with transactions keeps to its protocol. -/
theorem conducts_of_transacts (laws : engine.Transacts contents) (valid : contents.Valid store)
    (idle : engine.inTransaction store = false) (autocommit : Bool) :
    Conducts engine contents (store, { autocommit := autocommit }) := by
  have steady : autocommit = false →
      Steady engine contents (store, { autocommit := autocommit }) :=
    fun manual => ⟨valid, manual, fun no => by cases no⟩
  constructor
  case answers => exact commands_answerAll
  case inTurn =>
    intro before command later
    rw [answerAll_append, answerAll_cons rfl, left_append]
    rfl
  case attends =>
    intro before sql parameters columns opened during went goesOn
    exact attends_of_opened went goesOn
  case inside =>
    intro manual other commands
    exact answerAll_beyond laws (steady manual) commands
  case opens =>
    intro manual before command runs went
    have steady' := (steady manual).left laws before
    exact inTransaction_of_answer laws steady'.valid steady'.manual runs went
  case rollsBack =>
    intro manual before went after
    obtain ⟨valid', outside, committed⟩ :=
      rollback_answered laws ((steady manual).left laws before).valid went
    exact ⟨outside, committed, laws.settled valid' outside⟩
  case remains =>
    intro manual commands goesOn last down
    have accounted : Accounted contents (contents.committed store) {} store := by
      refine ⟨.nil _, ?_⟩
      rw [laws.settled valid idle]
      exact .nil _
    have kept := (accounted.noteAll laws (steady manual) commands).kept
    obtain ⟨stopped, same, ends⟩ := shutdown_answered laws ((steady manual).left laws commands)
      (running_left goesOn rfl)
    exact ⟨same ▸ kept, ends, left_of_stopped stopped⟩

def newcomer : Access × Worker :=
  ({}, { autocommit := false })

def visit : List Command :=
  [.execute "create table t (a integer)" [] false, .commit,
    .execute "insert into t (a) values (7)" [] false]

def browsing : Access × Worker :=
  (answer Storage.engine (.openCursor "select a from t" []) (left Storage.engine visit newcomer)).2

theorem conducts_of_transacts_visit :
    Storage.engine.Transacts Access.contents ∧ Access.contents.Valid newcomer.1 ∧
      Storage.engine.inTransaction newcomer.1 = false ∧
      answer Storage.engine (.openCursor "select a from t" [])
        (left Storage.engine visit newcomer) = (.ok ["a"], browsing) ∧
      fetched (answerAll Storage.engine [.cursorNext, .commit, .cursorNext] browsing).1 =
        handedOut [[.integer 7]] 2 ∧
      Access.contents.Replays [("create table t (a integer)", [])] []
        (answer Storage.engine .shutdown browsing).2.1.database.committed.tables ∧
      Storage.engine.inTransaction
        (answer Storage.engine .rollback (left Storage.engine visit newcomer)).2.1 = false := by
  have valid : Access.contents.Valid newcomer.1 :=
    ⟨fun _ => rfl, fun _ => rfl, .nil, .nil, fun _ no => nomatch no⟩
  have conducts : Conducts Storage.engine Access.contents newcomer :=
    conducts_of_transacts Access.engine_transacts valid rfl false
  have opens : answer Storage.engine (.openCursor "select a from t" [])
      (left Storage.engine visit newcomer) = (.ok ["a"], browsing) := Prod.ext rfl rfl
  have asked : Storage.engine.query "select a from t" [] browsing.1 = (.ok [[.integer 7]], _) :=
    Prod.ext rfl rfl
  have goesOn : ∀ command ∈ [Command.cursorNext, .commit, .cursorNext],
      command.endsCursor = false := by decide
  have fetches := (conducts.attends opens goesOn).fetches asked
  have running : .shutdown ∉ visit ++ [.openCursor "select a from t" []] := by decide
  have remains := (conducts.remains rfl running).1
  have kept : (Books.noteAll Storage.engine (visit ++ [.openCursor "select a from t" []])
    newcomer {}).kept = [("create table t (a integer)", [])] := rfl
  rw [left_append, kept] at remains
  have rolledBack := @conducts.rollsBack rfl visit rfl
  exact ⟨Access.engine_transacts, valid, rfl, opens, fetches, remains,
    rolledBack.1⟩

end Worker

end MappedSql.Storage
