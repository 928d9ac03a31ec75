import MappedSql.Proofs.Storage.Answering

namespace MappedSql.Storage

namespace Command

def endsCursor : Command → Bool
  | cursorClose | shutdown => true
  | _ => false

def isOfCursor : Command → Bool
  | cursorNext => true
  | command => command.endsCursor

theorem eq_cursorNext {command : Command} (own : command.isOfCursor = true)
    (goesOn : command.endsCursor = false) : command = .cursorNext := by
  cases command <;> simp_all [isOfCursor, endsCursor]

end Command

namespace Worker

variable {ε : Type} {engine : Engine ε} {state : ε × Worker}

def left (engine : Engine ε) (commands : List Command) (state : ε × Worker) : ε × Worker :=
  (answerAll engine commands state).2

theorem left_cons (command : Command) (rest : List Command) :
    left engine (command :: rest) state = left engine rest (answer engine command state).2 :=
  rfl

theorem left_append (first rest : List Command) :
    left engine (first ++ rest) state = left engine rest (left engine first state) := by
  induction first generalizing state with
  | nil => rfl
  | cons command first ih => exact ih

theorem answerAll_append (first rest : List Command) :
    (answerAll engine (first ++ rest) state).1 =
      (answerAll engine first state).1 ++ (answerAll engine rest (left engine first state)).1 := by
  induction first generalizing state with
  | nil => rfl
  | cons command first ih => exact congrArg (_ :: ·) ih

theorem answerAll_cons {command : Command} {result : Except Error command.Answer}
    {after : ε × Worker} (answered : answer engine command state = (result, after))
    (rest : List Command) :
    (answerAll engine (command :: rest) state).1 =
      ⟨command, result⟩ :: (answerAll engine rest after).1 := by
  rw [answerAll, Action.run, answered]

theorem commands_answerAll (commands : List Command) :
    (answerAll engine commands state).1.map Exchange.command = commands := by
  induction commands generalizing state with
  | nil => rfl
  | cons command rest ih => exact congrArg (command :: ·) ih

theorem left_of_stopped (stopped : state.2.stopped = true) (commands : List Command) :
    left engine commands state = state := by
  induction commands with
  | nil => rfl
  | cons command rest ih =>
      rw [left_cons, answer_of_stopped _ stopped]
      exact ih

theorem setCursor_apply (cursor : Option OpenCursor) :
    setCursor cursor state = (.ok (), (state.1, { state.2 with cursor := cursor })) :=
  rfl

theorem cursorNext_rows (rows : List (List StoredValue)) :
    cursorNext engine (.rows rows) state =
      (.ok rows.head?, (state.1, { state.2 with cursor := some (.rows rows.tail) })) :=
  rfl

theorem cursorNext_waiting (sql : String) (parameters : List StoredValue) :
    cursorNext engine (.waiting sql parameters) state =
      match engine.query sql parameters state.1 with
      | (.ok rows, store) =>
          (.ok rows.head?, (store, { state.2 with cursor := some (.rows rows.tail) }))
      | (.error e, store) => (.error e, (store, { state.2 with cursor := some (.rows []) })) := by
  rw [cursorNext, Action.bind_apply, remaining, Action.bind_apply, setCursor_apply]
  simp only [Action.onFirst_apply]
  rcases engine.query sql parameters state.1 with ⟨e | rows, store⟩ <;> rfl

theorem serveBeside_of_other {command : Command} (other : command.isOfCursor = false)
    (cursor : OpenCursor) : serveBeside engine cursor command = failWith busy := by
  cases command <;> first | rfl | cases other

def HasCursor (state : ε × Worker) : Prop :=
  state.2.stopped = false ∧ state.2.cursor.isSome = true

namespace HasCursor

theorem answers (isOpen : HasCursor state) (engine : Engine ε) :
    ∃ cursor, ∀ command, answer engine command state = serveBeside engine cursor command state := by
  obtain ⟨cursor, found⟩ := Option.isSome_iff_exists.1 isOpen.2
  exact ⟨cursor, fun command => answer_of_open command isOpen.1 found⟩

theorem refuses (isOpen : HasCursor state) {command : Command}
    (other : command.isOfCursor = false) :
    answer engine command state = (.error (.of busy), state) := by
  obtain ⟨cursor, answers⟩ := isOpen.answers engine
  rw [answers, serveBeside_of_other other]
  rfl

theorem cursorNext (isOpen : HasCursor state) (cursor : OpenCursor) :
    HasCursor (Worker.cursorNext engine cursor state).2 := by
  cases cursor with
  | rows rows => exact ⟨isOpen.1, rfl⟩
  | waiting sql parameters =>
      rw [cursorNext_waiting]
      rcases engine.query sql parameters state.1 with ⟨e | rows, store⟩ <;> exact ⟨isOpen.1, rfl⟩

theorem answered (isOpen : HasCursor state) {command : Command}
    (goesOn : command.endsCursor = false) : HasCursor (answer engine command state).2 := by
  cases own : command.isOfCursor with
  | false =>
      rw [isOpen.refuses own]
      exact isOpen
  | true =>
      obtain rfl := Command.eq_cursorNext own goesOn
      obtain ⟨cursor, answers⟩ := isOpen.answers engine
      rw [answers]
      exact isOpen.cursorNext cursor

theorem left (isOpen : HasCursor state) {during : List Command}
    (goesOn : ∀ command ∈ during, command.endsCursor = false) :
    HasCursor (Worker.left engine during state) := by
  induction during generalizing state with
  | nil => exact isOpen
  | cons command rest ih =>
      exact ih (isOpen.answered (goesOn command (by simp))) fun other within =>
        goesOn other (by simp [within])

theorem closes (isOpen : HasCursor state) :
    answer engine .cursorClose state = (.ok (), (state.1, { state.2 with cursor := none })) := by
  obtain ⟨cursor, answers⟩ := isOpen.answers engine
  exact answers .cursorClose

end HasCursor

theorem openCursor_eq_ok {sql : String} {parameters : List StoredValue} {columns : Columns}
    {opened : ε × Worker}
    (went : answer engine (.openCursor sql parameters) state = (.ok columns, opened)) :
    state.2.stopped = false ∧ state.2.cursor = none ∧
      opened.2 = { state.2 with cursor := some (.waiting sql parameters) } := by
  obtain ⟨running, free⟩ := free_of_answer (fun _ => rfl) went
  rw [answer_of_free _ running free, serve, openCursor] at went
  obtain ⟨columns', middle, started, rest⟩ := Action.bind_eq_ok.1 went
  obtain ⟨store, -, rfl⟩ := Action.onFirst_eq_ok.1 started
  obtain ⟨done, last, set, same⟩ := Action.bind_eq_ok.1 rest
  cases set
  cases same
  exact ⟨running, free, rfl⟩

theorem worker_answer (engine : Engine ε) (command : Command) (state : ε × Worker) :
    ∃ cursor, (answer engine command state).2.2 =
      { state.2 with cursor := cursor, stopped := state.2.stopped || command == .shutdown } := by
  cases running : state.2.stopped with
  | true =>
      rw [answer_of_stopped _ running]
      exact ⟨_, congrArg (Worker.mk _ _) running⟩
  | false =>
      cases found : state.2.cursor with
      | none =>
          rw [answer_of_free _ running found]
          cases command with
          | openCursor sql parameters =>
              rw [serve, openCursor_apply]
              split <;> exact ⟨_, congrArg (Worker.mk _ _) running⟩
          | shutdown => exact ⟨_, rfl⟩
          | _ => exact ⟨_, congrArg (Worker.mk _ _) running⟩
      | some cursor =>
          rw [answer_of_open _ running found]
          cases command with
          | cursorNext =>
              cases cursor with
              | rows rows => exact ⟨_, congrArg (Worker.mk _ _) running⟩
              | waiting sql parameters =>
                  rw [serveBeside, cursorNext_waiting]
                  split <;> exact ⟨_, congrArg (Worker.mk _ _) running⟩
          | shutdown => exact ⟨_, rfl⟩
          | _ => exact ⟨_, congrArg (Worker.mk _ _) running⟩

theorem autocommit_left (commands : List Command) :
    (left engine commands state).2.autocommit = state.2.autocommit := by
  induction commands generalizing state with
  | nil => rfl
  | cons command rest ih =>
      obtain ⟨cursor, worker⟩ := worker_answer engine command state
      rw [left_cons, ih, worker]

theorem running_left {commands : List Command} (goesOn : .shutdown ∉ commands)
    (running : state.2.stopped = false) : (left engine commands state).2.stopped = false := by
  induction commands generalizing state with
  | nil => exact running
  | cons command rest ih =>
      obtain ⟨first, later⟩ := List.ne_and_not_mem_of_not_mem_cons goesOn
      obtain ⟨cursor, worker⟩ := worker_answer engine command state
      rw [left_cons]
      refine ih later ?_
      rw [worker, running]
      simpa using first.symm

theorem waiting_of_answer {command : Command} {sql : String} {parameters : List StoredValue}
    (waits : (answer engine command state).2.2.cursor = some (.waiting sql parameters)) :
    command = .openCursor sql parameters ∧ (answer engine command state).1.isOk = true ∨
      state.2.cursor = some (.waiting sql parameters) ∧
        (answer engine command state).2.1 = state.1 := by
  cases running : state.2.stopped with
  | true =>
      rw [answer_of_stopped _ running] at waits ⊢
      exact .inr ⟨waits, rfl⟩
  | false =>
      cases found : state.2.cursor with
      | none =>
          rw [answer_of_free _ running found] at waits ⊢
          cases command with
          | openCursor sql' parameters' =>
              rw [serve, openCursor_apply] at waits ⊢
              split at waits
              · cases waits
                exact .inl ⟨rfl, rfl⟩
              · cases found.symm.trans waits
          | shutdown => cases waits
          | _ => cases found.symm.trans waits
      | some cursor =>
          rw [answer_of_open _ running found] at waits ⊢
          cases command with
          | cursorNext =>
              cases cursor with
              | rows rows => cases waits
              | waiting sql' parameters' =>
                  rw [serveBeside, cursorNext_waiting] at waits
                  split at waits <;> cases waits
          | cursorClose => cases waits
          | shutdown => cases waits
          | _ => exact .inr ⟨found.symm.trans waits, rfl⟩

def Exchange.row? : Exchange → Option (Except Error (Option (List StoredValue)))
  | ⟨.cursorNext, answer⟩ => some answer
  | _ => none

def fetched (exchanges : List Exchange) : List (Except Error (Option (List StoredValue))) :=
  exchanges.filterMap Exchange.row?

theorem fetched_cons_next (answer : Except Error (Option (List StoredValue)))
    (rest : List Exchange) : fetched (⟨.cursorNext, answer⟩ :: rest) = answer :: fetched rest :=
  rfl

theorem fetched_cons_of_other {command : Command} (other : command.isOfCursor = false)
    (answer : Except Error command.Answer) (rest : List Exchange) :
    fetched (⟨command, answer⟩ :: rest) = fetched rest := by
  cases command <;> first | rfl | cases other

def handedOut (rows : List (List StoredValue)) (count : Nat) :
    List (Except Error (Option (List StoredValue))) :=
  (List.range count).map fun i => .ok rows[i]?

theorem handedOut_succ (rows : List (List StoredValue)) (count : Nat) :
    handedOut rows (count + 1) = .ok rows.head? :: handedOut rows.tail count := by
  simp [handedOut, List.range_succ_eq_map, Function.comp_def, List.head?_eq_getElem?]

def OpenCursor.HandsOut (engine : Engine ε) (store : ε) (all : List (List StoredValue)) :
    OpenCursor → Prop
  | .rows remaining => remaining = all
  | .waiting sql parameters => (engine.query sql parameters store).1 = .ok all

def HandsOut (engine : Engine ε) (state : ε × Worker) (rows : List (List StoredValue)) : Prop :=
  state.2.stopped = false ∧
    ∃ cursor, state.2.cursor = some cursor ∧ OpenCursor.HandsOut engine state.1 rows cursor

namespace HandsOut

variable {rows : List (List StoredValue)}

theorem hasCursor (hands : HandsOut engine state rows) : HasCursor state := by
  obtain ⟨running, cursor, isOpen, -⟩ := hands
  exact ⟨running, Option.isSome_of_eq_some isOpen⟩

theorem next (hands : HandsOut engine state rows) :
    ∃ after, answer engine .cursorNext state = (.ok rows.head?, after) ∧
      HandsOut engine after rows.tail := by
  obtain ⟨running, cursor, isOpen, has⟩ := hands
  rw [answer_of_open _ running isOpen, serveBeside]
  cases cursor with
  | rows remaining =>
      obtain rfl := has
      exact ⟨_, cursorNext_rows _, running, _, rfl, rfl⟩
  | waiting sql parameters =>
      have asked : engine.query sql parameters state.1 = (.ok rows, _) := Prod.ext has rfl
      rw [cursorNext_waiting, asked]
      exact ⟨_, rfl, running, _, rfl, rfl⟩

theorem fetched (hands : HandsOut engine state rows) {during : List Command}
    (goesOn : ∀ command ∈ during, command.endsCursor = false) :
    fetched (answerAll engine during state).1 = handedOut rows (during.count .cursorNext) := by
  induction during generalizing state rows with
  | nil => rfl
  | cons command rest ih =>
      have later : ∀ other ∈ rest, other.endsCursor = false := fun other within =>
        goesOn other (by simp [within])
      cases own : command.isOfCursor with
      | false =>
          have different : command ≠ .cursorNext := by
            rintro rfl
            cases own
          rw [List.count_cons_of_ne different, ← ih hands later,
            answerAll_cons (hands.hasCursor.refuses own), fetched_cons_of_other own]
      | true =>
          obtain rfl := Command.eq_cursorNext own (goesOn _ (by simp))
          obtain ⟨after, answered, hands'⟩ := hands.next
          rw [List.count_cons_self, handedOut_succ, ← ih hands' later, answerAll_cons answered,
            fetched_cons_next]

end HandsOut

end Worker

end MappedSql.Storage
