import Mathlib.Data.List.Induction
import MappedSql.Proofs.Execution.Carrying
import MappedSql.Proofs.Session.Proceeding
import MappedSql.Proofs.Session.Batching
import MappedSql.Proofs.Session.Renewal

/-!
# Where executions come from

What a session on the recording database has executed when it is closed. Every execution comes from a
call of its own, in the order of the calls, and every update that went through has been executed, but
for those of a batching session that were queued when a rollback, the end or a call that failed gave
them up (`Visit.executes_updates`).
-/

namespace MappedSql

open MappedSql.Action (Unlogged)

variable {τ α : Type} {pipeline : Pipeline Recording} {kind : ExecutorKind} {account : Account}

/-! ## Cursors -/

namespace Recording

theorem unlogged_finishStatement (st : StatementId) : (source.finishStatement st).Unlogged id :=
  fun recording => .finishStatement recording st

theorem unlogged_nextRow (rows : RowsId) : (source.nextRow rows).Unlogged id := by
  intro recording
  obtain ⟨result, rowSources, reads⟩ := onRows_nextRow rows recording.rowSources
  obtain ⟨counters, read⟩ := reads recording rfl
  show recording.Logs [] (nextRow rows recording).2
  rw [read]
  exact .of_statements rfl rfl

theorem unlogged_finishRows (rows : RowsId) : (source.finishRows rows).Unlogged id := by
  intro recording
  obtain ⟨result, rowSources, closes⟩ := onRows_finishRows rows recording.rowSources
  obtain ⟨counters, closed⟩ := closes recording rfl
  show recording.Logs [] (source.finishRows rows recording).2
  rw [closed]
  exact .of_statements rfl rfl

end Recording

namespace Cursor

abbrev Quiet (act : Action (Recording × Cursor) α) : Prop :=
  Unlogged Prod.fst act

theorem quiet_onFirst {act : Action Recording α} (unlogged : act.Unlogged id) :
    Quiet (act.onFirst : Action (Recording × Cursor) α) :=
  fun state => unlogged state.1

theorem quiet_update (change : Cursor → Cursor) :
    Quiet (update change : Action (Recording × Cursor) Unit) :=
  fun state => .refl state.1

theorem quiet_release : Quiet (release Recording.source) := by
  refine Unlogged.get.bind fun (_, cursor) => ?_
  have rows : (finishIfAny Recording.source.finishRows cursor.rows).Unlogged id := by
    cases cursor.rows with
    | none => exact .pure ()
    | some rows => exact Recording.unlogged_finishRows rows
  have statement : (finishIfAny Recording.source.finishStatement cursor.statement).Unlogged id := by
    cases cursor.statement with
    | none => exact .pure ()
    | some st => exact Recording.unlogged_finishStatement st
  refine (quiet_update _).bind fun _ => ?_
  refine (quiet_onFirst rows.attempt).bind fun _ => ?_
  exact (quiet_onFirst statement.attempt).bind fun _ => (Unlogged.ofResult _).bind fun _ => .ofResult _

theorem quiet_close : Quiet (close Recording.source) :=
  (quiet_update _).bind fun _ => quiet_release

theorem unlogged_skipRows (rows : RowsId) (count : Nat) :
    (skipRows Recording.source rows count).Unlogged id := by
  induction count with
  | zero => exact .pure true
  | succ count ih =>
      refine (Recording.unlogged_nextRow rows).bind fun row => ?_
      cases row with
      | none => exact .pure false
      | some row => exact ih

theorem quiet_fetch : Quiet (fetch Recording.source) := by
  have skips (rows : RowsId) : Quiet (skipOffset Recording.source rows) := by
    refine Unlogged.get.bind fun (_, cursor) => ?_
    dsimp only
    split
    · exact .pure true
    · exact (quiet_update _).bind fun _ => quiet_onFirst (unlogged_skipRows rows _)
  refine Unlogged.get.bind fun (_, cursor) => ?_
  dsimp only
  split
  · exact .pure none
  · refine (skips _).bind fun inside => ?_
    split
    · exact .pure none
    · split
      · exact .pure none
      · refine (quiet_onFirst (Recording.unlogged_nextRow _)).bind fun row => ?_
        cases row with
        | none => exact .pure none
        | some row => exact (Unlogged.ofResult _).bind fun value => .pure (some value)

theorem quiet_next : Quiet (next Recording.source) := by
  refine Unlogged.get.bind fun (_, cursor) => ?_
  dsimp only
  split
  · exact .pure none
  · refine (quiet_update _).bind fun _ => quiet_fetch.attempt.bind fun result => ?_
    rcases result with e | _ | value
    · exact (quiet_update _).bind fun _ => quiet_release.quietly.bind fun _ => .throw e
    · exact (quiet_update _).bind fun _ => quiet_release.quietly.bind fun _ => .pure none
    · exact (quiet_update _).bind fun _ => .pure (some value)

end Cursor

namespace Session

theorem unlogged_receiveRows (receive : Nat → Value → Action τ Bool) (number steps : Nat) :
    (receiveRows Recording.source receive number steps).Unlogged fun state => state.1.1 := by
  induction steps generalizing number with
  | zero => exact .pure ()
  | succ steps ih =>
      refine Cursor.quiet_next.onFirst.bind fun row => ?_
      cases row with
      | none => exact .pure ()
      | some row =>
          refine Unlogged.bind (fun state => .refl state.1.1) fun enough => ?_
          cases enough with
          | true => exact .pure ()
          | false => exact ih (number + 1)

theorem unlogged_stream (receive : Nat → Value → Action τ Bool) (limit : Nat) :
    (stream Recording.source receive limit).Unlogged fun state => state.1.1 := by
  refine (unlogged_receiveRows receive 1 _).attempt.bind fun result => ?_
  cases result with
  | error e => exact Cursor.quiet_close.quietly.onFirst.bind fun _ => .throw e
  | ok u => exact Cursor.quiet_close.onFirst

/-! ## Calls -/

def outcome (went : Except Error α × SessionScene Recording) : Except Error α × Scene Recording :=
  (went.1, toScene went.2)

def Executes (pipeline : Pipeline Recording) (id : String) (parameter : Value)
    (execution : Execution) : Prop :=
  ∃ statement, pipeline.configuration.statement id = .ok statement ∧
    pipeline.Executes statement parameter execution

def Call.Executes (pipeline : Pipeline Recording) (call : Call) (parameter : Value)
    (execution : Execution) : Prop :=
  ∃ id, call.statement? = some id ∧ Session.Executes pipeline id parameter execution

def Call.Updates : Call → Prop
  | update _ => True
  | _ => False

def Call.Settles : Call → Prop
  | cursor _ _ | select _ _ _ _ | flush | commit _ => True
  | list _ _ | one _ | update _ | rollback _ | clearCache | close => False

def Call.Loses (call : Call) (reply : Except Error call.Reply) : Prop :=
  ¬(call.Forward ∧ ∃ answer, reply = .ok answer ∧ call.Done answer)

section

variable (plain : pipeline.Plain) (recorded : pipeline.source = Recording.source)
  {scene : SessionScene Recording} {asks : Execution → Prop} {raises settles : Prop}

theorem carried_inContext {work : Work Recording α} (message : String)
    (carried : account.Carried pipeline kind asks raises settles (work (toScene scene))) :
    account.Carried pipeline kind asks raises settles
      (outcome ((perform work).inContext message scene)) := by
  rw [perform_apply]
  refine carried.andThen (fun _ => id) fun failed => ?_
  show (withContext (fun _ => message) (work (toScene scene)).1).isOk = false
  cases went : (work (toScene scene)).1 with
  | error e => rfl
  | ok a =>
      rw [went] at failed
      cases failed

theorem carried_named {id : String} {act : MappedStatement → Act Recording α}
    (stands : (toScene scene).Stands pipeline kind account)
    (carried : ∀ statement, account.Carried pipeline kind
      (pipeline.Executes statement scene.parameter) raises settles (outcome (act statement scene))) :
    account.Carried pipeline kind (Session.Executes pipeline id scene.parameter) raises settles
      (outcome (((pipeline.configuration.statement id : Except Error MappedStatement) >>= act :
        Act Recording α) scene)) := by
  cases found : pipeline.configuration.statement id with
  | error e => exact .of_failed rfl stands
  | ok statement => exact (carried statement).mono fun execution asks => ⟨statement, found, asks⟩

include plain recorded

theorem carried_list (id : String) (bounds : RowBounds)
    (stands : (toScene scene).Stands pipeline kind account) :
    account.Carried pipeline kind (Session.Executes pipeline id scene.parameter) False False
      (outcome (list pipeline id bounds scene)) :=
  carried_named stands fun statement => carried_inContext _
    (Executor.carried_query plain recorded statement scene.parameter bounds stands)

theorem carried_one (id : String) (stands : (toScene scene).Stands pipeline kind account) :
    account.Carried pipeline kind (Session.Executes pipeline id scene.parameter) False False
      (outcome (one pipeline id scene)) := by
  have carried := carried_list plain recorded id .unbounded stands
  rw [one, Action.bind_apply]
  rcases went : list pipeline id .unbounded scene with ⟨e | rows, after⟩ <;> rw [went] at carried
  · exact carried
  · refine carried.behind fun _ stands => ?_
    dsimp only
    split <;> exact stands

theorem carried_cursor (id : String) (bounds : RowBounds)
    (stands : (toScene scene).Stands pipeline kind account) :
    account.Carried pipeline kind (Session.Executes pipeline id scene.parameter) False True
      (outcome (cursor pipeline id bounds scene)) :=
  carried_named stands fun statement => carried_inContext _
    (Executor.carried_queryCursor plain recorded statement scene.parameter bounds stands)

theorem goesOn_select (id : String) (bounds : RowBounds) (receive : Nat → Value → Action τ Bool)
    (receiver : τ) (stands : (toScene scene).Stands pipeline kind account) :
    (toScene (select pipeline id bounds receive receiver scene).2).GoesOn pipeline kind account
      (Session.Executes pipeline id scene.parameter) False True
      (Call.Loses (.select id bounds receive receiver)
        (select pipeline id bounds receive receiver scene).1) := by
  have carried := carried_cursor plain recorded id bounds stands
  rw [select, Action.bind_apply, Action.attempt]
  rcases went : cursor pipeline id bounds scene with ⟨e | opened, after⟩ <;> rw [went] at carried
  · refine Scene.GoesOn.mono carried (fun _ asked => asked) .inl .inl
      fun _ kept => ?_
    obtain ⟨-, answer, same, done⟩ := kept
    obtain rfl := Except.ok.inj same
    cases done
  · refine Scene.GoesOn.mono (Scene.GoesOn.andThen carried fun _ stands => stands.quiet ?_)
      (fun _ asked => asked) .inl .inl fun failed => (Bool.false_ne_true failed.symm).elim
    rw [recorded]
    exact .withSource (unlogged_stream receive opened.bounds.limit ((after.source, opened), receiver))

theorem carried_update (id : String) (stands : (toScene scene).Stands pipeline kind account) :
    account.Carried pipeline kind (Session.Executes pipeline id scene.parameter) True False
      (outcome (update pipeline id scene)) := by
  refine carried_named stands fun statement => ?_
  rw [Action.bind_apply]
  exact carried_inContext _ (Executor.carried_update plain recorded statement stands)

theorem carried_flush (stands : (toScene scene).Stands pipeline kind account) :
    account.Carried pipeline kind (fun _ => False) False True (outcome (flush pipeline scene)) :=
  carried_inContext _ (Executor.carried_flush plain recorded stands)

theorem carried_commit (force : Bool) (stands : (toScene scene).Stands pipeline kind account) :
    account.Carried pipeline kind (fun _ => False) False True
      (outcome (commit pipeline force scene)) := by
  have carried := Executor.carried_commit plain recorded (scene.session.required force) stands
  rw [commit_apply, ending_apply]
  rcases went : Executor.commit pipeline (scene.session.required force) (toScene scene) with
    ⟨e | u, after⟩ <;> rw [went] at carried <;> exact carried

theorem goesOn_rollback (force : Bool) (stands : (toScene scene).Stands pipeline kind account) :
    (toScene (rollback pipeline force scene).2).GoesOn pipeline kind account (fun _ => False) False
      False True := by
  rw [rollback_after]
  exact Executor.goesOn_rollback plain recorded (scene.session.required force) stands

omit plain in
theorem goesOn_close (stands : (toScene scene).Stands pipeline kind account) :
    (toScene (close pipeline scene).2).GoesOn pipeline kind account (fun _ => False) False False True ∧
      (toScene (close pipeline scene).2).executor.closed = true := by
  rw [close_apply]
  split
  case isTrue closed => exact ⟨⟨account, .keeps nofun nofun, stands⟩, closed⟩
  case isFalse =>
    rw [marking_after]
    exact Executor.goesOn_close recorded (scene.session.required false) stands

omit plain recorded in
theorem goesOn_of_carried {call : Call} {act : Act Recording α} {reply : α → call.Reply × List Cursor}
    (carried : account.Carried pipeline kind (call.Executes pipeline scene.parameter) call.Updates
      call.Settles (outcome (act scene))) :
    let went := (act >>= fun a => pure (reply a) : Act Recording (call.Reply × List Cursor)) scene
    (toScene went.2).GoesOn pipeline kind account (call.Executes pipeline scene.parameter) call.Updates
      call.Settles (call.Loses (went.1.map Prod.fst)) := by
  rw [Action.bind_apply]
  rcases went : act scene with ⟨e | a, after⟩ <;> rw [went] at carried
  · exact Scene.GoesOn.mono carried (fun _ => id) .inl .inl fun _ ⟨_, _, no, _⟩ => nomatch no
  · exact Scene.GoesOn.mono carried (fun _ => id) .inl .inl nofun

theorem Call.goesOn_ask (call : Call) (stands : (toScene scene).Stands pipeline kind account) :
    (toScene (call.ask pipeline scene).2).GoesOn pipeline kind account
      (call.Executes pipeline scene.parameter) call.Updates call.Settles
      (call.Loses ((call.ask pipeline scene).1.map Prod.fst)) := by
  have named {id : String} {call : Call} (names : call.statement? = some id) (execution : Execution)
      (asks : Session.Executes pipeline id scene.parameter execution) :
      call.Executes pipeline scene.parameter execution := ⟨id, names, asks⟩
  cases call with
  | list id bounds =>
      exact goesOn_of_carried ((carried_list plain recorded id bounds stands).mono (named rfl))
  | one id =>
      exact goesOn_of_carried ((carried_one plain recorded id stands).mono (named rfl))
  | cursor id bounds =>
      exact goesOn_of_carried ((carried_cursor plain recorded id bounds stands).mono (named rfl))
  | select id bounds receive receiver =>
      have goes := goesOn_select plain recorded id bounds receive receiver stands
      rw [Call.ask, Action.bind_apply]
      rcases went : Session.select pipeline id bounds receive receiver scene with ⟨e | reply, after⟩ <;>
        rw [went] at goes <;> exact goes.mono (named rfl) .inl .inl fun loses => loses
  | update id =>
      exact goesOn_of_carried ((carried_update plain recorded id stands).mono (named rfl))
  | flush =>
      exact goesOn_of_carried ((carried_flush plain recorded stands).mono fun _ => False.elim)
  | commit force =>
      exact goesOn_of_carried ((carried_commit plain recorded force stands).mono fun _ => False.elim)
  | rollback force =>
      have goes := goesOn_rollback plain recorded force stands
      rw [Call.ask, bind_pure_after]
      exact goes.mono (fun _ => False.elim) .inl .inl fun _ kept => kept.1
  | clearCache =>
      have left := Executor.core_clearLocal (toScene scene)
      exact ⟨account, .keeps False.elim False.elim, stands.told left⟩
  | close =>
      have goes := (goesOn_close recorded stands).1
      rw [Call.ask, bind_pure_after]
      exact goes.mono (fun _ => False.elim) .inl .inl fun _ kept => kept.1

end

end Session

/-! ## Moves -/

namespace Visit

def Move.Executes (pipeline : Pipeline Recording) (move : Move) (execution : Execution) : Prop :=
  match move with
  | calls parameter call => call.Executes pipeline parameter execution
  | next _ | closes _ | drops _ => False

def Move.Updates : Move → Prop
  | calls _ call => call.Updates
  | next _ | closes _ | drops _ => False

def Move.Settles : Move → Prop
  | calls _ call => call.Settles
  | next _ | closes _ | drops _ => False

def Move.Loses (move : Move) (reply : move.Reply) : Prop :=
  ¬(move.Forward ∧ move.Done reply)

theorem Move.not_loses {move : Move} {reply : move.Reply} (acts : move.Updates ∨ move.Settles)
    (done : move.Done reply) : ¬move.Loses reply := by
  refine fun loses => loses ⟨?_, done⟩
  cases move with
  | calls parameter call => cases call <;> first | exact trivial | exact acts.elim id id
  | next | closes | drops => trivial

def queue (visit : Visit Recording) : List Execution :=
  visit.session.executor.strategy.pending.flatMap (·.entries visit.source)

def Stands (pipeline : Pipeline Recording) (kind : ExecutorKind) (account : Account)
    (visit : Visit Recording) : Prop :=
  (Session.toScene (visit.scene .null)).Stands pipeline kind account

theorem Stands.opened (source : Recording) (shared : SharedCaches) (autocommit : Bool)
    (timeout : Option Nat) (drains : Drains) :
    (opened source shared kind autocommit timeout drains).Stands pipeline kind ⟨source.log, []⟩ := by
  refine ⟨rfl, ?_, fun _ => rfl⟩
  cases kind with
  | simple => exact .simple rfl
  | reuse => exact .reuse rfl nofun
  | batch => exact .batch ⟨rfl, nofun, .nil, nofun⟩

variable {visit : Visit Recording}

theorem Stands.scene (stands : visit.Stands pipeline kind account) (parameter : Value) :
    (Session.toScene (visit.scene parameter)).Stands pipeline kind account :=
  ⟨stands.log, stands.owes, stands.ended⟩

theorem Stands.queue (stands : visit.Stands pipeline kind account) : visit.queue = account.due :=
  Scene.Stands.pending stands

section

variable (plain : pipeline.Plain) (recorded : pipeline.source = Recording.source)

include plain recorded

theorem goesOn_step (stands : visit.Stands pipeline kind account) (move : Move) :
    ∃ next, account.Goes kind (move.Executes pipeline) move.Updates move.Settles
        (move.Loses (visit.step pipeline move).1) next ∧
      (visit.step pipeline move).2.Stands pipeline kind next := by
  have quiet {α : Type} (place : Nat) {act : Action (Recording × Cursor) α}
      (unlogged : Cursor.Quiet act) :
      (visit.onCursor place act).2.Stands pipeline kind account := by
    cases found : visit.cursors[place]? with
    | none =>
        rw [onCursor_of_none found]
        exact stands
    | some cursor =>
        rw [onCursor_of_some found]
        exact stands.quiet (.withSource (unlogged (visit.source, cursor)))
  cases move with
  | calls parameter call =>
      obtain ⟨next, goes, after⟩ :=
        Session.Call.goesOn_ask plain recorded call (stands.scene parameter)
      refine ⟨next, ?_⟩
      rcases went : call.ask pipeline (visit.scene parameter) with ⟨e | ⟨reply, handed⟩, left⟩
      · rw [went] at goes after
        rw [ask_of_error went]
        exact ⟨goes, after.log, after.owes, after.ended⟩
      · rw [went] at goes after
        rw [ask_of_ok went]
        exact ⟨goes, after.log, after.owes, after.ended⟩
  | next place =>
      refine ⟨account, .keeps nofun nofun, ?_⟩
      rw [step, recorded]
      exact quiet place Cursor.quiet_next
  | closes place =>
      refine ⟨account, .keeps nofun nofun, ?_⟩
      rw [step, recorded]
      exact quiet place Cursor.quiet_close
  | drops place =>
      refine ⟨account, .keeps nofun nofun, ?_⟩
      rw [step, letGo, recorded]
      cases found : visit.cursors[place]? with
      | none => exact stands
      | some cursor =>
          exact stands.quiet (.withSource (Cursor.quiet_close (visit.source, cursor)))

omit plain in
theorem closed_step (stands : visit.Stands pipeline kind account) (parameter : Value) :
    (visit.step pipeline (.calls parameter .close)).2.session.executor.closed = true := by
  have closed : (Session.Call.close.ask pipeline (visit.scene parameter)).2.session.executor.closed =
      true := by
    rw [Session.Call.ask, Session.bind_pure_after]
    exact (Session.goesOn_close recorded (stands.scene parameter)).2
  rcases went : Session.Call.close.ask pipeline (visit.scene parameter) with
    ⟨e | ⟨reply, handed⟩, after⟩ <;> rw [went] at closed
  · rw [ask_of_error went]
    exact closed
  · rw [ask_of_ok went]
    exact closed

end

/-! ## Sources -/

def Asks (pipeline : Pipeline Recording) (past : List (Σ move : Move, move.Reply)) (place : Nat)
    (execution : Execution) : Prop :=
  ∃ told, past[place]? = some told ∧ told.1.Executes pipeline execution

/-- Executions with the places of the moves that they come from, in their order. -/
structure Sources (pipeline : Pipeline Recording) (past : List (Σ move : Move, move.Reply))
    (entries : List (Nat × Execution)) : Prop where
  ordered : entries.Pairwise fun earlier later => earlier.1 < later.1
  asked : ∀ entry ∈ entries, Asks pipeline past entry.1 entry.2

def Raised (told : Σ move : Move, move.Reply) : Prop :=
  told.1.Updates ∧ told.1.Done told.2

def Settled (told : Σ move : Move, move.Reply) : Prop :=
  told.1.Settles ∧ told.1.Done told.2

/-- What the place of a run raised was still queued when a later move gave up the queue. Nothing that
runs the queue had gone through in between, and nothing that the run asked for from the place to that
move has been executed. -/
structure GivenUp (pipeline : Pipeline Recording) (start : Visit Recording) (moves : List Move)
    (entries : List (Nat × Execution)) (place later : Nat) : Prop where
  behind : place < later
  loses : ∃ told, (start.replies pipeline moves)[later]? = some told ∧ told.1.Loses told.2
  queued : ∃ execution ∈ (start.after pipeline (moves.take later)).queue,
    Asks pipeline (start.replies pipeline moves) place execution
  emptied : (start.after pipeline (moves.take (later + 1))).queue = []
  unexecuted : ∀ entry ∈ entries, entry.1 < place ∨ later < entry.1
  unsettled : ∀ between told, place < between → between < later →
    (start.replies pipeline moves)[between]? = some told → ¬Settled told

section

variable {past : List (Σ move : Move, move.Reply)} {told : Σ move : Move, move.Reply}
  {entries waiting : List (Nat × Execution)} {place : Nat} {execution : Execution}

theorem Asks.lt (asks : Asks pipeline past place execution) : place < past.length := by
  obtain ⟨told, found, -⟩ := asks
  exact (List.getElem?_eq_some_iff.1 found).1

theorem Asks.more (asks : Asks pipeline past place execution) :
    Asks pipeline (past ++ [told]) place execution := by
  have inside := asks.lt
  obtain ⟨asker, found, asked⟩ := asks
  exact ⟨asker, (List.getElem?_append_left inside).trans found, asked⟩

namespace Sources

theorem sublist (sources : Sources pipeline past entries) (within : waiting.Sublist entries) :
    Sources pipeline past waiting :=
  ⟨sources.ordered.sublist within, fun entry mem => sources.asked entry (within.subset mem)⟩

theorem more (sources : Sources pipeline past entries) : Sources pipeline (past ++ [told]) entries :=
  ⟨sources.ordered, fun entry mem => (sources.asked entry mem).more⟩

theorem snoc (sources : Sources pipeline past entries) (asked : told.1.Executes pipeline execution) :
    Sources pipeline (past ++ [told]) (entries ++ [(past.length, execution)]) where
  ordered := by
    refine List.pairwise_append.2
      ⟨sources.ordered, List.pairwise_singleton _ _, fun entry mem last own => ?_⟩
    obtain rfl := List.mem_singleton.1 own
    exact (sources.asked entry mem).lt
  asked := fun entry mem => by
    rcases List.mem_append.1 mem with old | new
    · exact (sources.asked entry old).more
    · obtain rfl := List.mem_singleton.1 new
      exact ⟨told, List.getElem?_concat_length, asked⟩

end Sources

end

variable {start : Visit Recording} {moves : List Move} {entries waiting : List (Nat × Execution)}

theorem length_replies (pipeline : Pipeline Recording) (start : Visit Recording) (moves : List Move) :
    (start.replies pipeline moves).length = moves.length := by
  induction moves generalizing start with
  | nil => rfl
  | cons move rest ih => rw [replies, List.length_cons, List.length_cons, ih]

theorem replies_snoc_cases {move : Move} {place : Nat} {told : Σ move : Move, move.Reply}
    (found : (start.replies pipeline (moves ++ [move]))[place]? = some told) :
    (start.replies pipeline moves)[place]? = some told ∨
      place = moves.length ∧
        told = ⟨move, ((start.after pipeline moves).step pipeline move).1⟩ := by
  rw [replies_snoc, List.getElem?_append, length_replies] at found
  split at found
  · exact .inl found
  · rw [List.getElem?_singleton] at found
    split at found
    · exact .inr ⟨by omega, (Option.some.inj found).symm⟩
    · cases found

theorem GivenUp.more {entries' : List (Nat × Execution)} {move : Move} {place later : Nat}
    (givenUp : GivenUp pipeline start moves entries place later)
    (within : ∀ entry ∈ entries', entry ∈ entries ∨ entry.1 = moves.length) :
    GivenUp pipeline start (moves ++ [move]) entries' place later := by
  obtain ⟨loser, found, loses⟩ := givenUp.loses
  have inside : later < moves.length :=
    length_replies pipeline start moves ▸ (List.getElem?_eq_some_iff.1 found).1
  have kept (place : Nat) (old : place < moves.length) :
      (start.replies pipeline (moves ++ [move]))[place]? = (start.replies pipeline moves)[place]? := by
    rw [replies_snoc, List.getElem?_append_left (by rwa [length_replies])]
  obtain ⟨execution, waits, asks⟩ := givenUp.queued
  refine ⟨givenUp.behind, ⟨loser, (kept later inside).trans found, loses⟩, ⟨execution, ?_, ?_⟩, ?_,
    fun entry mem => ?_, fun between told after before found => ?_⟩
  · rwa [List.take_append_of_le_length (Nat.le_of_lt inside)]
  · rw [replies_snoc]
    exact asks.more
  · rw [List.take_append_of_le_length inside]
    exact givenUp.emptied
  · rcases within entry mem with old | new
    · exact givenUp.unexecuted entry old
    · exact .inr (new ▸ inside)
  · rw [kept between (Nat.lt_trans before inside)] at found
    exact givenUp.unsettled between told after before found

/-! ## Runs -/

/-- How the account of a session comes from a run: what was logged since and what is due have their
sources, and every update that went through is among them or was given up. -/
structure Accounted (pipeline : Pipeline Recording) (kind : ExecutorKind) (begun : List Execution)
    (start : Visit Recording) (moves : List Move) (entries waiting : List (Nat × Execution))
    (account : Account) : Prop where
  stands : (start.after pipeline moves).Stands pipeline kind account
  log : account.log = begun ++ entries.map Prod.snd
  due : account.due = waiting.map Prod.snd
  sources : Sources pipeline (start.replies pipeline moves) (entries ++ waiting)
  batching : waiting ≠ [] → kind = .batch
  unsettled : ∀ entry ∈ waiting, ∀ between told, entry.1 < between →
    (start.replies pipeline moves)[between]? = some told → ¬Settled told
  kept : ∀ place told, (start.replies pipeline moves)[place]? = some told → Raised told →
    (∃ execution, (place, execution) ∈ entries ++ waiting) ∨
      kind = .batch ∧ ∃ later, GivenUp pipeline start moves (entries ++ waiting) place later

namespace Accounted

variable {begun : List Execution} {move : Move} {next : Account}

theorem snoc {entries' waiting' : List (Nat × Execution)}
    (accounted : Accounted pipeline kind begun start moves entries waiting account)
    (stands : ((start.after pipeline moves).step pipeline move).2.Stands pipeline kind next)
    (log : next.log = begun ++ entries'.map Prod.snd) (due : next.due = waiting'.map Prod.snd)
    (sources : Sources pipeline (start.replies pipeline (moves ++ [move])) (entries' ++ waiting'))
    (batching : waiting' ≠ [] → kind = .batch)
    (unsettled : ∀ entry ∈ waiting', entry ∈ waiting ∧
        ¬Settled ⟨move, ((start.after pipeline moves).step pipeline move).1⟩ ∨
      entry.1 = moves.length)
    (within : ∀ entry ∈ entries' ++ waiting', entry ∈ entries ++ waiting ∨ entry.1 = moves.length)
    (kept : ∀ entry ∈ entries ++ waiting, entry ∈ entries' ++ waiting' ∨
      kind = .batch ∧
        ∃ later, GivenUp pipeline start (moves ++ [move]) (entries' ++ waiting') entry.1 later)
    (raised : Raised ⟨move, ((start.after pipeline moves).step pipeline move).1⟩ →
      ∃ execution, (moves.length, execution) ∈ entries' ++ waiting') :
    Accounted pipeline kind begun start (moves ++ [move]) entries' waiting' next where
  stands := by
    rw [after_snoc]
    exact stands
  log := log
  due := due
  sources := sources
  batching := batching
  unsettled := fun entry mem between told behind found => by
    have inside := (List.getElem?_eq_some_iff.1 found).1
    rw [length_replies, List.length_append, List.length_singleton] at inside
    rcases unsettled entry mem with ⟨old, still⟩ | new
    · rcases replies_snoc_cases found with earlier | ⟨-, rfl⟩
      · exact accounted.unsettled entry old between told behind earlier
      · exact still
    · omega
  kept := fun place told found raises => by
    rcases replies_snoc_cases found with old | ⟨rfl, rfl⟩
    · rcases accounted.kept place told old raises with ⟨execution, mem⟩ | ⟨batches, later, givenUp⟩
      · exact (kept _ mem).imp_left fun still => ⟨execution, still⟩
      · exact .inr ⟨batches, later, givenUp.more within⟩
    · exact .inl (raised raises)

theorem goesOn (accounted : Accounted pipeline kind begun start moves entries waiting account)
    (goes : account.Goes kind (move.Executes pipeline) move.Updates move.Settles
      (move.Loses ((start.after pipeline moves).step pipeline move).1) next)
    (stands : ((start.after pipeline moves).step pipeline move).2.Stands pipeline kind next) :
    ∃ entries' waiting',
      Accounted pipeline kind begun start (moves ++ [move]) entries' waiting' next := by
  have unlost {fact : Prop} (lost : move.Updates →
      move.Loses ((start.after pipeline moves).step pipeline move).1)
      (raised : Raised ⟨move, ((start.after pipeline moves).step pipeline move).1⟩) : fact :=
    (Move.not_loses (.inl raised.1) raised.2 (lost raised.1)).elim
  have still (unsettled : move.Settles →
      move.Loses ((start.after pipeline moves).step pipeline move).1) :
      ¬Settled ⟨move, ((start.after pipeline moves).step pipeline move).1⟩ :=
    fun settled => Move.not_loses (.inr settled.1) settled.2 (unsettled settled.1)
  have more {entries' : List (Nat × Execution)}
      (sources : Sources pipeline (start.replies pipeline moves) entries') :
      Sources pipeline (start.replies pipeline (moves ++ [move])) entries' := by
    rw [replies_snoc]
    exact sources.more
  have sourced {execution : Execution} (asked : move.Executes pipeline execution) :
      Sources pipeline (start.replies pipeline (moves ++ [move]))
        (entries ++ waiting ++ [(moves.length, execution)]) := by
    rw [replies_snoc, ← length_replies pipeline start moves]
    exact accounted.sources.snoc asked
  have own {execution : Execution} {entry : Nat × Execution}
      (mem : entry ∈ entries ++ waiting ++ [(moves.length, execution)]) :
      entry ∈ entries ++ waiting ∨ entry.1 = moves.length :=
    (List.mem_append.1 mem).imp_right fun new => congrArg Prod.fst (List.mem_singleton.1 new)
  -- what is executed and what waits are one list in the order of the moves, so a case only says where
  -- the list ends now and where it is cut
  cases goes with
  | keeps excused unsettled =>
      exact ⟨entries, waiting, accounted.snoc stands accounted.log accounted.due
        (more accounted.sources) accounted.batching (fun _ mem => .inl ⟨mem, still unsettled⟩)
        (fun _ => .inl) (fun _ => .inl) (unlost excused)⟩
  | @queues execution asked batches unsettled =>
      have whole := List.append_assoc entries waiting [(moves.length, execution)]
      refine ⟨entries, waiting ++ [(moves.length, execution)], accounted.snoc stands accounted.log ?_
        (whole ▸ sourced asked) (fun _ => batches) (fun entry mem => ?_)
        (fun entry mem => own (whole ▸ mem)) (fun entry mem => .inl ?_) fun _ => ⟨execution, ?_⟩⟩
      · rw [Account.queue, accounted.due, List.map_append]
        rfl
      · exact (List.mem_append.1 mem).imp (⟨·, still unsettled⟩)
          fun new => congrArg Prod.fst (List.mem_singleton.1 new)
      · exact whole ▸ List.mem_append_left _ mem
      · exact whole ▸ List.mem_append_right _ (List.mem_singleton_self _)
  | @runs execution asked =>
      have whole := List.append_nil (entries ++ waiting ++ [(moves.length, execution)])
      refine ⟨entries ++ waiting ++ [(moves.length, execution)], [], accounted.snoc stands ?_ rfl
        (whole.symm ▸ sourced asked) nofun nofun (fun entry mem => own (whole ▸ mem))
        (fun entry mem => .inl ?_) fun _ => ⟨execution, ?_⟩⟩
      · rw [Account.run, accounted.log, accounted.due, List.map_append, List.map_append,
          ← List.append_assoc, ← List.append_assoc]
        rfl
      · exact whole.symm ▸ List.mem_append_left _ mem
      · exact whole.symm ▸ List.mem_append_right _ (List.mem_singleton_self _)
  | @gives ran given split excused =>
      obtain ⟨first, rest, rfl, rfl, rfl⟩ := List.map_eq_append_iff.1 (accounted.due.symm.trans split)
      have sources := accounted.sources
      rw [← List.append_assoc] at sources
      refine ⟨entries ++ first, [], accounted.snoc stands ?_ rfl ?_ nofun nofun (fun entry mem => ?_)
        (fun entry mem => ?_) (unlost fun updates => excused (.inl updates))⟩
      · rw [accounted.log, List.map_append, List.append_assoc]
      · rw [List.append_nil]
        exact more (sources.sublist (List.sublist_append_left _ _))
      · rw [List.append_nil] at mem
        rw [← List.append_assoc]
        exact .inl (List.mem_append_left _ mem)
      · rw [List.append_nil]
        rw [← List.append_assoc] at mem
        refine (List.mem_append.1 mem).imp_right fun lost => ?_
        -- an entry that is given up waited behind all that has been executed
        have some : rest ≠ [] := List.ne_nil_of_mem lost
        refine ⟨accounted.batching fun none => some (List.append_eq_nil_iff.1 none).2, moves.length, ?_⟩
        have asks := sources.asked entry mem
        have last : (start.replies pipeline (moves ++ [move]))[moves.length]? =
            Option.some ⟨move, ((start.after pipeline moves).step pipeline move).1⟩ := by
          rw [replies_snoc, ← length_replies pipeline start moves]
          exact List.getElem?_concat_length
        refine ⟨length_replies pipeline start moves ▸ asks.lt, ⟨_, last, ?_⟩,
          ⟨entry.2, ?_, ?_⟩, ?_, fun earlier before => .inl ?_,
          fun between told behind before found => ?_⟩
        · exact excused (.inr fun none => some (List.map_eq_nil_iff.1 none))
        · rw [List.take_left, accounted.stands.queue, split]
          exact List.mem_append_right _ (List.mem_map_of_mem lost)
        · rw [replies_snoc]
          exact asks.more
        · rw [List.take_of_length_le (by simp), after_snoc]
          exact stands.queue
        · exact (List.pairwise_append.1 sources.ordered).2.2 earlier before entry lost
        · rcases replies_snoc_cases found with old | ⟨rfl, -⟩
          · exact accounted.unsettled entry (List.mem_append_right _ lost) between told behind old
          · exact absurd before (Nat.lt_irrefl _)

end Accounted

theorem accounted_after (plain : pipeline.Plain) (recorded : pipeline.source = Recording.source)
    (source : Recording) (shared : SharedCaches) (kind : ExecutorKind) (autocommit : Bool)
    (timeout : Option Nat) (drains : Drains) (moves : List Move) :
    ∃ entries waiting account, Accounted pipeline kind source.log
      (opened source shared kind autocommit timeout drains) moves entries waiting account := by
  -- from the end of the run, where the places that the entries have are those of the replies so far
  induction moves using List.reverseRec with
  | nil =>
      exact ⟨[], [], ⟨source.log, []⟩, .opened source shared autocommit timeout drains, (List.append_nil _).symm,
        rfl, ⟨.nil, nofun⟩, nofun, nofun, nofun⟩
  | append_singleton moves move ih =>
      obtain ⟨entries, waiting, account, accounted⟩ := ih
      obtain ⟨next, goes, stands⟩ := goesOn_step plain recorded accounted.stands move
      obtain ⟨entries', waiting', still⟩ := accounted.goesOn goes stands
      exact ⟨entries', waiting', next, still⟩

theorem GivenUp.of_bare (unobtrusive : pipeline.Unobtrusive) {place later : Nat}
    (givenUp : GivenUp pipeline.bare start moves entries place later) :
    GivenUp pipeline start moves entries place later where
  behind := givenUp.behind
  loses := by
    rw [replies_bare unobtrusive]
    exact givenUp.loses
  queued := by
    rw [after_bare unobtrusive, replies_bare unobtrusive]
    exact givenUp.queued
  emptied := by
    rw [after_bare unobtrusive]
    exact givenUp.emptied
  unexecuted := givenUp.unexecuted
  unsettled := by
    rw [replies_bare unobtrusive]
    exact givenUp.unsettled

/-- What is executed until a session is closed has its sources in the calls, one each and in their order,
and every update that went through is among them, but for those of a batching session that were still
queued when a rollback, the end or a call that failed gave up the queue. -/
theorem executes_updates (unobtrusive : pipeline.Unobtrusive)
    (recorded : pipeline.source = Recording.source) (source : Recording) (shared : SharedCaches)
    (kind : ExecutorKind) (autocommit : Bool) (timeout : Option Nat) (drains : Drains)
    (before : List Move)
    (parameter : Value) :
    let start := opened source shared kind autocommit timeout drains
    let moves := before ++ [.calls parameter .close]
    ∃ entries : List (Nat × Execution),
      (start.after pipeline moves).source.log = source.log ++ entries.map Prod.snd ∧
        Sources pipeline (start.replies pipeline moves) entries ∧
        ∀ place told, (start.replies pipeline moves)[place]? = some told → Raised told →
          (∃ execution, (place, execution) ∈ entries) ∨
            kind = .batch ∧ ∃ later, GivenUp pipeline start moves entries place later := by
  intro start moves
  -- a session does not notice interceptors that only proceed, so the account is kept without them
  have recording : pipeline.bare.source = Recording.source := recorded
  obtain ⟨entries, waiting, account, accounted⟩ :=
    accounted_after pipeline.plain_bare recording source shared kind autocommit timeout drains moves
  have closed : (start.after pipeline.bare moves).session.executor.closed = true := by
    obtain ⟨_, _, _, earlier⟩ := accounted_after pipeline.plain_bare recording source shared kind
      autocommit timeout drains before
    rw [after_snoc]
    exact closed_step recording earlier.stands parameter
  -- a session that is closed owes nothing
  obtain rfl : waiting = [] :=
    List.map_eq_nil_iff.1 (accounted.due.symm.trans (accounted.stands.ended closed))
  have kept := accounted.kept
  have sources := accounted.sources
  rw [List.append_nil] at kept sources
  rw [after_bare unobtrusive, replies_bare unobtrusive]
  refine ⟨entries, accounted.stands.log.trans accounted.log, ⟨sources.ordered, sources.asked⟩,
    fun place told found raised => ?_⟩
  exact (kept place told found raised).imp_right fun ⟨batches, later, givenUp⟩ =>
    ⟨batches, later, givenUp.of_bare unobtrusive⟩

instance : (call : Session.Call) → Decidable call.Updates
  | .update _ => .isTrue trivial
  | .list _ _ | .one _ | .cursor _ _ | .select _ _ _ _ | .flush | .commit _ | .rollback _ | .clearCache
  | .close => .isFalse id

instance : (move : Move) → Decidable move.Updates
  | .calls _ call => inferInstanceAs (Decidable call.Updates)
  | .next _ | .closes _ | .drops _ => .isFalse id

instance (told : Σ move : Move, move.Reply) : Decidable (Raised told) :=
  inferInstanceAs (Decidable (told.1.Updates ∧ told.1.Done told.2))

def insertingPipeline (chain : Chain Recording) : Pipeline Recording where
  configuration :=
    { (Pipeline.over Recording.source
        [keyed "a", inserting "k" .prepared .input { property := some "v.id" },
          Register.statementOf "q" .select (.static ⟨"select n", []⟩) none]).configuration with
      chain := chain }
  source := Recording.source

/-- How many updates went through, and the SQL that has been executed, when a session that commits by
itself has been closed. -/
def tally (chain : Chain Recording) (kind : ExecutorKind) (before : List Move) : Nat × List String :=
  let start := opened {} [] kind true none .asStaged
  let moves := before ++ [.calls .null .close]
  ((start.replies (insertingPipeline chain) moves).countP fun told => Raised told,
    (start.after (insertingPipeline chain) moves).source.log.map (·.sql))

def rollback : Move :=
  .calls .null (.rollback false)

def rollingBack : List Move :=
  [insert "a" "x", .calls .null (.list "q" .unbounded), insert "a" "y", rollback, insert "a" "z", commit]

def observing : Chain Recording :=
  [⟨.passing "passes" [.update, .runUpdate], [.update, .runUpdate]⟩]

theorem executes_updates_rollingBack :
    let start : Visit Recording := opened {} [] .batch true none .asStaged
    let moves := rollingBack ++ [.calls .null .close]
    (∃ entries : List (Nat × Execution),
      (start.after (insertingPipeline observing) moves).source.log =
          ({} : Recording).log ++ entries.map Prod.snd ∧
        Sources (insertingPipeline observing) (start.replies (insertingPipeline observing) moves)
          entries ∧
        ∀ place told, (start.replies (insertingPipeline observing) moves)[place]? = some told →
          Raised told → (∃ execution, (place, execution) ∈ entries) ∨
            ExecutorKind.batch = .batch ∧ ∃ later,
              GivenUp (insertingPipeline observing) start moves entries place later) ∧
      tally observing .batch rollingBack = (3, ["insert ?", "select n", "insert ?"]) := by
  have unobtrusive : (insertingPipeline observing).Unobtrusive := by
    intro stage registration mem
    have only : registration ∈ observing := by
      cases stage <;> simpa [Pipeline.chain, insertingPipeline] using mem
    obtain rfl := List.mem_singleton.1 only
    exact Interceptor.proceedsOnly_passing _ _
  have executes := executes_updates unobtrusive rfl {} [] .batch true none .asStaged rollingBack .null
  exact ⟨executes, by decide +kernel⟩

/-- A queued update that went through is not executed when a session is closed, when it rolls back, or
behind an update whose key cannot be written back, nor one that an interceptor answers. -/
theorem raised_unexecuted :
    tally [] .batch [insert "a" "x"] = (1, []) ∧
      tally [] .batch [insert "a" "x", rollback] = (1, []) ∧
      tally [] .batch [insert "k" "x", insert "a" "y", .calls .null .flush] = (2, ["insert ?"]) ∧
      tally [answering] .simple [insert "a" "x"] = (1, []) := by
  decide +kernel

end Visit

end MappedSql
