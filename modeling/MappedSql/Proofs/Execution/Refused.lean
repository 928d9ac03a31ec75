import MappedSql.Proofs.Execution.Backlogs
import MappedSql.Proofs.Execution.Proceeding

/-!
# Updates that are refused

A batching unit of work queues the backlogs of the updates that go through. An update that is refused may
leave a statement behind, or values on the one that others are queued on, but it adds to no backlog
(`Strategy.queueUpdate_cases`), so that a flush runs the same without it (`Submission.flush_of_thins`).
-/

namespace MappedSql

variable {pipeline : Pipeline Recording}

/-! ## Units of work that queue -/

def Scene.Usable (scene : Scene Recording) : Prop :=
  scene.executor.transaction.Usable scene.source.connections

structure Scene.Stays (before after : Scene Recording) : Prop where
  closed : after.executor.closed = before.executor.closed
  usable : after.Usable ↔ before.Usable
  script : after.source.script = before.source.script
  log : after.source.log = before.source.log
  nextKey : after.source.nextKey = before.source.nextKey

namespace Scene.Stays

variable {before middle after : Scene Recording}

theorem refl (scene : Scene Recording) : scene.Stays scene :=
  ⟨rfl, .rfl, rfl, rfl, rfl⟩

theorem trans (left : before.Stays middle) (right : middle.Stays after) : before.Stays after where
  closed := right.closed.trans left.closed
  usable := right.usable.trans left.usable
  script := right.script.trans left.script
  log := right.log.trans left.log
  nextKey := right.nextKey.trans left.nextKey

theorem withClosed {st : StatementId} {source : Recording} (stays : before.Stays middle)
    (closed : middle.source.Closed st source) : before.Stays (middle.withSource source) where
  closed := stays.closed
  usable := by
    rw [← stays.usable, Usable, Usable, Scene.withSource, closed.connections]
  script := closed.script.trans stays.script
  log := closed.log.trans stays.log
  nextKey := closed.nextKey.trans stays.nextKey

end Scene.Stays

theorem Handler.Readied.stays {handler : Handler} {transaction : Transaction}
    {connections : List RecordedConnection} {before after : Scene Recording}
    (readied : handler.Readied pipeline transaction connections before after) (usable : before.Usable)
    (connected : transaction.Connected connections) : before.Stays after where
  closed := by rw [readied.scene]
  usable := by
    refine iff_of_true ?_ usable
    rw [Scene.Usable, readied.connections, readied.scene]
    exact .connected connected
  script := readied.script
  log := readied.log
  nextKey := readied.nextKey

/-- A batching unit of work has queued backlogs since a scene, and run nothing. If its transaction is not
usable it has queued none. -/
structure Scene.Queues (pipeline : Pipeline Recording) (scene start : Scene Recording)
    (queue : List Backlog) : Prop where
  held : ∃ pending, scene.executor.strategy = .batch pending (queue.getLast?.map Backlog.target) ∧
    scene.source.Holds pipeline queue pending
  stays : start.Stays scene
  none : ¬start.Usable → queue = []

namespace Scene.Queues

variable {start scene : Scene Recording} {queue earlier : List Backlog} {last : Backlog}

theorem exists_last (queues : scene.Queues pipeline start (earlier ++ [last])) :
    ∃ front batch, scene.executor.strategy = .batch (front ++ [batch]) (some last.target) ∧
      last.Held pipeline scene.source batch ∧ batch.statement ∉ front.map PendingBatch.statement ∧
      ∀ change, (scene.source.alter batch.statement change).Holds pipeline earlier front := by
  obtain ⟨pending, own, holds⟩ := queues.held
  obtain ⟨front, batch, rfl, before, held, alone⟩ := holds.exists_last
  rw [List.getLast?_concat, Option.map_some] at own
  -- the batch is on a statement of its own, which may change without the others
  refine ⟨front, batch, own, held, alone, fun change => before.of_same fun other mem => ?_⟩
  exact Recording.statement_alter_of_ne
    (fun equal => alone (List.mem_map.2 ⟨other, mem, equal⟩)) change

theorem counted (queues : scene.Queues pipeline start queue) :
    ∀ batch ∈ scene.executor.strategy.pending,
      (scene.source.statement batch.statement).batch.length = batch.result.parameters.length := by
  obtain ⟨pending, own, holds⟩ := queues.held
  rw [own]
  intro batch mem
  obtain ⟨backlog, -, held⟩ := holds.exists_held mem
  exact held.counted

end Scene.Queues

structure Handler.Prepared (pipeline : Pipeline Recording) (handler : Handler) (queue : List Backlog)
    (pending : List PendingBatch) (before after : Scene Recording) : Prop where
  own : before.executor.strategy = .batch pending (queue.getLast?.map Backlog.target)
  prepared : handler.prepareInTransaction pipeline before =
    (.ok before.source.statements.length, after)
  stays : before.Stays after
  strategy : after.executor.strategy = before.executor.strategy
  parameter : after.parameter = before.parameter
  fresh : ∃ timeout,
    after.source.statement before.source.statements.length = handler.fresh pipeline timeout
  known : ∀ batch ∈ pending, batch.statement < before.source.statements.length
  holds : ∀ last : Recording, (∀ other, other ≠ before.source.statements.length →
    last.statement other = after.source.statement other) → last.Holds pipeline queue pending

theorem Handler.Prepared.isOpen {handler : Handler} {queue : List Backlog}
    {pending : List PendingBatch} {before after : Scene Recording}
    (prepared : handler.Prepared pipeline queue pending before after) :
    after.source.IsOpen before.source.statements.length := by
  obtain ⟨timeout, fresh⟩ := prepared.fresh
  rw [Recording.IsOpen, fresh]
  rfl

/-! ## Queueing -/

namespace Strategy

variable {handler : Handler} {scene middle after : Scene Recording} {e : Error}

theorem appendUpdate_of_refused {last : PendingBatch}
    (refused : handler.parameterize pipeline last.statement scene = (.error e, after))
    (earlier : List PendingBatch) (target : String × String) :
    appendUpdate pipeline handler earlier last target scene = (.error e, after) := by
  unfold appendUpdate
  rw [Action.bind_apply, refused]

theorem startBatch_of_refused (recorded : pipeline.source = Recording.source) {st : StatementId}
    (prepared : handler.prepareInTransaction pipeline scene = (.ok st, middle))
    (refused : handler.parameterize pipeline st middle = (.error e, after))
    (pending : List PendingBatch) (target : String × String) :
    ∃ last, after.source.Closed st last ∧
      startBatch pipeline handler pending target scene = (.error e, after.withSource last) := by
  obtain ⟨last, closed, quiet⟩ := closeQuietly_apply recorded st after
  refine ⟨last, closed, ?_⟩
  unfold startBatch
  rw [Action.bind_apply, prepared]
  dsimp only
  rw [Action.bind_apply, Action.attempt, Action.bind_apply, refused]
  dsimp only
  rw [Action.bind_apply, quiet]
  rfl

variable {start : Scene Recording} {queue earlier : List Backlog} {last : Backlog} {filling : Filling}

variable (plain : pipeline.Plain) (recorded : pipeline.source = Recording.source)

include plain recorded

theorem queueUpdate_of_unusable (handler : Handler) (unusable : ¬start.Usable)
    (queues : scene.Queues pipeline start queue) :
    ∃ e, queueUpdate pipeline handler scene = (.error e, scene) := by
  obtain rfl := queues.none unusable
  obtain ⟨pending, own, holds⟩ := queues.held
  obtain rfl := List.forall₂_nil_left_iff.1 holds.held
  obtain ⟨e, refused⟩ := handler.prepareInTransaction_of_unusable plain recorded
    (mt queues.stays.usable.1 unusable)
  refine ⟨e, ?_⟩
  rw [queueUpdate_of_other own nofun, Action.bind_apply]
  unfold startBatch
  rw [Action.bind_apply, refused scene rfl rfl]

theorem exists_prepared (handler : Handler) (usable : start.Usable)
    (queues : scene.Queues pipeline start queue) :
    ∃ pending middle, handler.Prepared pipeline queue pending scene middle := by
  obtain ⟨pending, own, holds⟩ := queues.held
  have usable := queues.stays.usable.2 usable
  obtain ⟨transaction, connections, connected, -, prepares⟩ :=
    handler.prepareInTransaction_of_usable plain recorded usable
  obtain ⟨middle, prepared, readied⟩ := prepares scene rfl rfl
  refine ⟨pending, middle, own, prepared, readied.stays usable connected, ?_, ?_,
    ⟨_, readied.prepared⟩, fun _ => holds.lt, fun after same => holds.of_same fun batch mem => ?_⟩
  · rw [readied.scene]
  · rw [readied.scene]
  · rw [same _ (Nat.ne_of_lt (holds.lt mem)), readied.statement_of_lt (holds.lt mem)]

section

variable {result : Except Error Unit}
  (acts : ∀ st (scene : Scene Recording), scene.source.IsOpen st →
    handler.parameterize pipeline st scene =
      (result, scene.withSource (scene.source.alter st filling.fill)))

include acts

omit plain recorded in
theorem refused_of_joining (queues : scene.Queues pipeline start (earlier ++ [last]))
    (same : last.target = (handler.bound.sql, handler.statement.id))
    (within : ∀ entry ∈ filling.placed, entry.1 ∈ BoundSql.questionMarks handler.bound.sql)
    (refused : result = .error e) :
    ∃ after, queueUpdate pipeline handler scene = (.error e, after) ∧
      after.Queues pipeline start (earlier ++ [last]) := by
  subst refused
  obtain ⟨front, batch, own, held, alone, others⟩ := queues.exists_last
  have current := congrArg (Strategy.batch (front ++ [batch]) ∘ some) same
  obtain ⟨sql, -⟩ := Prod.mk.inj same
  rw [← sql] at within
  -- the values that were placed before the refusal stay on the statement of the batch
  refine ⟨scene.withSource (scene.source.alter batch.statement filling.fill), ?_,
    ⟨front ++ [batch], ?_, (others _).concat (held.filled within) alone⟩, ?_, queues.none⟩
  · rw [queueUpdate_of_current (own.trans current), Action.bind_apply,
      appendUpdate_of_refused (acts _ _ held.isOpen)]
  · rw [List.getLast?_concat, Option.map_some]
    exact own
  · exact queues.stays.trans ⟨rfl, .rfl, rfl, rfl, rfl⟩

theorem queued_of_joining (queues : scene.Queues pipeline start (earlier ++ [last]))
    (same : last.target = (handler.bound.sql, handler.statement.id))
    (covers : filling.placed.map Prod.fst = BoundSql.questionMarks handler.bound.sql)
    (done : result = .ok ()) :
    ∃ after, queueUpdate pipeline handler scene = (.ok queuedCount, after) ∧
      after.Queues pipeline start
        (earlier ++ [last.add (scene.parameter, placeAll [] filling.placed)]) := by
  subst done
  obtain ⟨front, batch, own, held, alone, others⟩ := queues.exists_last
  have current := congrArg (Strategy.batch (front ++ [batch]) ∘ some) same
  obtain ⟨sql, -⟩ := Prod.mk.inj same
  rw [← sql] at covers
  have queued : queueUpdate pipeline handler scene = _ := queueUpdate_of_current (own.trans current)
  rw [Action.bind_apply, appendUpdate_apply plain recorded held.isOpen (acts _ _ held.isOpen)] at queued
  refine ⟨_, queued, ⟨front ++ [batch.addParameter scene.parameter], ?_,
    (others _).concat (held.enqueued scene.parameter covers) alone⟩,
    queues.stays.trans ⟨rfl, .rfl, rfl, rfl, rfl⟩, fun unusable => ?_⟩
  · rw [List.getLast?_concat, Option.map_some]
    exact congrArg (Strategy.batch _ ∘ some) same.symm
  · exact absurd (queues.none unusable) (List.append_ne_nil_of_right_ne_nil _ (List.cons_ne_nil _ _))

variable (usable : start.Usable) (queues : scene.Queues pipeline start queue)
  (differ : queue.getLast?.map Backlog.target ≠ some (handler.bound.sql, handler.statement.id))

include usable queues differ

theorem refused_of_starting (refused : result = .error e) :
    ∃ after, queueUpdate pipeline handler scene = (.error e, after) ∧
      after.Queues pipeline start queue := by
  subst refused
  obtain ⟨pending, middle, ready⟩ := exists_prepared plain recorded handler usable queues
  -- the statement that was prepared for the update is closed again, and no batch is on it
  obtain ⟨last, closed, stopped⟩ := startBatch_of_refused recorded ready.prepared
    (acts _ _ ready.isOpen) pending (handler.bound.sql, handler.statement.id)
  have went : queueUpdate pipeline handler scene = _ := queueUpdate_of_other ready.own differ
  rw [Action.bind_apply, stopped] at went
  have filled : scene.Stays (middle.withSource (middle.source.alter
      scene.source.statements.length filling.fill)) := ready.stays.trans ⟨rfl, .rfl, rfl, rfl, rfl⟩
  refine ⟨_, went, ⟨pending, ready.strategy.trans ready.own, ready.holds last fun other apart => ?_⟩,
    queues.stays.trans (filled.withClosed closed), queues.none⟩
  exact (closed.others _ apart).trans (Recording.statement_alter_of_ne apart _)

theorem queued_of_starting (done : result = .ok ()) :
    ∃ after, queueUpdate pipeline handler scene = (.ok queuedCount, after) ∧
      after.Queues pipeline start
        (queue ++ [⟨handler, [(scene.parameter, placeAll [] filling.placed)]⟩]) := by
  subst done
  obtain ⟨pending, middle, ready⟩ := exists_prepared plain recorded handler usable queues
  obtain ⟨timeout, fresh⟩ := ready.fresh
  have now := Recording.statement_alter_self ready.isOpen.lt filling.enqueue
  rw [fresh] at now
  have went : queueUpdate pipeline handler scene = _ := queueUpdate_of_other ready.own differ
  rw [Action.bind_apply,
    startBatch_apply plain recorded ready.isOpen ready.prepared (acts _ _ ready.isOpen)] at went
  have others := ready.holds (middle.source.alter scene.source.statements.length filling.enqueue)
    fun other apart => Recording.statement_alter_of_ne apart _
  have held := Backlog.held_batchOf now middle.parameter
  rw [ready.parameter] at held went
  refine ⟨_, went, ⟨_, ?_, others.concat held fun mem => ?_⟩,
    queues.stays.trans (ready.stays.trans ⟨rfl, .rfl, rfl, rfl, rfl⟩),
    fun unusable => absurd usable unusable⟩
  · rw [List.getLast?_concat]
    rfl
  · obtain ⟨batch, there, equal⟩ := List.mem_map.1 mem
    exact Nat.ne_of_lt (ready.known batch there) equal

end

/-- An update goes through wherever backlogs are queued, and is queued with the same values, or it is
refused everywhere and queues nothing. -/
theorem queueUpdate_cases (inputOnly : handler.InputOnly) (start : Scene Recording) :
    (∀ queue scene, scene.Queues pipeline start queue →
      ∃ e after, queueUpdate pipeline handler scene = (.error e, after) ∧
        after.Queues pipeline start queue) ∨
    ∃ values, ∀ queue scene, scene.Queues pipeline start queue →
      ∃ after, queueUpdate pipeline handler scene = (.ok queuedCount, after) ∧
        after.Queues pipeline start (Backlog.join handler (scene.parameter, values) queue) := by
  by_cases usable : start.Usable
  · obtain ⟨result, filling, within, covers, acts⟩ := inputOnly.fills plain recorded
    cases result with
    | error e =>
        refine .inl fun queue scene queues => ⟨e, ?_⟩
        obtain ⟨earlier, last, rfl, same⟩ | differ :=
          Backlog.target_cases queue (handler.bound.sql, handler.statement.id)
        · exact refused_of_joining acts queues same within rfl
        · exact refused_of_starting plain recorded acts usable queues differ rfl
    | ok u =>
        refine .inr ⟨placeAll [] filling.placed, fun queue scene queues => ?_⟩
        obtain ⟨earlier, last, rfl, same⟩ | differ :=
          Backlog.target_cases queue (handler.bound.sql, handler.statement.id)
        · rw [Backlog.join_of_target same]
          exact queued_of_joining plain recorded acts queues same (covers rfl) rfl
        · rw [Backlog.join_of_other differ]
          exact queued_of_starting plain recorded acts usable queues differ rfl
  · refine .inl fun queue scene queues => ?_
    obtain ⟨e, refused⟩ := queueUpdate_of_unusable plain recorded handler usable queues
    exact ⟨e, scene, refused, queues⟩

end Strategy

/-! ## Submitting -/

structure Submission where
  statement : MappedStatement
  parameter : Value

namespace Submission

section

variable {σ : Type} (pipeline : Pipeline σ)

def submit (call : Submission) : Work σ Nat := do
  Work.setParameter call.parameter
  Executor.update pipeline call.statement

/-- Submits updates one after another, and tells what each of them answers. -/
def submitAll : List Submission → Scene σ → List (Submission × Except Error Nat) × Scene σ
  | [], scene => ([], scene)
  | call :: rest, scene =>
      let went := call.submit pipeline scene
      let told := submitAll rest went.2
      ((call, went.1) :: told.1, told.2)

/-- The statement has parameters that are only sent, and no question mark besides. -/
def Regular (call : Submission) : Prop :=
  ∀ bound, call.statement.boundSql call.parameter pipeline.setting = .ok bound →
    (Handler.mk call.statement bound .unbounded).InputOnly

end

/-- The updates of a run without some of those that failed. -/
inductive Thins : List (Submission × Except Error Nat) → List Submission → Prop
  | nil : Thins [] []
  | keep {call : Submission} {result : Except Error Nat} {told : List (Submission × Except Error Nat)}
      {kept : List Submission} (rest : Thins told kept) :
      Thins ((call, result) :: told) (call :: kept)
  | drop {call : Submission} {result : Except Error Nat} {told : List (Submission × Except Error Nat)}
      {kept : List Submission} (failed : result.isOk = false) (rest : Thins told kept) :
      Thins ((call, result) :: told) kept

end Submission

namespace Executor

variable {scene : Scene Recording}

theorem Shared.flushed_eq (statement : MappedStatement) (scene : Scene Recording) :
    ∃ staging, flushed statement scene =
      { scene with executor := { scene.executor with staging := staging } } := by
  unfold flushed
  split
  · split
    · exact ⟨_, rfl⟩
    · exact ⟨scene.executor.staging, rfl⟩
  · exact ⟨scene.executor.staging, rfl⟩

variable (plain : pipeline.Plain)

include plain

theorem update_of_open (statement : MappedStatement) (isOpen : scene.executor.closed = false) :
    ∃ staging, update pipeline statement scene = Strategy.update pipeline statement
      { scene with executor := { scene.executor with localCache := [], staging := staging } } := by
  rw [update, plain.call_eq]
  dsimp only
  unfold choose
  split
  · obtain ⟨staging, flushed⟩ := Shared.flushed_eq statement scene
    rw [Shared.update_apply, flushed]
    exact ⟨staging, Local.update_of_open (by exact isOpen) statement⟩
  · exact ⟨scene.executor.staging, Local.update_of_open isOpen statement⟩

theorem update_of_closed (statement : MappedStatement) (ended : scene.executor.closed = true) :
    ∃ e staging, update pipeline statement scene =
      (.error e, { scene with executor := { scene.executor with staging := staging } }) := by
  rw [update, plain.call_eq]
  dsimp only
  unfold choose
  split
  · obtain ⟨staging, flushed⟩ := Shared.flushed_eq statement scene
    rw [Shared.update_apply, flushed]
    exact ⟨_, staging, Local.update_of_closed (by exact ended) statement⟩
  · exact ⟨_, scene.executor.staging, Local.update_of_closed ended statement⟩

theorem flush_of_closed (ended : scene.executor.closed = true) :
    flush pipeline scene = (.error (.of (.closed "Executor was closed.")), scene) := by
  rw [flush, plain.call_eq]
  dsimp only
  unfold Local.flush
  rw [Action.bind_apply, ensureOpen_of_closed ended]

theorem flush_of_queues (recorded : pipeline.source = Recording.source) {start : Scene Recording}
    {queue : List Backlog} (isOpen : start.executor.closed = false)
    (queues : scene.Queues pipeline start queue) :
    (flush pipeline scene).1 =
        (Backlog.reportAll pipeline start.source.script start.source.nextKey 0 queue).1 ∧
      (flush pipeline scene).2.source.log = start.source.log ++
        (Backlog.reportAll pipeline start.source.script start.source.nextKey 0 queue).2 := by
  obtain ⟨pending, own, holds⟩ := queues.held
  have flushing : flush pipeline scene = Strategy.flushPending pipeline false scene := by
    rw [flush, plain.call_eq]
    dsimp only
    unfold Local.flush
    rw [Action.bind_apply, ensureOpen_of_open (queues.stays.closed.trans isOpen)]
    dsimp only
    rw [Strategy.flush_apply, own]
  obtain ⟨reported, logged⟩ := holds.executeAll_eq 0
  rw [queues.stays.script, queues.stays.nextKey] at reported logged
  rw [flushing, Strategy.flushPending_apply recorded, own, Strategy.pending]
  exact ⟨reported, logged.trans (by rw [queues.stays.log])⟩

theorem flush_eq_of_queues (recorded : pipeline.source = Recording.source)
    {start s t : Scene Recording} {queue : List Backlog} (own : s.Queues pipeline start queue)
    (other : t.Queues pipeline start queue) :
    (flush pipeline s).1 = (flush pipeline t).1 ∧
      (flush pipeline s).2.source.log = (flush pipeline t).2.source.log := by
  cases isOpen : start.executor.closed with
  | true =>
      rw [flush_of_closed plain (own.stays.closed.trans isOpen),
        flush_of_closed plain (other.stays.closed.trans isOpen)]
      exact ⟨rfl, own.stays.log.trans other.stays.log.symm⟩
  | false =>
      obtain ⟨reported, logged⟩ := flush_of_queues plain recorded isOpen own
      obtain ⟨reported', logged'⟩ := flush_of_queues plain recorded isOpen other
      exact ⟨reported.trans reported'.symm, logged.trans logged'.symm⟩

end Executor

namespace Submission

section

variable {start scene : Scene Recording} {queue : List Backlog} (plain : pipeline.Plain)
  (recorded : pipeline.source = Recording.source)

include plain recorded

omit recorded in
theorem submit_of_closed (call : Submission) (ended : start.executor.closed = true)
    (queues : scene.Queues pipeline start queue) :
    ∃ e after, call.submit pipeline scene = (.error e, after) ∧ after.Queues pipeline start queue := by
  have gone : ({ scene with parameter := call.parameter } : Scene Recording).executor.closed = true :=
    queues.stays.closed.trans ended
  obtain ⟨e, staging, refused⟩ := Executor.update_of_closed plain call.statement gone
  exact ⟨e, _, refused, queues.held, queues.stays.trans ⟨rfl, .rfl, rfl, rfl, rfl⟩, queues.none⟩

omit recorded in
theorem submit_of_open (call : Submission) (isOpen : start.executor.closed = false)
    (queues : scene.Queues pipeline start queue) :
    ∃ cleared : Scene Recording, cleared.Queues pipeline start queue ∧
      cleared.parameter = call.parameter ∧
      call.submit pipeline scene = Strategy.update pipeline call.statement cleared := by
  have still : ({ scene with parameter := call.parameter } : Scene Recording).executor.closed = false :=
    queues.stays.closed.trans isOpen
  obtain ⟨staging, went⟩ := Executor.update_of_open plain call.statement still
  refine ⟨{ scene with
    executor := { scene.executor with localCache := [], staging := staging }
    parameter := call.parameter }, ?_, rfl, went⟩
  exact ⟨queues.held, queues.stays.trans ⟨rfl, .rfl, rfl, rfl, rfl⟩, queues.none⟩

omit recorded in
theorem submit_of_bound {call : Submission} {bound : BoundSql}
    (found : call.statement.boundSql call.parameter pipeline.setting = .ok bound)
    (isOpen : start.executor.closed = false) (queues : scene.Queues pipeline start queue) :
    ∃ cleared : Scene Recording, cleared.Queues pipeline start queue ∧
      cleared.parameter = call.parameter ∧
      call.submit pipeline scene =
        Strategy.queueUpdate pipeline ⟨call.statement, bound, .unbounded⟩ cleared := by
  obtain ⟨cleared, queues, same, went⟩ := submit_of_open plain call isOpen queues
  obtain ⟨pending, own, -⟩ := queues.held
  rw [← same] at found
  rw [Strategy.update_of_bound found, own] at went
  exact ⟨cleared, queues, same, went⟩

theorem submit_cases {call : Submission} (regular : call.Regular pipeline) (start : Scene Recording) :
    (∀ queue scene, scene.Queues pipeline start queue →
      ∃ e after, call.submit pipeline scene = (.error e, after) ∧ after.Queues pipeline start queue) ∨
    ∃ handler update, ∀ queue scene, scene.Queues pipeline start queue →
      ∃ after, call.submit pipeline scene = (.ok queuedCount, after) ∧
        after.Queues pipeline start (Backlog.join handler update queue) := by
  cases isOpen : start.executor.closed with
  | true => exact .inl fun queue scene => submit_of_closed plain call isOpen
  | false =>
      cases found : call.statement.boundSql call.parameter pipeline.setting with
      | error e =>
          refine .inl fun queue scene queues => ?_
          obtain ⟨cleared, queues, same, went⟩ := submit_of_open plain call isOpen queues
          rw [← same] at found
          exact ⟨e, cleared, went.trans (Strategy.update_of_unbound found), queues⟩
      | ok bound =>
          obtain refused | ⟨values, queued⟩ :=
            Strategy.queueUpdate_cases plain recorded (regular bound found) start
          · refine .inl fun queue scene queues => ?_
            obtain ⟨cleared, queues, -, went⟩ := submit_of_bound plain found isOpen queues
            obtain ⟨e, after, stopped, queues⟩ := refused queue cleared queues
            exact ⟨e, after, went.trans stopped, queues⟩
          · refine .inr ⟨⟨call.statement, bound, .unbounded⟩, (call.parameter, values),
              fun queue scene queues => ?_⟩
            obtain ⟨cleared, queues, same, went⟩ := submit_of_bound plain found isOpen queues
            obtain ⟨after, done, queues⟩ := queued queue cleared queues
            rw [same] at queues
            exact ⟨after, went.trans done, queues⟩

theorem queues_of_thins {s t : Scene Recording} {calls kept : List Submission}
    (regular : ∀ call ∈ calls, call.Regular pipeline)
    (own : s.Queues pipeline start queue) (other : t.Queues pipeline start queue)
    (thins : Thins (submitAll pipeline calls s).1 kept) :
    ∃ last, (submitAll pipeline calls s).2.Queues pipeline start last ∧
      (submitAll pipeline kept t).2.Queues pipeline start last := by
  -- the two runs number their statements apart, so only what is queued can be compared
  induction calls generalizing kept s t queue with
  | nil =>
      cases thins
      exact ⟨queue, own, other⟩
  | cons call rest ih =>
      obtain ⟨first, later⟩ := List.forall_mem_cons.1 regular
      rw [submitAll] at thins ⊢
      dsimp only at thins ⊢
      obtain refused | ⟨handler, update, queued⟩ := submit_cases plain recorded first start
      · obtain ⟨e, s', went, own'⟩ := refused queue s own
        rw [went] at thins ⊢
        cases thins with
        | keep thins =>
            obtain ⟨e', t', went', other'⟩ := refused queue t other
            rw [submitAll]
            dsimp only
            rw [went']
            exact ih later own' other' thins
        | drop failed thins => exact ih later own' other thins
      · obtain ⟨s', went, own'⟩ := queued queue s own
        rw [went] at thins ⊢
        cases thins with
        | keep thins =>
            obtain ⟨t', went', other'⟩ := queued queue t other
            rw [submitAll]
            dsimp only
            rw [went']
            exact ih later own' other' thins
        | drop failed thins => cases failed

end

theorem submitAll_bare {σ : Type} {pipeline : Pipeline σ} (unobtrusive : pipeline.Unobtrusive)
    (calls : List Submission) : submitAll pipeline calls = submitAll pipeline.bare calls := by
  funext scene
  induction calls generalizing scene with
  | nil => rfl
  | cons call rest ih =>
      have same : call.submit pipeline = call.submit pipeline.bare := by
        rw [submit, Executor.update_bare unobtrusive]
        rfl
      rw [submitAll, submitAll, same, ih]

/-- With interceptors that only proceed, a flush reports and logs the same without the updates that
failed before it, and until then every pending batch has as many entries as parameters. -/
theorem flush_of_thins (unobtrusive : pipeline.Unobtrusive)
    (recorded : pipeline.source = Recording.source) {scene : Scene Recording}
    (idle : scene.executor.strategy = .batch [] none) {calls kept : List Submission}
    (regular : ∀ call ∈ calls, call.Regular pipeline)
    (thins : Thins (submitAll pipeline calls scene).1 kept) :
    let all := (submitAll pipeline calls scene).2
    let fewer := (submitAll pipeline kept scene).2
    (Executor.flush pipeline all).1 = (Executor.flush pipeline fewer).1 ∧
      (Executor.flush pipeline all).2.source.log = (Executor.flush pipeline fewer).2.source.log ∧
      ∀ batch ∈ all.executor.strategy.pending,
        (all.source.statement batch.statement).batch.length = batch.result.parameters.length := by
  have plain := pipeline.plain_bare
  have begins : scene.Queues pipeline.bare scene [] :=
    ⟨⟨[], idle, .nil _⟩, .refl scene, fun _ => rfl⟩
  rw [submitAll_bare unobtrusive] at thins
  rw [submitAll_bare unobtrusive, submitAll_bare unobtrusive, Executor.flush_bare unobtrusive]
  obtain ⟨queue, own, other⟩ := queues_of_thins plain recorded regular begins begins thins
  obtain ⟨reported, logged⟩ := Executor.flush_eq_of_queues plain recorded own other
  exact ⟨reported, logged, own.counted⟩

def pairText : String :=
  "insert #\x7ba\x7d, #\x7bb,javaType=int\x7d"

def pairMarked : MarkedSql :=
  (MarkedSql.ofText ⟨.any, [], .initial⟩ pairText).toOption.getD ⟨"", []⟩

def insertPair (a b : Value) : Submission :=
  ⟨Register.statementOf "a" .insert (.static pairMarked) none, .map [("a", a), ("b", b)]⟩

def refusedBetween : List Submission :=
  [insertPair (.text "x") (.int 1), insertPair (.text "y") (.text "none"),
    insertPair (.text "z") (.int 3)]

def batching (chain : Chain Recording) : Pipeline Recording where
  configuration := ⟨{}, none, .initial, {}, [], [], chain, some Recording.source⟩
  source := Recording.source

def idleScene : Scene Recording where
  source := {}
  shared := []
  executor := { strategy := .batch [] none, transaction := { autocommit := false } }
  parameter := .null

theorem regular_insertPair (chain : Chain Recording) (a b : Value) :
    (insertPair a b).Regular (batching chain) := by
  intro bound found
  have parses : (MarkedSql.ofText ⟨.any, [], .initial⟩ pairText).toOption.isSome = true := by
    decide +kernel
  obtain ⟨marked, parsed⟩ := Option.isSome_iff_exists.1 parses
  have inputs : pairMarked.mappings.all (·.direction != .output) = true := by decide +kernel
  have same : pairMarked = marked := by rw [pairMarked, parsed, Option.getD_some]
  obtain rfl : SqlSource.bind _ _ pairMarked [] = bound := Except.ok.inj found
  refine ⟨rfl, fun mapping mem => bne_iff_ne.1 (List.all_eq_true.1 inputs mapping mem),
    ⟨.any, [], .initial⟩, pairText, ?_, by decide +kernel⟩
  rw [toOption_eq_some.1 parsed, ← same]
  rfl

def passing : Chain Recording :=
  [⟨.passing "passes" [.update, .addBatch], [.update, .addBatch]⟩]

theorem flush_of_thins_refusedBetween :
    let all := (submitAll (batching passing) refusedBetween idleScene).2
    let fewer := (submitAll (batching passing)
      [insertPair (.text "x") (.int 1), insertPair (.text "z") (.int 3)] idleScene).2
    (submitAll (batching passing) refusedBetween idleScene).1.map (·.2.isOk) = [true, false, true] ∧
      (Executor.flush (batching passing) all).1 = (Executor.flush (batching passing) fewer).1 ∧
      (Executor.flush (batching passing) all).2.source.log =
        (Executor.flush (batching passing) fewer).2.source.log ∧
      (∀ batch ∈ all.executor.strategy.pending,
        (all.source.statement batch.statement).batch.length = batch.result.parameters.length) ∧
      (Value.list ((Executor.flush (batching passing) all).2.source.log.map fun execution =>
        .list execution.parameters)).same
          (.list [.list [.text "x", .int 1], .list [.text "z", .int 3]]) = true := by
  have unobtrusive : (batching passing).Unobtrusive := by
    intro stage registration mem
    have only : registration ∈ passing := by
      cases stage <;> simpa [Pipeline.chain, batching] using mem
    obtain rfl := List.mem_singleton.1 only
    exact Interceptor.proceedsOnly_passing _ _
  have regular : ∀ call ∈ refusedBetween, call.Regular (batching passing) :=
    List.forall_mem_cons.2 ⟨regular_insertPair _ _ _, List.forall_mem_cons.2
      ⟨regular_insertPair _ _ _, List.forall_mem_singleton.2 (regular_insertPair _ _ _)⟩⟩
  have told : (submitAll (batching passing) refusedBetween idleScene).1.map (·.2.isOk) =
      [true, false, true] := by
    decide +kernel
  have thins : Thins (submitAll (batching passing) refusedBetween idleScene).1
      [insertPair (.text "x") (.int 1), insertPair (.text "z") (.int 3)] := by
    simp only [refusedBetween, submitAll]
    exact .keep (.drop (by decide +kernel) (.keep .nil))
  obtain ⟨reported, logged, counted⟩ := flush_of_thins unobtrusive rfl rfl regular thins
  exact ⟨told, reported, logged, counted, by decide +kernel⟩

def answeringBatch : Registration Recording where
  interceptor :=
    { name := "answers"
      signatures := [Method.addBatch.signature]
      intercept := fun _ _ _ => return .unit }
  methods := [.addBatch]

theorem exists_uncounted :
    ∃ (pipeline : Pipeline Recording) (scene : Scene Recording) (calls : List Submission),
      pipeline.source = Recording.source ∧ scene.executor.strategy = .batch [] none ∧
        (∀ call ∈ calls, call.Regular pipeline) ∧
        (submitAll pipeline calls scene).2.executor.strategy.pending.map (fun batch =>
          (((submitAll pipeline calls scene).2.source.statement batch.statement).batch.length,
            batch.result.parameters.length)) = [(0, 1)] := by
  refine ⟨batching [answeringBatch], idleScene, [insertPair (.text "x") (.int 1)], rfl, rfl, ?_, ?_⟩
  · exact List.forall_mem_singleton.2 (regular_insertPair _ _ _)
  · decide +kernel

end Submission

end MappedSql
