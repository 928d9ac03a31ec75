import MappedSql.Proofs.Configuration
import MappedSql.Proofs.Execution.Queued
import MappedSql.Proofs.Session.Reusing

/-!
# A batching session beside a simple one

A batching session that commits has the data source execute what a simple session has it execute, in
the same order, and the batches that it has flushed on the way come to the parameters that the
simple one left (`runsAlike_batch`). It is not so with interceptors, as queued updates pass by those
around the update of a statement, nor where the two write to bounded caches in different orders
(`exists_not_runsAlike`).
-/

namespace MappedSql

open Recording (Owing)

variable {pipeline : Pipeline Recording} {admits : Handler → Prop}

namespace BatchResult.Tells

variable {results others : List BatchResult} {owed more : List (Value × Nat)}

theorem none : Tells [] [] :=
  ⟨fun _ no => (by cases no), rfl⟩

theorem append (first : Tells results owed) (second : Tells others more) :
    Tells (results ++ others) (owed ++ more) where
  complete := List.forall_mem_append.2 ⟨first.complete, second.complete⟩
  pairs := by rw [List.flatMap_append, first.pairs, second.pairs]

end BatchResult.Tells

namespace Visit

section

variable {σ : Type} (pipeline : Pipeline σ) (visit : Visit σ)

def pending : List PendingBatch :=
  visit.session.executor.strategy.pending

def report : List BatchResult :=
  (PendingBatch.executeAll pipeline.source 0 visit.pending visit.source).1.toOption.getD []

def flushed (move : Move) : List BatchResult :=
  if (visit.step pipeline move).2.pending.isEmpty then visit.report pipeline else []

def flushes (visit : Visit σ) : List Move → List BatchResult
  | [] => []
  | move :: rest => visit.flushed pipeline move ++ flushes (visit.step pipeline move).2 rest

def writes (moves : List Move) : List (Value × Nat) :=
  (visit.replies pipeline moves).flatMap fun ⟨move, reply⟩ => move.written reply

def AnswersFlushed (moves : List Move) : Prop :=
  ∀ earlier parameter later results, moves = earlier ++ .calls parameter .flush :: later →
    ((visit.after pipeline earlier).step pipeline (.calls parameter .flush)).1.1 = .ok results →
      (visit.after pipeline earlier).flushed pipeline (.calls parameter .flush) = results

def GoesThrough (moves : List Move) : Prop :=
  ∀ told ∈ visit.replies pipeline moves, told.1.Done told.2

end

theorem flush_of_batching (plain : pipeline.Plain) (recorded : pipeline.source = Recording.source)
    {scene after : Scene Recording} {pending : List PendingBatch} {current : Option (String × String)}
    (own : scene.executor.strategy = .batch pending current) {results : List BatchResult}
    (flushed : Executor.flush pipeline scene = (.ok results, after)) :
    (PendingBatch.executeAll Recording.source 0 pending scene.source).1 = .ok results ∧
      after.executor.strategy = .batch [] none := by
  rw [Executor.flush, plain.call_eq] at flushed
  dsimp only at flushed
  rw [Executor.Local.flush, Action.bind_apply] at flushed
  cases ended : scene.executor.closed with
  | true =>
      rw [Executor.ensureOpen_of_closed ended] at flushed
      cases flushed
  | false =>
      rw [Executor.ensureOpen_of_open ended] at flushed
      dsimp only at flushed
      rw [Strategy.flush_apply, own] at flushed
      dsimp only at flushed
      rw [Strategy.flushPending_apply recorded, own] at flushed
      obtain ⟨ran, rfl⟩ := Prod.mk.inj flushed
      exact ⟨ran, rfl⟩

theorem flushed_of_flush (plain : pipeline.Plain) (recorded : pipeline.source = Recording.source)
    {visit : Visit Recording} {pending : List PendingBatch} {current : Option (String × String)}
    (own : visit.session.executor.strategy = .batch pending current) {parameter : Value}
    {results : List BatchResult}
    (told : (visit.step pipeline (.calls parameter .flush)).1.1 = .ok results) :
    visit.flushed pipeline (.calls parameter .flush) = results := by
  have asks : Session.Call.ask pipeline .flush (visit.scene parameter) =
      match Executor.flush pipeline (Session.toScene (visit.scene parameter)) with
      | (.ok results, after) => (.ok (results, []), ⟨after.source, after.shared,
          { visit.session with executor := after.executor }, after.parameter⟩)
      | (.error e, after) => (.error (e.inContext "Error flushing statements"),
          ⟨after.source, after.shared, { visit.session with executor := after.executor },
            after.parameter⟩) := by
    rw [Session.Call.ask, Action.bind_apply, Session.flush, Action.inContext, Session.perform,
      Action.within]
    dsimp only [Visit.scene, Session.toScene]
    rcases Executor.flush pipeline ⟨visit.source, visit.shared, visit.session.executor, parameter⟩ with
      ⟨e | results, after⟩ <;> rfl
  rcases flushed : Executor.flush pipeline (Session.toScene (visit.scene parameter)) with
    ⟨e | results', after⟩ <;> rw [flushed] at asks
  · rw [ask_of_error asks] at told
    cases told
  · rw [ask_of_ok asks] at told
    obtain rfl : results' = results := Except.ok.inj told
    obtain ⟨ran, strategy⟩ := flush_of_batching plain recorded own flushed
    have before : visit.pending = pending := by rw [Visit.pending, own, Strategy.pending]
    have ran : (PendingBatch.executeAll Recording.source 0 pending visit.source).1 = .ok results' := ran
    have none : (visit.step pipeline (.calls parameter .flush)).2.pending.isEmpty = true := by
      rw [ask_of_ok asks]
      show after.executor.strategy.pending.isEmpty = true
      rw [strategy]
      rfl
    rw [Visit.flushed, if_pos none, report, before, recorded, ran]
    rfl

/-- One that batches has executed what another one has, and has flushed what that has written. What it
has flushed is what its flushes answer, and what it does on the way. -/
structure RunsAlike (pipeline : Pipeline Recording) (moves : List Move) (s t : Visit Recording) :
    Prop where
  goes : s.GoesThrough pipeline moves
  log : (s.after pipeline moves).source.log = (t.after pipeline moves).source.log
  tells : BatchResult.Tells (s.flushes pipeline moves) (t.writes pipeline moves)
  answers : s.AnswersFlushed pipeline moves

section

variable {apart apart' : List StatementId} {due due' written : List (Value × Nat)}
  {s t : Visit Recording}

theorem queue_of_twins (twins : Twins (Kin.queue pipeline admits) apart due s t) :
    ∃ current, Queue pipeline admits apart due s.pending current s.session.executor.transaction s.source
      t.source := by
  obtain ⟨pending, current, own, queue⟩ := (twins.scene .null).1.kin
  have before : s.pending = pending := congrArg Strategy.pending own
  rw [before]
  exact ⟨current, queue⟩

theorem tells_flushed (recorded : pipeline.source = Recording.source) {move : Move}
    (twins : Twins (Kin.queue pipeline admits) apart due s t)
    (after : Twins (Kin.queue pipeline admits) apart' due' (s.step pipeline move).2
      (t.step pipeline move).2)
    (settles : Settles due written due') :
    ∃ owed, BatchResult.Tells (s.flushed pipeline move) owed ∧ owed ++ due' = due ++ written := by
  obtain ⟨current, queue⟩ := queue_of_twins twins
  obtain ⟨current', queue'⟩ := queue_of_twins after
  obtain ⟨results, last, ran, tells, -⟩ := queue.executeAll
  have report : s.report pipeline = results := by
    rw [Visit.report, recorded, ran]
    rfl
  rw [Visit.flushed, report]
  rcases settles with rfl | ⟨rfl, rfl⟩
  · cases later : (s.step pipeline move).2.pending with
    | nil =>
        rw [later] at queue'
        obtain ⟨rfl, rfl⟩ := List.append_eq_nil_iff.1 queue'.settled
        exact ⟨[], tells, rfl⟩
    | cons batch rest => exact ⟨[], .none, rfl⟩
  · rw [queue'.nothing]
    exact ⟨due, tells, rfl⟩

theorem goesThrough_cons {visit : Visit Recording} {move : Move} {rest : List Move} :
    visit.GoesThrough pipeline (move :: rest) ↔
      move.Done (visit.step pipeline move).1 ∧ (visit.step pipeline move).2.GoesThrough pipeline rest :=
  List.forall_mem_cons

theorem answersFlushed_nil {visit : Visit Recording} : visit.AnswersFlushed pipeline [] :=
  fun _ _ _ _ none => by simp at none

theorem AnswersFlushed.cons {visit : Visit Recording} {move : Move} {rest : List Move}
    (here : ∀ parameter results, move = .calls parameter .flush →
      (visit.step pipeline (.calls parameter .flush)).1.1 = .ok results →
        visit.flushed pipeline (.calls parameter .flush) = results)
    (later : (visit.step pipeline move).2.AnswersFlushed pipeline rest) :
    visit.AnswersFlushed pipeline (move :: rest) := by
  rintro (_ | ⟨first, earlier⟩) parameter behind results split
  · exact here parameter results (List.cons.inj split).1
  · obtain ⟨rfl, rest⟩ := List.cons.inj split
    exact later earlier parameter behind results rest

theorem flushed_of_twins (plain : pipeline.Plain) (recorded : pipeline.source = Recording.source)
    (twins : Twins (Kin.queue pipeline admits) apart due s t) (parameter : Value)
    (results : List BatchResult)
    (told : (s.step pipeline (.calls parameter .flush)).1.1 = .ok results) :
    s.flushed pipeline (.calls parameter .flush) = results := by
  obtain ⟨pending, current, own, -⟩ := (twins.scene .null).1.kin
  exact flushed_of_flush plain recorded own told

theorem runsAlike_of_twins (lockstep : Lockstep pipeline False admits (Kin.queue pipeline admits))
    (plain : pipeline.Plain) (recorded : pipeline.source = Recording.source) {moves : List Move}
    {last : Move} (asked : ∀ move ∈ moves ++ [last], move.Asked pipeline admits)
    (forward : ∀ move ∈ moves ++ [last], move.Forward) (catches : last.CatchesUp)
    (twins : Twins (Kin.queue pipeline admits) apart due s t)
    (goes : t.GoesThrough pipeline (moves ++ [last])) :
    s.GoesThrough pipeline (moves ++ [last]) ∧
      (s.after pipeline (moves ++ [last])).source.log = (t.after pipeline (moves ++ [last])).source.log ∧
      BatchResult.Tells (s.flushes pipeline (moves ++ [last]))
        (due ++ t.writes pipeline (moves ++ [last])) ∧
      s.AnswersFlushed pipeline (moves ++ [last]) := by
  induction moves generalizing apart due s t with
  | nil =>
      have done := (goesThrough_cons.1 goes).1
      obtain ⟨⟨apart', due', after, settles, ends⟩, -, goesOn⟩ :=
        matched_step lockstep plain recorded twins last (asked last (List.mem_singleton_self _))
          (.inr (forward last (List.mem_singleton_self _))) (.inr done)
      obtain rfl := ends catches done
      obtain ⟨owed, tells, same⟩ := tells_flushed recorded twins after settles
      obtain ⟨current, queue⟩ := queue_of_twins after
      refine ⟨goesThrough_cons.2 ⟨goesOn done, fun _ no => by cases no⟩, queue.log_eq, ?_,
        .cons (fun parameter results _ => flushed_of_twins plain recorded twins parameter results)
          answersFlushed_nil⟩
      have all := tells.append .none
      simpa [← same, Visit.flushes, Visit.writes, Visit.replies] using all
  | cons move rest ih =>
      obtain ⟨done, later⟩ := goesThrough_cons.1 goes
      obtain ⟨asks, asked⟩ := List.forall_mem_cons.1 asked
      obtain ⟨gives, forward⟩ := List.forall_mem_cons.1 forward
      obtain ⟨⟨apart', due', after, settles, -⟩, -, goesOn⟩ :=
        matched_step lockstep plain recorded twins move asks (.inr gives) (.inr done)
      obtain ⟨owed, tells, same⟩ := tells_flushed recorded twins after settles
      obtain ⟨goes', log, others, answers⟩ := ih asked forward after later
      refine ⟨goesThrough_cons.2 ⟨goesOn done, goes'⟩, log, ?_,
        .cons (fun parameter results _ => flushed_of_twins plain recorded twins parameter results)
          answers⟩
      have all := tells.append others
      rw [← List.append_assoc, same, List.append_assoc] at all
      exact all

end

def Move.Uncalled (pipeline : Pipeline Recording) : Move → Prop
  | calls _ call => ∀ name statement, call.statement? = some name →
      pipeline.configuration.statement name = .ok statement → statement.isCallable = false
  | _ => True

def Queueable (pipeline : Pipeline Recording) (handler : Handler) : Prop :=
  pipeline.configuration.statement handler.statement.id = .ok handler.statement ∧
    handler.statement.isCallable = false

theorem plainly_queueable (pipeline : Pipeline Recording) : Plainly (Queueable pipeline) where
  named := by
    rintro handler other ⟨found, _⟩ ⟨found', _⟩ same
    rw [same] at found
    exact Except.ok.inj (found.symm.trans found')
  uncalled := fun _ queueable => queueable.2

theorem Move.Uncalled.asked (filed : pipeline.configuration.Filed) {move : Move}
    (uncalled : move.Uncalled pipeline) : move.Asked pipeline (Queueable pipeline) := by
  cases move with
  | calls parameter call =>
      intro name named statement found bound bounds _
      refine ⟨?_, uncalled name statement named found⟩
      dsimp only
      rw [filed name statement found]
      exact found
  | next place => trivial
  | closes place => trivial
  | drops place => trivial

theorem twins_queue_opened (admits : Handler → Prop) (source : Recording) (shared : SharedCaches)
    (autocommit : Bool) (timeout : Option Nat) {drains drains' : Drains}
    (orders : drains = drains' ∨ shared.Perpetual) :
    Twins (Kin.queue pipeline admits) [] [] (opened source shared .batch autocommit timeout drains)
      (opened source shared .simple autocommit timeout drains') := by
  have idle (parameter : Value) : Scene.Twins (Kin.idle pipeline admits) True [] []
      (Session.toScene ((opened source shared .batch autocommit timeout drains).scene parameter))
      (Session.toScene ((opened source shared .simple autocommit timeout drains').scene parameter)) :=
    ⟨.opened orders, fun _ => rfl, rfl, rfl, .refl source _⟩
  exact ⟨fun parameter => ⟨twins_queue_of_idle (idle parameter), rfl, rfl⟩, .nil⟩

/-- A batching session that commits has executed what a simple one has, and has flushed the parameters
that the updates of that one left, if no call of that one fails. What the two publish reaches the
shared caches in the same orders, or in any two where the caches are perpetual. -/
theorem runsAlike_batch (plain : pipeline.Plain) (recorded : pipeline.source = Recording.source)
    (filed : pipeline.configuration.Filed) (source : Recording) (shared : SharedCaches)
    (autocommit : Bool) (timeout : Option Nat) (drains drains' : Drains)
    (orders : drains = drains' ∨ shared.Perpetual) (moves : List Move)
    (parameter : Value) (force : Bool)
    (forward : ∀ move ∈ moves, move.Forward) (uncalled : ∀ move ∈ moves, move.Uncalled pipeline)
    (goes : (opened source shared .simple autocommit timeout drains').GoesThrough pipeline
      (moves ++ [.calls parameter (.commit force)])) :
    RunsAlike pipeline (moves ++ [.calls parameter (.commit force)])
      (opened source shared .batch autocommit timeout drains)
      (opened source shared .simple autocommit timeout drains') := by
  have asked : ∀ move ∈ moves ++ [.calls parameter (.commit force)],
      move.Asked pipeline (Queueable pipeline) := by
    refine List.forall_mem_append.2 ⟨fun move mem => (uncalled move mem).asked filed, ?_⟩
    exact List.forall_mem_singleton.2 fun _ no => by cases no
  obtain ⟨goes', log, tells, answers⟩ := runsAlike_of_twins
    (lockstep_queue plain recorded (plainly_queueable pipeline)) plain recorded asked
    (List.forall_mem_append.2 ⟨forward, List.forall_mem_singleton.2 trivial⟩) trivial
    (twins_queue_opened (Queueable pipeline) source shared autocommit timeout orders) goes
  exact ⟨goes', log, tells, answers⟩

theorem uncalled_of_statements
    (none : ∀ entry ∈ pipeline.configuration.statements, entry.2.isCallable = false) (move : Move) :
    move.Uncalled pipeline := by
  cases move with
  | calls parameter call =>
      exact fun _ _ _ found => none _ (Configuration.mem_of_statement found)
  | next place => trivial
  | closes place => trivial
  | drops place => trivial

instance : (call : Session.Call) → Decidable call.Forward
  | .rollback _ | .close => .isFalse id
  | .list _ _ | .one _ | .cursor _ _ | .select _ _ _ _ | .update _ | .flush | .commit _ | .clearCache =>
      .isTrue trivial

instance : (move : Move) → Decidable move.Forward
  | .calls _ call => inferInstanceAs (Decidable call.Forward)
  | .next _ | .closes _ | .drops _ => .isTrue trivial

instance : (call : Session.Call) → (reply : call.Reply) → Decidable (call.Done reply)
  | .select _ _ _ _, (.ok (), _) => .isTrue rfl
  | .select _ _ _ _, (.error _, _) => .isFalse nofun
  | .list _ _, _ | .one _, _ | .cursor _ _, _ | .update _, _ | .flush, _ | .commit _, _ | .rollback _, _
  | .clearCache, _ | .close, _ => .isTrue trivial

instance : (move : Move) → (reply : move.Reply) → Decidable (move.Done reply)
  | .calls _ call, (.ok answer, _) =>
      decidable_of_iff (call.Done answer)
        ⟨fun done => ⟨answer, rfl, done⟩, fun ⟨_, same, done⟩ => Except.ok.inj same ▸ done⟩
  | .calls _ _, (.error _, _) => .isFalse nofun
  | .next _, _ | .closes _, _ | .drops _, _ => .isTrue trivial

instance {σ : Type} (pipeline : Pipeline σ) (visit : Visit σ) (moves : List Move) :
    Decidable (visit.GoesThrough pipeline moves) :=
  inferInstanceAs (Decidable (∀ told ∈ visit.replies pipeline moves, told.1.Done told.2))

def queueing : List Move :=
  [insert "a" "x", insert "a" "y", insert "b" "z", .calls .null (.list "q" .unbounded), insert "a" "w",
    .calls .null .flush, insert "b" "v", .calls .null (.cursor "q" .unbounded), .next 0, insert "a" "u"]

theorem filed_over {σ : Type} (source : DataSource σ) (statements : List MappedStatement) :
    (Pipeline.over source statements).configuration.Filed := by
  refine Configuration.filed_of_ids fun entry mem => ?_
  obtain ⟨statement, -, rfl⟩ := List.mem_map.1 mem
  rfl

theorem runsAlike_batch_queueing :
    ((∀ move ∈ queueing, move.Forward) ∧ (∀ move ∈ queueing, move.Uncalled agreeingPipeline) ∧
        (beginning .simple).GoesThrough agreeingPipeline (queueing ++ [commit])) ∧
      RunsAlike agreeingPipeline (queueing ++ [commit]) (beginning .batch) (beginning .simple) ∧
      ((beginning .batch).flushes agreeingPipeline (queueing ++ [commit])).map
        (fun result => result.parameters.length) = [2, 1, 1, 1, 1] := by
  have forward : ∀ move ∈ queueing, move.Forward := by decide +kernel
  have uncalled : ∀ move ∈ queueing, move.Uncalled agreeingPipeline :=
    fun move _ => uncalled_of_statements (by decide) move
  have goes : (beginning .simple).GoesThrough agreeingPipeline (queueing ++ [commit]) := by
    decide +kernel
  exact ⟨⟨forward, uncalled, goes⟩,
    runsAlike_batch ⟨rfl, rfl⟩ rfl (filed_over _ _) {} [] false none .asStaged .asStaged (.inl rfl)
      queueing .null false forward uncalled goes, by decide +kernel⟩

def answering : Registration Recording where
  interceptor :=
    { name := "answers"
      signatures := [Method.runUpdate.signature]
      intercept := fun _ _ _ => return .count 1 }
  methods := [.runUpdate]

def answeredPipeline : Pipeline Recording where
  configuration :=
    { (Pipeline.over Recording.source [keyed "a"]).configuration with chain := [answering] }
  source := Recording.source

def RunsApart (pipeline : Pipeline Recording) (moves : List Move) (s t : Visit Recording) : Prop :=
  (pipeline.source = Recording.source ∧ pipeline.configuration.Filed) ∧
    ((∀ move ∈ moves, move.Forward) ∧ ∀ move ∈ moves, move.Uncalled pipeline) ∧
    (s.GoesThrough pipeline (moves ++ [commit]) ∧ t.GoesThrough pipeline (moves ++ [commit])) ∧
    ¬RunsAlike pipeline (moves ++ [commit]) s t

theorem not_runsAlike_of_length {moves : List Move} {s t : Visit Recording}
    (apart : (s.after pipeline moves).source.log.length ≠
      (t.after pipeline moves).source.log.length) : ¬RunsAlike pipeline moves s t :=
  fun alike => apart (congrArg List.length alike.log)

/-- What is queued is executed without the interceptors of the update; and where there is no room for
all that is published, the order decides what is found later. -/
theorem exists_not_runsAlike :
    RunsApart answeredPipeline [insert "a" "x"] (beginning .batch) (beginning .simple) ∧
      crowdedPipeline.Plain ∧
      RunsApart crowdedPipeline crowding (crowded .batch .asStaged) (crowded .simple backwards) :=
  ⟨⟨⟨rfl, filed_over Recording.source _⟩,
      ⟨by decide +kernel, fun move _ => uncalled_of_statements (by decide) move⟩,
      ⟨by decide +kernel, by decide +kernel⟩, not_runsAlike_of_length (by decide +kernel)⟩,
    ⟨rfl, rfl⟩,
    ⟨⟨rfl, filed_over _ _⟩,
      ⟨by decide +kernel, fun move _ => uncalled_of_statements (by decide) move⟩,
      ⟨by decide +kernel, by decide +kernel⟩, not_runsAlike_of_length (by decide +kernel)⟩⟩

end Visit

end MappedSql
