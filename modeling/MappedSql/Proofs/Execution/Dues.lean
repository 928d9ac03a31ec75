import MappedSql.Proofs.Execution.Logging
import MappedSql.Proofs.Execution.Queued
import MappedSql.Proofs.Execution.Ways

namespace MappedSql

variable {α β : Type}

structure Account where
  log : List Execution
  due : List Execution

namespace Account

def queue (account : Account) (execution : Execution) : Account :=
  { account with due := account.due ++ [execution] }

def run (account : Account) (execution : Execution) : Account :=
  ⟨account.log ++ account.due ++ [execution], []⟩

def settle (account : Account) : Account :=
  ⟨account.log ++ account.due, []⟩

/-- How an account goes on in a call. Only where it is lost the call does not come to the execution that
it raises, leaves something due that it settles, or gives up what is due. -/
inductive Goes (kind : ExecutorKind) (asks : Execution → Prop) (raises settles lost : Prop)
    (before : Account) : Account → Prop
  | keeps (excused : raises → lost) (unsettled : settles → lost) :
      Goes kind asks raises settles lost before before
  | queues {execution : Execution} (asked : asks execution) (batches : kind = .batch)
      (unsettled : settles → lost) : Goes kind asks raises settles lost before (before.queue execution)
  | runs {execution : Execution} (asked : asks execution) :
      Goes kind asks raises settles lost before (before.run execution)
  | gives {ran given : List Execution} (split : before.due = ran ++ given)
      (excused : raises ∨ given ≠ [] → lost) :
      Goes kind asks raises settles lost before ⟨before.log ++ ran, []⟩

theorem Goes.mono {kind : ExecutorKind} {asks asks' : Execution → Prop}
    {raises raises' settles settles' lost lost' : Prop} {before after : Account}
    (goes : before.Goes kind asks raises settles lost after)
    (asked : ∀ execution, asks execution → asks' execution) (raised : raises' → raises ∨ lost')
    (settled : settles' → settles ∨ lost') (excuse : lost → lost') :
    before.Goes kind asks' raises' settles' lost' after := by
  have still (unsettled : settles → lost) (more : settles') : lost' :=
    (settled more).elim (excuse ∘ unsettled) id
  cases goes with
  | keeps excused unsettled =>
      exact .keeps (fun more => (raised more).elim (excuse ∘ excused) id) (still unsettled)
  | queues asks batches unsettled => exact .queues (asked _ asks) batches (still unsettled)
  | runs asks => exact .runs (asked _ asks)
  | gives split excused =>
      refine .gives split fun left => ?_
      rcases left with more | some
      · exact (raised more).elim (fun raises => excuse (excused (.inl raises))) id
      · exact excuse (excused (.inr some))

end Account

/-- Batches with what is due to be run, on statements of their own. The last one has the SQL that the
next update may join. -/
structure Recording.Awaits (pipeline : Pipeline Recording) (recording : Recording)
    (pending : List PendingBatch) (current : Option (String × String)) (due : List Execution) :
    Prop where
  due : pending.flatMap (·.entries recording) = due
  known : ∀ batch ∈ pending, batch.statement < recording.statements.length
  apart : (pending.map PendingBatch.statement).Nodup
  last : ∀ batch target, pending.getLast? = some batch → current = some target →
    (recording.statement batch.statement).sql = pipeline.written target.1

structure Recording.Enqueued (st : StatementId) (execution : Execution) (before after : Recording) :
    Prop where
  log : after.log = before.log
  length : before.statements.length ≤ after.statements.length
  sql : ∀ other < before.statements.length, (after.statement other).sql = (before.statement other).sql
  batch : (after.statement st).batch = (before.statement st).batch ++ [execution.parameters]
  execution : execution.sql = (before.statement st).sql
  others : ∀ other < before.statements.length, other ≠ st →
    (after.statement other).batch = (before.statement other).batch

namespace Recording.Awaits

variable {pipeline : Pipeline Recording} {recording after : Recording} {pending : List PendingBatch}
  {current : Option (String × String)} {due executions : List Execution}

theorem logs (awaits : recording.Awaits pipeline pending current due)
    (logs : recording.Logs executions after) : after.Awaits pipeline pending current due where
  due := by
    rw [← awaits.due]
    refine List.flatMap_congr fun batch mem => ?_
    obtain ⟨sql, queued⟩ := logs.same _ (awaits.known batch mem)
    rw [PendingBatch.entries, PendingBatch.entries, sql, queued]
  known := fun batch mem => Nat.lt_of_lt_of_le (awaits.known batch mem) logs.length
  apart := awaits.apart
  last := fun batch target final same =>
    (logs.same _ (awaits.known batch (List.mem_of_getLast? final))).1.trans
      (awaits.last batch target final same)

theorem start (awaits : recording.Awaits pipeline pending current due)
    (logs : recording.Logs [] after) {batch : PendingBatch} {target : String × String}
    (fresh : batch.statement = recording.statements.length)
    (known : batch.statement < after.statements.length)
    (written : (after.statement batch.statement).sql = pipeline.written target.1)
    (empty : (after.statement batch.statement).batch = []) :
    after.Awaits pipeline (pending ++ [batch]) (some target) due where
  due := by
    have none : batch.entries after = [] := by rw [PendingBatch.entries, empty, List.map_nil]
    rw [List.flatMap_append, (awaits.logs logs).due, List.flatMap_singleton, none, List.append_nil]
  known := List.forall_mem_append.2 ⟨(awaits.logs logs).known, List.forall_mem_singleton.2 known⟩
  apart := by
    rw [List.map_append, List.nodup_append]
    refine ⟨awaits.apart, List.nodup_singleton _, fun st mem other own => ?_⟩
    obtain ⟨older, there, rfl⟩ := List.mem_map.1 mem
    obtain rfl := List.mem_singleton.1 own
    exact Nat.ne_of_lt (fresh ▸ awaits.known older there)
  last := fun final target' last same => by
    rw [List.getLast?_concat] at last
    obtain rfl := Option.some.inj last
    obtain rfl := Option.some.inj same
    exact written

theorem enqueued {earlier : List PendingBatch} {last batch : PendingBatch}
    {target : String × String} {execution : Execution}
    (awaits : recording.Awaits pipeline (earlier ++ [last]) (some target) due)
    (same : batch.statement = last.statement)
    (enqueued : recording.Enqueued last.statement execution after) :
    after.Awaits pipeline (earlier ++ [batch]) (some target) (due ++ [execution]) := by
  have apart := awaits.apart
  rw [List.map_append, List.nodup_append] at apart
  have known : last.statement < recording.statements.length :=
    awaits.known last (List.mem_append_right _ (List.mem_singleton_self _))
  -- the other batches are on statements of their own, and what they have queued stays
  have others : ∀ older ∈ earlier, older.entries after = older.entries recording := by
    intro older mem
    have old := awaits.known older (List.mem_append_left _ mem)
    have differ := apart.2.2 _ (List.mem_map_of_mem mem) _ (List.mem_singleton_self _)
    rw [PendingBatch.entries, PendingBatch.entries, enqueued.sql _ old, enqueued.others _ old differ]
  have own : batch.entries after = last.entries recording ++ [execution] := by
    rw [PendingBatch.entries, same, enqueued.sql _ known, enqueued.batch, List.map_append]
    refine congrArg (last.entries recording ++ [·]) ?_
    obtain ⟨sql, parameters⟩ := execution
    exact congrArg (Execution.mk · parameters) enqueued.execution.symm
  refine ⟨?_, fun older mem => ?_, ?_, fun final target' final' same' => ?_⟩
  · rw [← awaits.due, List.flatMap_append, List.flatMap_append, List.flatMap_congr others,
      List.flatMap_singleton, List.flatMap_singleton, own, List.append_assoc]
  · refine Nat.lt_of_lt_of_le ?_ enqueued.length
    rcases List.mem_append.1 mem with old | new
    · exact awaits.known older (List.mem_append_left _ old)
    · obtain rfl := List.mem_singleton.1 new
      rw [same]
      exact known
  · rw [List.map_append, List.map_singleton, same]
    have whole := awaits.apart
    rwa [List.map_append, List.map_singleton] at whole
  · rw [List.getLast?_concat] at final'
    obtain rfl := Option.some.inj final'
    obtain rfl := Option.some.inj same'
    rw [same, enqueued.sql _ known]
    exact awaits.last last target List.getLast?_concat rfl

end Recording.Awaits

theorem Recording.executeBatch_cases (recording : Recording) (st : StatementId) :
    (∃ e, executeBatch st recording = (.error e, recording)) ∨
      ∃ counts after generated, executeBatch st recording = (.ok counts, after) ∧
        recording.BatchExecuted st generated after := by
  by_cases isOpen : recording.IsOpen st
  · cases checked : recording.script.check (recording.statement st).sql with
    | error e => exact .inl ⟨e, executeBatch_of_refused isOpen checked⟩
    | ok u =>
        obtain ⟨after, executed, came, -⟩ := executeBatch_apply isOpen checked rfl
        exact .inr ⟨_, after, _, executed, came⟩
  · refine .inl ?_
    obtain ⟨e, closed⟩ := openStatement_of_closed isOpen
    rw [executeBatch, Action.bind_apply, closed]
    exact ⟨e, rfl⟩

namespace PendingBatch

theorem execute_cases (batch : PendingBatch) (recording : Recording) :
    ∃ ran, (execute Recording.source batch recording).2.log = recording.log ++ ran ∧
      (ran = batch.entries recording ∨
        ran = [] ∧ (execute Recording.source batch recording).1.isOk = false) ∧
      ∀ other, other ≠ batch.statement →
        (execute Recording.source batch recording).2.statement other = recording.statement other := by
  unfold execute
  rw [Action.bind_apply]
  dsimp only [Recording.source]
  obtain ⟨e, failed⟩ | ⟨counts, after, generated, executed, came⟩ :=
    recording.executeBatch_cases batch.statement
  · rw [failed]
    exact ⟨[], (List.append_nil _).symm, .inr ⟨rfl, rfl⟩, fun _ _ => rfl⟩
  · rw [executed]
    dsimp only
    refine ⟨_, ?_, .inl rfl, ?_⟩
    all_goals
      split
      · rw [Action.bind_apply, Recording.generatedKeys_apply]
        dsimp only
        rw [Action.bind_apply]
        cases assignKeys batch.keys batch.result.parameters (after.statement batch.statement).keys with
        | error e => first | exact (came.withKeys []).log | exact (came.withKeys []).others
        | ok written => first | exact (came.withKeys []).log | exact (came.withKeys []).others
      · first | exact came.log | exact came.others

theorem discardAll_apply (pending : List PendingBatch) (recording : Recording) :
    ∃ after, discardAll Recording.source pending recording = (.ok (), after) ∧
      after.log = recording.log := by
  induction pending generalizing recording with
  | nil => exact ⟨recording, rfl, rfl⟩
  | cons batch rest ih =>
      obtain ⟨after, discarded, same⟩ :=
        ih (Recording.source.finishStatement batch.statement recording).2
      exact ⟨after, discarded,
        same.trans (Recording.finishStatement_apply recording batch.statement).2.log⟩

theorem executeAll_of_failed {batch : PendingBatch} {recording middle : Recording} {e : Error}
    (done : Nat) (rest : List PendingBatch)
    (failed : execute Recording.source batch recording = (.error e, middle)) :
    ∃ after, executeAll Recording.source done (batch :: rest) recording =
        (.error (e.inContext (failureContext (done + 1) done batch.result.statementId)), after) ∧
      after.log = middle.log := by
  have closed := (Recording.finishStatement_apply middle batch.statement).2.log
  obtain ⟨after, discarded, same⟩ :=
    discardAll_apply rest (Recording.source.finishStatement batch.statement middle).2
  rw [executeAll, Action.bind_apply, Action.attempt, failed]
  dsimp only [Action.bind_apply, Action.quietly]
  rw [discarded]
  exact ⟨after, rfl, same.trans closed⟩

theorem executeAll_of_executed {batch : PendingBatch} {recording middle : Recording}
    {result : BatchResult} (done : Nat) (rest : List PendingBatch)
    (executed : execute Recording.source batch recording = (.ok result, middle)) :
    executeAll Recording.source done (batch :: rest) recording =
      ((executeAll Recording.source (done + 1) rest
          (Recording.source.finishStatement batch.statement middle).2).1.map (result :: ·),
        (executeAll Recording.source (done + 1) rest
          (Recording.source.finishStatement batch.statement middle).2).2) := by
  rw [executeAll, Action.bind_apply, Action.attempt, executed]
  dsimp only [Action.bind_apply, Action.quietly]
  rcases executeAll Recording.source (done + 1) rest
    (Recording.source.finishStatement batch.statement middle).2 with ⟨_ | _, last⟩ <;> rfl

theorem executeAll_log (done : Nat) {pending : List PendingBatch}
    (apart : (pending.map PendingBatch.statement).Nodup) (recording : Recording) :
    ∃ ran given, pending.flatMap (·.entries recording) = ran ++ given ∧
      (executeAll Recording.source done pending recording).2.log = recording.log ++ ran ∧
      (given ≠ [] → (executeAll Recording.source done pending recording).1.isOk = false) := by
  induction pending generalizing done recording with
  | nil => exact ⟨[], [], rfl, (List.append_nil _).symm, fun some => absurd rfl some⟩
  | cons batch rest ih =>
      obtain ⟨fresh, later⟩ := List.nodup_cons.1 apart
      obtain ⟨ran, log, some, others⟩ := batch.execute_cases recording
      rcases went : execute Recording.source batch recording with ⟨e | result, middle⟩ <;>
        rw [went] at log some others
      · obtain ⟨after, stopped, quiet⟩ := executeAll_of_failed done rest went
        rw [List.flatMap_cons, stopped]
        rcases some with rfl | ⟨rfl, -⟩
        · exact ⟨_, _, rfl, quiet.trans log, fun _ => rfl⟩
        · exact ⟨[], _, rfl, quiet.trans log, fun _ => rfl⟩
      · obtain rfl : ran = batch.entries recording :=
          some.resolve_right fun no => Bool.false_ne_true no.2.symm
        have closed := (Recording.finishStatement_apply middle batch.statement).2
        obtain ⟨more, given, split, logged, lost⟩ := ih (done + 1) later
          (Recording.source.finishStatement batch.statement middle).2
        -- statements are apart, so executing one batch and closing it leaves what the others queue
        have same : rest.flatMap (·.entries (Recording.source.finishStatement batch.statement
            middle).2) = rest.flatMap (·.entries recording) := by
          refine List.flatMap_congr fun other mem => entries_of_same ?_
          have differ : other.statement ≠ batch.statement := fun equal =>
            fresh (List.mem_map.2 ⟨other, mem, equal⟩)
          exact (closed.others _ differ).trans (others _ differ)
        rw [same] at split
        rw [closed.log, log, List.append_assoc] at logged
        rw [executeAll_of_executed done rest went, List.flatMap_cons, split]
        refine ⟨_, given, (List.append_assoc _ _ _).symm, logged, fun some => ?_⟩
        have failed := lost some
        revert failed
        cases (executeAll Recording.source (done + 1) rest
          (Recording.source.finishStatement batch.statement middle).2).1 <;> exact id

end PendingBatch

/-- A way of running statements, with what is due by it. Statements that are held have the SQL that they
are held for. -/
inductive Strategy.Owes (pipeline : Pipeline Recording) (recording : Recording) (due : List Execution) :
    ExecutorKind → Strategy → Prop
  | simple (none : due = []) : Owes pipeline recording due .simple .simple
  | reuse {held : List (String × StatementId)} (none : due = [])
      (written : ∀ entry ∈ held, entry.2 < recording.statements.length ∧
        (recording.statement entry.2).sql = pipeline.written entry.1) :
      Owes pipeline recording due .reuse (.reuse held)
  | batch {pending : List PendingBatch} {current : Option (String × String)}
      (awaits : recording.Awaits pipeline pending current due) :
      Owes pipeline recording due .batch (.batch pending current)

structure Scene.Stands (pipeline : Pipeline Recording) (kind : ExecutorKind) (account : Account)
    (scene : Scene Recording) : Prop where
  log : scene.source.log = account.log
  owes : scene.executor.strategy.Owes pipeline scene.source account.due kind
  ended : scene.executor.closed = true → account.due = []

def Scene.GoesOn (pipeline : Pipeline Recording) (kind : ExecutorKind) (account : Account)
    (asks : Execution → Prop) (raises settles lost : Prop) (after : Scene Recording) : Prop :=
  ∃ next, account.Goes kind asks raises settles lost next ∧ after.Stands pipeline kind next

def Account.Carried (pipeline : Pipeline Recording) (kind : ExecutorKind) (asks : Execution → Prop)
    (raises settles : Prop) (account : Account) (went : Except Error α × Scene Recording) : Prop :=
  went.2.GoesOn pipeline kind account asks raises settles (went.1.isOk = false)

variable {pipeline : Pipeline Recording} {kind : ExecutorKind} {account : Account}

theorem Strategy.Owes.logs {recording after : Recording} {due executions : List Execution}
    {strategy : Strategy} (owes : strategy.Owes pipeline recording due kind)
    (logs : recording.Logs executions after) : strategy.Owes pipeline after due kind := by
  cases owes with
  | simple none => exact .simple none
  | reuse none written =>
      refine .reuse none fun entry mem => ?_
      obtain ⟨old, sql⟩ := written entry mem
      exact ⟨Nat.lt_of_lt_of_le old logs.length, (logs.same _ old).1.trans sql⟩
  | batch awaits => exact .batch (awaits.logs logs)

namespace Scene.Stands

variable {before after : Scene Recording} {executions : List Execution}

theorem logs (stands : before.Stands pipeline kind account) (logs : before.Logs executions after) :
    after.Stands pipeline kind ⟨account.log ++ executions, account.due⟩ where
  log := logs.source.log.trans (congrArg (· ++ executions) stands.log)
  owes := logs.strategy ▸ stands.owes.logs logs.source
  ended := fun gone => stands.ended (logs.closed.symm.trans gone)

theorem quiet (stands : before.Stands pipeline kind account) (logs : before.Logs [] after) :
    after.Stands pipeline kind account := by
  have whole := stands.logs logs
  rwa [List.append_nil] at whole

theorem pending (stands : before.Stands pipeline kind account) :
    before.executor.strategy.pending.flatMap (·.entries before.source) = account.due := by
  have owes := stands.owes
  revert owes
  cases before.executor.strategy with
  | simple =>
      rintro (none | _ | _)
      exact none.symm
  | reuse held =>
      rintro (_ | ⟨none, -⟩ | _)
      exact none.symm
  | batch pending current =>
      rintro (_ | _ | awaits)
      exact awaits.due

theorem settle (stands : before.Stands pipeline kind account) (none : account.due = []) :
    before.Stands pipeline kind account.settle := by
  obtain ⟨log, due⟩ := account
  obtain rfl : due = [] := none
  rw [Account.settle, List.append_nil]
  exact stands

theorem batching (stands : before.Stands pipeline .batch account) :
    ∃ pending current, before.executor.strategy = .batch pending current ∧
      before.source.Awaits pipeline pending current account.due := by
  have owes := stands.owes
  revert owes
  cases before.executor.strategy with
  | simple => nofun
  | reuse held => nofun
  | batch pending current =>
      rintro (_ | _ | awaits)
      exact ⟨pending, current, rfl, awaits⟩

theorem reusing (stands : before.Stands pipeline .reuse account) :
    ∃ held, before.executor.strategy = .reuse held ∧ account.due = [] ∧
      ∀ entry ∈ held, entry.2 < before.source.statements.length ∧
        (before.source.statement entry.2).sql = pipeline.written entry.1 := by
  have owes := stands.owes
  revert owes
  cases before.executor.strategy with
  | simple => nofun
  | reuse held =>
      rintro (_ | ⟨none, written⟩ | _)
      exact ⟨held, rfl, none, written⟩
  | batch pending current => nofun

theorem settled (stands : before.Stands pipeline .reuse account) :
    before.Stands pipeline .reuse account.settle :=
  let ⟨_, _, nothing, _⟩ := stands.reusing
  stands.settle nothing

theorem simple (stands : before.Stands pipeline .simple account) :
    before.executor.strategy = .simple ∧ account.due = [] := by
  have owes := stands.owes
  revert owes
  cases before.executor.strategy with
  | simple =>
      rintro (none | _ | _)
      exact ⟨rfl, none⟩
  | reuse held => nofun
  | batch pending current => nofun

end Scene.Stands

namespace Scene.GoesOn

variable {asks asks' : Execution → Prop} {raises raises' settles settles' lost lost' : Prop}
  {middle after : Scene Recording}

theorem mono (goes : middle.GoesOn pipeline kind account asks raises settles lost)
    (asked : ∀ execution, asks execution → asks' execution) (raised : raises' → raises ∨ lost')
    (settled : settles' → settles ∨ lost') (excuse : lost → lost') :
    middle.GoesOn pipeline kind account asks' raises' settles' lost' :=
  goes.imp fun _ ⟨went, stands⟩ => ⟨went.mono asked raised settled excuse, stands⟩

theorem andThen (goes : middle.GoesOn pipeline kind account asks raises settles lost)
    (told : ∀ account, middle.Stands pipeline kind account → after.Stands pipeline kind account) :
    after.GoesOn pipeline kind account asks raises settles lost :=
  goes.imp fun _ ⟨went, stands⟩ => ⟨went, told _ stands⟩

end Scene.GoesOn

namespace Account.Carried

variable {asks : Execution → Prop} {raises settles : Prop} {went : Except Error α × Scene Recording}
  {last : Except Error β × Scene Recording}

theorem andThen (carried : account.Carried pipeline kind asks raises settles went)
    (told : ∀ account, went.2.Stands pipeline kind account → last.2.Stands pipeline kind account)
    (failed : went.1.isOk = false → last.1.isOk = false) :
    account.Carried pipeline kind asks raises settles last :=
  (Scene.GoesOn.andThen carried told).mono (fun _ => id) .inl .inl failed

theorem behind {a : α} {middle : Scene Recording}
    (carried : account.Carried pipeline kind asks raises settles (.ok a, middle))
    (told : ∀ account, middle.Stands pipeline kind account → last.2.Stands pipeline kind account) :
    account.Carried pipeline kind asks raises settles last :=
  carried.andThen told fun failed => (Bool.false_ne_true failed.symm).elim

theorem mono {asks' : Execution → Prop}
    (carried : account.Carried pipeline kind asks raises settles went)
    (asked : ∀ execution, asks execution → asks' execution) :
    account.Carried pipeline kind asks' raises settles went :=
  Scene.GoesOn.mono carried asked .inl .inl id

theorem of_failed (failed : went.1.isOk = false) (stands : went.2.Stands pipeline kind account) :
    account.Carried pipeline kind asks raises settles went :=
  ⟨account, .keeps (fun _ => failed) fun _ => failed, stands⟩

theorem of_came {handler : Handler} {before : Scene Recording}
    (stands : before.Stands pipeline kind account.settle)
    (came : handler.Came pipeline before went) :
    account.Carried pipeline kind (handler.Runs pipeline) raises settles went := by
  rcases came with ⟨failed, logs⟩ | ⟨execution, runs, logs⟩
  · exact ⟨_, .gives (List.append_nil _).symm fun _ => failed, stands.quiet logs⟩
  · exact ⟨_, .runs runs, stands.logs logs⟩

end Account.Carried

theorem Recording.Enqueued.after {st : StatementId} {execution : Execution}
    {before middle after : Recording} (logs : before.Logs [] middle)
    (known : st < before.statements.length) (enqueued : middle.Enqueued st execution after) :
    before.Enqueued st execution after where
  log := enqueued.log.trans (logs.log.trans (List.append_nil _))
  length := Nat.le_trans logs.length enqueued.length
  sql := fun other old =>
    (enqueued.sql other (Nat.lt_of_lt_of_le old logs.length)).trans (logs.same other old).1
  batch := enqueued.batch.trans (congrArg (· ++ _) (logs.same st known).2)
  execution := enqueued.execution.trans (logs.same st known).1
  others := fun other old differ =>
    (enqueued.others other (Nat.lt_of_lt_of_le old logs.length) differ).trans (logs.same other old).2

theorem Recording.enqueued_addBatch {recording : Recording} {st : StatementId}
    (isOpen : recording.IsOpen st) :
    ∃ after, addBatch st recording = (.ok (), after) ∧
      recording.Enqueued st (recording.execution st) after := by
  have now := statement_alter_self isOpen.lt fun statement =>
    { statement with batch := statement.batch ++ [statement.parameters], parameters := [] }
  refine ⟨_, addBatch_apply isOpen, ⟨rfl, Nat.le_of_eq (List.length_modify _ _ _).symm,
    fun other _ => ?_, congrArg RecordedStatement.batch now, rfl, fun other _ differ => ?_⟩⟩
  · by_cases same : other = st
    · subst same
      exact (congrArg RecordedStatement.sql now :)
    · exact congrArg RecordedStatement.sql (statement_alter_of_ne same _)
  · exact congrArg RecordedStatement.batch (statement_alter_of_ne differ _)

namespace Strategy

variable {handler : Handler} (plain : pipeline.Plain) (recorded : pipeline.source = Recording.source)
  {st : StatementId} {scene : Scene Recording}

include plain recorded

theorem enqueue_cases (known : st < scene.source.statements.length)
    (written : (scene.source.statement st).sql = handler.preparedSql pipeline) :
    ∃ after, after.executor.strategy = scene.executor.strategy ∧
      after.executor.closed = scene.executor.closed ∧
      ((∃ e, (handler.parameterize pipeline st >>= fun _ => Handler.addBatch pipeline st) scene =
          (.error e, after) ∧ scene.Logs [] after) ∨
        ∃ execution, handler.Runs pipeline execution ∧
          (handler.parameterize pipeline st >>= fun _ => Handler.addBatch pipeline st) scene =
            (.ok (), after) ∧ scene.source.Enqueued st execution after.source) := by
  have adds (filled : Scene Recording) : Handler.addBatch pipeline st filled =
      ((Recording.addBatch st filled.source).1,
        filled.withSource (Recording.addBatch st filled.source).2) := by
    rw [Handler.addBatch, plain.call_eq, ← Work.onSource_apply, recorded]
    rfl
  rw [Action.bind_apply]
  by_cases isOpen : scene.source.IsOpen st
  · obtain ⟨filled, fills, ⟨e, failed⟩ | ⟨went, opened, runs⟩⟩ :=
      Handler.parameterize_cases recorded plain isOpen written
    · rw [failed]
      exact ⟨filled, fills.strategy, fills.closed, .inl ⟨e, rfl, fills⟩⟩
    · obtain ⟨after, added, enqueued⟩ := Recording.enqueued_addBatch opened
      rw [went]
      dsimp only
      rw [adds, added]
      exact ⟨filled.withSource after, fills.strategy, fills.closed,
        .inr ⟨_, runs, rfl, enqueued.after fills.source known⟩⟩
  · obtain ⟨filling, after, -⟩ := handler.parameterize_after recorded plain scene
    have fills : scene.Logs [] (scene.withSource (scene.source.alter st filling.fill)) :=
      .alter scene st fun _ => ⟨rfl, rfl⟩
    rcases went : handler.parameterize pipeline st scene with ⟨e | u, filled⟩ <;> rw [went] at after <;>
      obtain rfl : filled = _ := after
    · exact ⟨_, fills.strategy, fills.closed, .inl ⟨e, rfl, fills⟩⟩
    · -- where there are no values to place, a closed statement is only noticed when it is queued
      have closed : ¬(scene.source.alter st filling.fill).IsOpen st := by
        rw [Recording.IsOpen, Recording.statement_alter_self known]
        exact isOpen
      obtain ⟨e, refused⟩ := Recording.openStatement_of_closed closed
      dsimp only
      rw [adds, Recording.addBatch, Action.bind_apply]
      dsimp only [Scene.withSource]
      rw [refused]
      exact ⟨_, fills.strategy, fills.closed, .inl ⟨e, rfl, fills⟩⟩

theorem carried_appendUpdate {earlier : List PendingBatch} {last : PendingBatch}
    {target : String × String} (stands : scene.Stands pipeline .batch account)
    (isOpen : scene.executor.closed = false)
    (own : scene.executor.strategy = .batch (earlier ++ [last]) (some target))
    (same : target.1 = handler.bound.sql) :
    account.Carried pipeline .batch (handler.Runs pipeline) True False
      (appendUpdate pipeline handler earlier last target scene) := by
  obtain ⟨pending, current, strategy, awaits⟩ := stands.batching
  obtain ⟨rfl, rfl⟩ := Strategy.batch.inj (strategy.symm.trans own)
  have known := awaits.known last (List.mem_append_right _ (List.mem_singleton_self _))
  have written := awaits.last last target List.getLast?_concat rfl
  rw [same] at written
  obtain ⟨after, strategy', closed, ⟨e, failed, logs⟩ | ⟨execution, runs, queued, enqueued⟩⟩ :=
    enqueue_cases plain recorded known written
  all_goals unfold appendUpdate
  all_goals rw [← Action.bind_assoc, Action.bind_apply]
  · rw [failed]
    exact .of_failed rfl (stands.quiet logs)
  · rw [queued]
    refine ⟨_, .queues runs rfl False.elim, enqueued.log.trans stands.log, ?_, fun gone => ?_⟩
    · exact .batch (awaits.enqueued rfl enqueued)
    · exact absurd (isOpen.symm.trans (closed.symm.trans gone)) Bool.false_ne_true

theorem carried_startBatch {pending : List PendingBatch} {current : Option (String × String)}
    {target : String × String} (stands : scene.Stands pipeline .batch account)
    (isOpen : scene.executor.closed = false)
    (own : scene.executor.strategy = .batch pending current) (same : target.1 = handler.bound.sql) :
    account.Carried pipeline .batch (handler.Runs pipeline) True False
      (startBatch pipeline handler pending target scene) := by
  obtain ⟨pending, current, strategy, awaits⟩ := stands.batching
  obtain ⟨rfl, rfl⟩ := Strategy.batch.inj (strategy.symm.trans own)
  unfold startBatch
  rw [Action.bind_apply]
  obtain ⟨e, failed⟩ | ⟨middle, prepared, logs, -, opened, written, empty⟩ :=
    prepareInTransaction_cases plain recorded handler scene
  · rw [failed]
    exact .of_failed rfl stands
  · rw [prepared]
    dsimp only
    rw [Action.bind_apply, Action.attempt]
    obtain ⟨after, strategy', closed, ⟨e, failed, fills⟩ | ⟨execution, runs, queued, enqueued⟩⟩ :=
      enqueue_cases plain recorded opened.lt written
    · have quiet : closeQuietly pipeline scene.source.statements.length after =
          (.ok (), after.withSource (Recording.source.finishStatement
            scene.source.statements.length after.source).2) := by
        rw [← recorded]
        rfl
      -- the statement was prepared for this update alone, and is closed again
      rw [failed]
      dsimp only
      rw [Action.bind_apply, quiet]
      exact .of_failed rfl (((stands.quiet logs).quiet fills).quiet (.finishStatement _ _))
    · have fresh (parameter : Value) : middle.source.Awaits pipeline
          (pending ++ [handler.batchOf scene.source.statements.length parameter]) (some target)
          account.due :=
        awaits.start logs.source rfl opened.lt (same ▸ written) empty
      rw [queued]
      refine ⟨_, .queues runs rfl False.elim, ?_, .batch ((fresh _).enqueued rfl enqueued), fun gone => ?_⟩
      · exact enqueued.log.trans (logs.source.log.trans (List.append_nil _)) |>.trans stands.log
      · exact absurd (isOpen.symm.trans ((closed.trans logs.closed).symm.trans gone))
          Bool.false_ne_true

theorem carried_queueUpdate (stands : scene.Stands pipeline .batch account)
    (isOpen : scene.executor.closed = false) :
    account.Carried pipeline .batch (handler.Runs pipeline) True False
      (queueUpdate pipeline handler scene) := by
  obtain ⟨pending, current, own, awaits⟩ := stands.batching
  have counted {act : Work Recording Unit}
      (carried : account.Carried pipeline .batch (handler.Runs pipeline) True False (act scene)) :
      account.Carried pipeline .batch (handler.Runs pipeline) True False
        ((act >>= fun _ => pure queuedCount : Work Recording Nat) scene) := by
    rw [Action.bind_apply]
    rcases went : act scene with ⟨e | u, after⟩ <;> rw [went] at carried <;> exact carried
  unfold queueUpdate
  rw [Action.bind_apply, Work.executor_apply]
  dsimp only
  rw [own, Strategy.pending, Strategy.current]
  cases final : pending.getLast? with
  | none =>
      obtain rfl := List.getLast?_eq_none_iff.1 final
      exact counted (carried_startBatch plain recorded stands isOpen own rfl)
  | some last =>
      dsimp only
      split
      case isTrue joins =>
        have split : pending = pending.dropLast ++ [last] :=
          (List.dropLast_append_getLast? last final).symm
        rw [split, joins] at own
        exact counted (carried_appendUpdate plain recorded stands isOpen own rfl)
      case isFalse => exact counted (carried_startBatch plain recorded stands isOpen own rfl)

end Strategy

end MappedSql
