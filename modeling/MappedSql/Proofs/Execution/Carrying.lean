import MappedSql.Proofs.Execution.Dues
import MappedSql.Proofs.Execution.Provenance

namespace MappedSql

open MappedSql.Action (Leaves)

variable {σ α β : Type} {pipeline : Pipeline Recording} {kind : ExecutorKind} {account : Account}
  {raises settles : Prop}

def Pipeline.Executes (pipeline : Pipeline Recording) (statement : MappedStatement) (parameter : Value)
    (execution : Execution) : Prop :=
  ∃ bound, statement.boundSql parameter pipeline.setting = .ok bound ∧
    Handler.Runs pipeline ⟨statement, bound, .unbounded⟩ execution

namespace Strategy

variable (recorded : pipeline.source = Recording.source) {scene : Scene Recording}

include recorded

theorem stands_flushPending (givingUp : Bool) (stands : scene.Stands pipeline .batch account) :
    ∃ ran given, account.due = ran ++ given ∧
      (flushPending pipeline givingUp scene).2.Stands pipeline .batch ⟨account.log ++ ran, []⟩ ∧
      (given ≠ [] → givingUp = true ∨ (flushPending pipeline givingUp scene).1.isOk = false) := by
  obtain ⟨pending, current, own, awaits⟩ := stands.batching
  -- the queue is emptied before anything is run or closed, so it is empty however this ends
  have nothing (recording : Recording) :
      (Strategy.batch [] none).Owes pipeline recording [] .batch :=
    .batch ⟨rfl, nofun, .nil, nofun⟩
  cases givingUp with
  | true =>
      obtain ⟨after, discarded, same⟩ := PendingBatch.discardAll_apply pending scene.source
      have left : (flushPending pipeline true scene).2 =
          { scene with
            source := after
            executor := { scene.executor with strategy := .batch [] none } } := by
        have before : scene.executor.strategy.pending = pending := congrArg Strategy.pending own
        have set : Work.setStrategy (.batch [] none) scene =
            (.ok (), { scene with executor := { scene.executor with strategy := .batch [] none } }) :=
          rfl
        unfold flushPending
        rw [Action.bind_apply, Work.executor_apply]
        dsimp only
        rw [before, recorded, if_pos rfl]
        simp only [Action.bind_apply, set, Work.onSource_apply]
        rw [discarded]
        rfl
      rw [left]
      refine ⟨[], account.due, rfl, ⟨?_, nothing _, fun _ => rfl⟩, fun _ => .inl rfl⟩
      rw [List.append_nil]
      exact same.trans stands.log
  | false =>
      obtain ⟨ran, given, split, log, lost⟩ :=
        PendingBatch.executeAll_log 0 awaits.apart scene.source
      rw [flushPending_apply recorded, own, Strategy.pending]
      refine ⟨ran, given, awaits.due.symm.trans split, ⟨?_, nothing _, fun _ => rfl⟩,
        fun some => .inr (lost some)⟩
      exact log.trans (congrArg (· ++ ran) stands.log)

theorem stands_flush (givingUp : Bool) (stands : scene.Stands pipeline kind account) :
    ∃ ran given, account.due = ran ++ given ∧
      (flush pipeline givingUp scene).2.Stands pipeline kind ⟨account.log ++ ran, []⟩ ∧
      (given ≠ [] → givingUp = true ∨ (flush pipeline givingUp scene).1.isOk = false) := by
  rw [flush_apply]
  cases kind with
  | simple =>
      obtain ⟨own, none⟩ := stands.simple
      rw [own]
      refine ⟨[], [], none, ?_, fun some => absurd rfl some⟩
      rw [List.append_nil, ← none]
      exact stands
  | reuse =>
      obtain ⟨held, own, none, -⟩ := stands.reusing
      obtain ⟨after, closes, drifts, -⟩ := closeHeld_apply recorded held
        { scene with executor := { scene.executor with strategy := .reuse [] } }
      have set : Work.setStrategy (.reuse []) scene =
          (.ok (), { scene with executor := { scene.executor with strategy := .reuse [] } }) := rfl
      rw [own]
      dsimp only
      rw [Action.bind_apply, set]
      dsimp only
      rw [Action.bind_apply, closes]
      refine ⟨[], [], none, ⟨?_, .reuse rfl nofun, fun _ => rfl⟩, fun some => absurd rfl some⟩
      rw [List.append_nil]
      exact drifts.log.trans stands.log
  | batch =>
      have flushed := stands_flushPending recorded givingUp stands
      obtain ⟨pending, current, own, -⟩ := stands.batching
      rw [own]
      exact flushed

section

variable (plain : pipeline.Plain) {handler : Handler}

include plain

theorem acquireHeld_cases (stands : scene.Stands pipeline .reuse account) :
    (∃ e, acquireHeld pipeline handler scene = (.error e, scene)) ∨
      ∃ st after, acquireHeld pipeline handler scene = (.ok st, after) ∧
        after.Stands pipeline .reuse account ∧ after.source.IsOpen st ∧
        (after.source.statement st).sql = handler.preparedSql pipeline := by
  obtain ⟨held, own, none, written⟩ := stands.reusing
  have before : scene.executor.strategy.held = held := congrArg Strategy.held own
  rw [acquireHeld_apply, before]
  cases found : (held.lookup handler.bound.sql).filter
      fun id => !pipeline.source.isClosed scene.source id with
  | some st =>
      obtain ⟨there, isOpen⟩ := Option.filter_eq_some_iff.1 found
      rw [recorded] at isOpen
      obtain ⟨earlier, later, rfl, -⟩ := List.lookup_eq_some_iff.1 there
      have known := written _ (List.mem_append_right earlier List.mem_cons_self)
      have opened : (!(scene.source.statement st).closed) = true := isOpen
      rw [Bool.not_eq_true'] at opened
      exact .inr ⟨st, scene, rfl, stands, opened, known.2⟩
  | none =>
      dsimp only
      rw [Action.bind_apply]
      obtain ⟨e, failed⟩ | ⟨after, prepared, logs, -, isOpen, sql, -⟩ :=
        prepareInTransaction_cases plain recorded handler scene
      · rw [failed]
        exact .inl ⟨e, rfl⟩
      · have still := stands.quiet logs
        obtain ⟨held', own', -, written'⟩ := still.reusing
        have keeps : hold pipeline handler.bound.sql scene.source.statements.length after =
            (.ok (), { after with executor := { after.executor with
              strategy := .reuse ((handler.bound.sql, scene.source.statements.length) ::
                held'.filter (·.1 != handler.bound.sql)) } }) := by
          have now : after.executor.strategy.held = held' := congrArg Strategy.held own'
          unfold hold
          rw [Action.bind_apply, Work.executor_apply]
          dsimp only
          rw [now, recorded]
          cases held'.lookup handler.bound.sql <;> rfl
        rw [prepared]
        dsimp only
        rw [Action.bind_apply, keeps]
        refine .inr ⟨_, _, rfl, ⟨still.log, .reuse none ?_, still.ended⟩, isOpen, sql⟩
        refine List.forall_mem_cons.2 ⟨⟨isOpen.lt, sql⟩, fun entry mem => ?_⟩
        exact written' entry (List.mem_of_mem_filter mem)

theorem carried_held {act : StatementId → Work Recording α}
    (stands : scene.Stands pipeline .reuse account)
    (executes : ∀ st filled, filled.Stands pipeline .reuse account → filled.source.IsOpen st →
      handler.Runs pipeline (filled.source.execution st) →
        account.Carried pipeline .reuse (handler.Runs pipeline) raises settles (act st filled)) :
    account.Carried pipeline .reuse (handler.Runs pipeline) raises settles
      ((obtainHeld pipeline handler >>= act) scene) := by
  rw [obtainHeld_eq, Action.bind_assoc, Action.bind_apply]
  obtain ⟨e, failed⟩ | ⟨st, after, acquired, still, isOpen, written⟩ :=
    acquireHeld_cases recorded plain stands
  · rw [failed]
    exact .of_failed rfl stands
  · rw [acquired]
    dsimp only
    rw [Action.bind_assoc, Action.bind_apply]
    obtain ⟨filled, fills, ⟨e, failed⟩ | ⟨went, opened, runs⟩⟩ :=
      Handler.parameterize_cases recorded plain isOpen written
    · rw [failed]
      exact .of_failed rfl (still.quiet fills)
    · rw [went]
      exact executes st filled (still.quiet fills) opened runs

theorem carried_updateHeld (stands : scene.Stands pipeline .reuse account) :
    account.Carried pipeline .reuse (handler.Runs pipeline) raises settles
      (updateHeld pipeline handler scene) := by
  refine carried_held recorded plain stands fun st filled still isOpen runs => ?_
  exact .of_came still.settled (.of_executes runs
    (Handler.runs_update recorded plain isOpen))

theorem carried_queryHeld (stands : scene.Stands pipeline .reuse account) :
    account.Carried pipeline .reuse (handler.Runs pipeline) raises settles
      (queryHeld pipeline handler scene) := by
  refine carried_held recorded plain stands fun st filled still isOpen runs => ?_
  exact .of_came still.settled (.of_executes runs (Handler.runs_query recorded plain isOpen))

theorem carried_openHeld (stands : scene.Stands pipeline .reuse account) :
    account.Carried pipeline .reuse (handler.Runs pipeline) raises settles
      (openHeld pipeline handler scene) := by
  refine carried_held recorded plain stands fun st filled still isOpen runs => ?_
  obtain ⟨held, own, none, written⟩ := still.reusing
  have now : filled.executor.strategy.held = held := congrArg Strategy.held own
  have set : Work.setStrategy (.reuse (held.filter (·.1 != handler.bound.sql))) filled =
      (.ok (), { filled with executor := { filled.executor with
        strategy := .reuse (held.filter (·.1 != handler.bound.sql)) } }) := rfl
  rw [Action.bind_apply, Work.executor_apply]
  dsimp only
  rw [now, Action.bind_apply, set]
  generalize left : { filled with executor := { filled.executor with
    strategy := .reuse (held.filter (·.1 != handler.bound.sql)) } } = released
  have same : released.source = filled.source := by rw [← left]
  have stays : released.Stands pipeline .reuse account := by
    rw [← left]
    exact ⟨still.log, .reuse none fun entry mem => written entry (List.mem_of_mem_filter mem),
      still.ended⟩
  rw [← same] at isOpen runs
  exact .of_came stays.settled (.of_executes runs (Handler.runs_queryCursor recorded plain isOpen))

theorem carried_update (statement : MappedStatement) (stands : scene.Stands pipeline kind account)
    (isOpen : scene.executor.closed = false) :
    account.Carried pipeline kind (pipeline.Executes statement scene.parameter) True False
      (update pipeline statement scene) := by
  cases found : statement.boundSql scene.parameter pipeline.setting with
  | error e =>
      rw [update_of_unbound found]
      exact .of_failed rfl stands
  | ok bound =>
      rw [update_of_bound found]
      refine .mono ?_ fun execution runs => ⟨bound, found, runs⟩
      cases kind with
      | simple =>
          obtain ⟨own, none⟩ := stands.simple
          rw [own]
          exact .of_came (stands.settle none) (came_updateOnce plain recorded scene)
      | reuse =>
          obtain ⟨held, own, -⟩ := stands.reusing
          rw [own]
          exact carried_updateHeld recorded plain stands
      | batch =>
          obtain ⟨pending, current, own, -⟩ := stands.batching
          rw [own]
          exact carried_queueUpdate plain recorded stands isOpen

omit plain in
theorem carried_flushed {act : Work Recording α} (stands : scene.Stands pipeline .batch account)
    (came : ∀ flushed, handler.Came pipeline flushed (act flushed)) :
    account.Carried pipeline .batch (handler.Runs pipeline) raises settles
      ((flushPending pipeline false >>= fun _ => act) scene) := by
  obtain ⟨ran, given, split, flushed, lost⟩ := stands_flushPending recorded false stands
  rw [Action.bind_apply]
  rcases went : flushPending pipeline false scene with ⟨e | results, after⟩ <;> rw [went] at flushed lost
  · exact ⟨_, .gives split fun _ => rfl, flushed⟩
  · obtain rfl : given = [] := by
      by_contra some
      exact nomatch lost some
    have settled : after.Stands pipeline .batch account.settle := by
      rw [Account.settle, split, List.append_nil]
      exact flushed
    exact .of_came settled (came after)

theorem carried_query (stands : scene.Stands pipeline kind account) :
    account.Carried pipeline kind (handler.Runs pipeline) raises settles
      (query pipeline handler scene) := by
  rw [query_apply]
  cases kind with
  | simple =>
      obtain ⟨own, none⟩ := stands.simple
      rw [own]
      exact .of_came (stands.settle none) (came_queryOnce plain recorded scene)
  | reuse =>
      obtain ⟨held, own, -⟩ := stands.reusing
      rw [own]
      exact carried_queryHeld recorded plain stands
  | batch =>
      obtain ⟨pending, current, own, -⟩ := stands.batching
      rw [own]
      exact carried_flushed recorded stands (came_queryOnce plain recorded)

theorem carried_openCursor (stands : scene.Stands pipeline kind account) :
    account.Carried pipeline kind (handler.Runs pipeline) raises settles
      (openCursor pipeline handler scene) := by
  rw [openCursor_apply]
  cases kind with
  | simple =>
      obtain ⟨own, none⟩ := stands.simple
      rw [own]
      exact .of_came (stands.settle none) (came_openOnce plain recorded scene)
  | reuse =>
      obtain ⟨held, own, -⟩ := stands.reusing
      rw [own]
      exact carried_openHeld recorded plain stands
  | batch =>
      obtain ⟨pending, current, own, -⟩ := stands.batching
      rw [own]
      exact carried_flushed recorded stands (came_openOnce plain recorded)

end

end Strategy

namespace Transaction

theorem logs_onTransaction {act : Action (Recording × Transaction) α} (unlogged : act.Unlogged Prod.fst)
    (scene : Scene Recording) : scene.Logs [] (Work.onTransaction act scene).2 :=
  ⟨unlogged (scene.source, scene.executor.transaction), rfl, rfl⟩

theorem unlogged_commit : (commit Recording.source).Unlogged Prod.fst := by
  refine Action.Unlogged.get.bind fun (recording, transaction) => ?_
  dsimp only
  cases transaction.manual? Recording.source recording with
  | some connection => exact fun _ => Recording.Logs.of_statements rfl rfl
  | none => exact .pure ()

theorem unlogged_rollback : (rollback Recording.source).Unlogged Prod.fst := by
  refine Action.Unlogged.get.bind fun (recording, transaction) => ?_
  dsimp only
  cases transaction.manual? Recording.source recording with
  | some connection => exact fun _ => Recording.Logs.of_statements rfl rfl
  | none => exact .pure ()

theorem unlogged_closeConnection (connection : ConnectionId) :
    (Recording.source.closeConnection connection).Unlogged id := by
  intro recording
  show recording.Logs [] (Recording.closeConnection connection recording).2
  unfold Recording.closeConnection
  rw [Action.bind_apply, Action.get_apply]
  dsimp only
  split
  · exact .refl recording
  · exact Recording.Logs.of_statements rfl rfl

theorem unlogged_close : (close Recording.source).Unlogged Prod.fst := by
  rintro ⟨recording, transaction⟩
  have closes (connection : ConnectionId) : Action.Unlogged Prod.fst (do
      let closed ← (Recording.source.closeConnection connection).attempt.onFirst
      modify fun (state, transaction) => (Recording.source.dropConnection connection state, transaction)
      closed : Action (Recording × Transaction) Unit) := by
    refine Action.Unlogged.bind ?_ fun closed =>
      Action.Unlogged.bind (fun state => .refl state.1) fun _ => .ofResult closed
    exact fun state => unlogged_closeConnection connection state.1
  unfold close
  rw [Action.bind_apply, Action.get_apply]
  dsimp only
  rw [Action.bind_apply]
  have set : (set (recording, { transaction with closed := true, connection := none }) :
      Action (Recording × Transaction) Unit) (recording, transaction) =
      (.ok (), (recording, { transaction with closed := true, connection := none })) := rfl
  rw [set]
  dsimp only
  cases transaction.connection with
  | none => exact .refl recording
  | some connection =>
      dsimp only
      split
      · exact Action.Unlogged.bind (fun _ => Recording.Logs.of_statements rfl rfl)
          (fun _ => closes connection) (recording, _)
      · exact closes connection (recording, _)

end Transaction

def Scene.core (scene : Scene σ) : σ × Strategy × Bool × Value :=
  (scene.source, scene.executor.strategy, scene.executor.closed, scene.parameter)

theorem Scene.Stands.told {before after : Scene Recording} (same : after.core = before.core)
    (stands : before.Stands pipeline kind account) : after.Stands pipeline kind account := by
  obtain ⟨source, strategy, closed, -⟩ := by simpa only [Scene.core, Prod.mk.injEq] using same
  obtain ⟨log, owes, ended⟩ := stands
  rw [← source] at log owes
  rw [← strategy] at owes
  rw [← closed] at ended
  exact ⟨log, owes, ended⟩

theorem Account.Carried.first {asks : Execution → Prop} {act : Work Recording α}
    {next : α → Work Recording β} {scene : Scene Recording} (leaves : Leaves Scene.core act)
    (stands : scene.Stands pipeline kind account)
    (carried : ∀ a (after : Scene Recording), after.Stands pipeline kind account →
      after.core = scene.core → account.Carried pipeline kind asks raises settles (next a after)) :
    account.Carried pipeline kind asks raises settles ((act >>= next) scene) := by
  have same := leaves scene
  rw [Action.bind_apply]
  rcases went : act scene with ⟨e | a, after⟩ <;> rw [went] at same
  · exact .of_failed rfl (stands.told same)
  · exact carried a after (stands.told same) same

theorem Account.Carried.last {asks : Execution → Prop} {act : Work Recording α}
    {next : α → Work Recording β} {scene : Scene Recording}
    (carried : account.Carried pipeline kind asks raises settles (act scene))
    (leaves : ∀ a, Leaves Scene.core (next a)) :
    account.Carried pipeline kind asks raises settles ((act >>= next) scene) := by
  rw [Action.bind_apply]
  rcases went : act scene with ⟨e | a, after⟩ <;> rw [went] at carried
  · exact carried
  · exact carried.behind fun _ => Scene.Stands.told (leaves a after)

namespace Executor

theorem core_changeExecutor {change : Executor → Executor}
    (same : ∀ executor, (change executor).strategy = executor.strategy ∧
      (change executor).closed = executor.closed) :
    Leaves (Scene.core : Scene σ → _) (Work.changeExecutor change) := by
  apply Leaves.modify
  intro scene
  simp only [Scene.core, same]

theorem core_clearLocal : Leaves (Scene.core : Scene σ → _) clearLocal := by
  apply core_changeExecutor
  intro executor
  split <;> exact ⟨rfl, rfl⟩

theorem core_keepRows (key : CacheKey) (rows : List Value) :
    Leaves (Scene.core : Scene σ → _) (keepRows key rows) :=
  core_changeExecutor fun _ => ⟨rfl, rfl⟩

theorem core_ensureOpen : Leaves (Scene.core : Scene σ → _) ensureOpen := by
  apply (Leaves.read _).bind
  intro executor
  split
  · exact Leaves.throw _
  · exact Leaves.pure _

variable (plain : pipeline.Plain) (recorded : pipeline.source = Recording.source)
  {scene : Scene Recording}

theorem carried_ensureOpen {asks : Execution → Prop} {act : Work Recording α}
    (stands : scene.Stands pipeline kind account)
    (carried : scene.executor.closed = false →
      account.Carried pipeline kind asks raises settles (act scene)) :
    account.Carried pipeline kind asks raises settles
      ((do ensureOpen; act : Work Recording α) scene) := by
  rw [Action.bind_apply]
  cases closed : scene.executor.closed with
  | true =>
      rw [ensureOpen_of_closed closed]
      exact .of_failed rfl stands
  | false =>
      rw [ensureOpen_of_open closed]
      exact carried closed

namespace Local

include plain recorded

theorem carried_update (statement : MappedStatement) (stands : scene.Stands pipeline kind account) :
    account.Carried pipeline kind (pipeline.Executes statement scene.parameter) True False
      (Local.update pipeline statement scene) := by
  refine carried_ensureOpen stands fun isOpen => ?_
  refine .first core_clearLocal stands fun _ after stands same => ?_
  obtain ⟨-, -, closed, parameter⟩ := by simpa only [Scene.core, Prod.mk.injEq] using same
  rw [← parameter]
  exact Strategy.carried_update recorded plain statement stands (closed.trans isOpen)

theorem carried_rowsFor (statement : MappedStatement) (bounds : RowBounds) (key : CacheKey)
    (bound : BoundSql) (stands : scene.Stands pipeline kind account) :
    account.Carried pipeline kind (Handler.Runs pipeline ⟨statement, bound, bounds⟩) False False
      (rowsFor pipeline statement bounds key bound scene) := by
  refine .first (Leaves.read _) stands fun executor after stands same => ?_
  cases Entries.get? executor.localCache key with
  | some cached => exact ⟨account, .keeps nofun nofun, stands⟩
  | none =>
      refine .last (Strategy.carried_query recorded plain stands) fun rows => ?_
      exact (core_keepRows key rows).bind fun _ => Leaves.pure _

theorem carried_keyedQuery (statement : MappedStatement) (bounds : RowBounds) (key : CacheKey)
    (bound : BoundSql) (stands : scene.Stands pipeline kind account) :
    account.Carried pipeline kind (Handler.Runs pipeline ⟨statement, bound, bounds⟩) False False
      (Local.keyedQuery pipeline statement bounds key bound scene) := by
  -- what follows the check is the same with and without forgetting rows first
  have rest (scene : Scene Recording) (stands : scene.Stands pipeline kind account) :
      account.Carried pipeline kind (Handler.Runs pipeline ⟨statement, bound, bounds⟩) False False
        ((do
          let result ← (rowsFor pipeline statement bounds key bound).attempt
          if pipeline.configuration.settings.localScope = .statement then clearLocal
          result : Work Recording (List Value)) scene) := by
    have carried := carried_rowsFor plain recorded statement bounds key bound stands
    rw [Action.bind_apply, Action.attempt]
    rcases went : rowsFor pipeline statement bounds key bound scene with ⟨result, after⟩
    rw [went] at carried
    dsimp only
    by_cases clears : pipeline.configuration.settings.localScope = .statement
    · rw [if_pos clears]
      have left : Leaves Scene.core
          (clearLocal >>= fun _ => (liftM result : Work Recording (List Value))) :=
        core_clearLocal.bind fun _ => Leaves.lift result
      exact carried.andThen (fun _ => Scene.Stands.told (left after)) id
    · rw [if_neg clears]
      exact carried
  refine carried_ensureOpen stands fun isOpen => ?_
  dsimp only
  split
  · exact .first core_clearLocal stands fun _ after stands _ => rest after stands
  · exact rest scene stands

theorem carried_queryCursor (statement : MappedStatement) (parameter : Value) (bounds : RowBounds)
    (stands : scene.Stands pipeline kind account) :
    account.Carried pipeline kind (pipeline.Executes statement parameter) False True
      (Local.queryCursor pipeline statement parameter bounds scene) := by
  refine carried_ensureOpen stands fun isOpen => ?_
  cases found : statement.boundSql parameter pipeline.setting with
  | error e => exact .of_failed rfl stands
  | ok bound =>
      exact .mono (Strategy.carried_openCursor recorded plain stands)
        fun execution runs => ⟨bound, found, runs⟩

omit plain in
theorem carried_flush (stands : scene.Stands pipeline kind account) :
    account.Carried pipeline kind (fun _ => False) False True (Local.flush pipeline scene) := by
  refine carried_ensureOpen stands fun isOpen => ?_
  obtain ⟨ran, given, split, flushed, lost⟩ := Strategy.stands_flush recorded false stands
  refine ⟨_, .gives split fun some => ?_, flushed⟩
  exact (lost (some.resolve_left nofun)).resolve_left nofun

omit plain in
theorem carried_commit (required : Bool) (stands : scene.Stands pipeline kind account) :
    account.Carried pipeline kind (fun _ => False) False True
      (Local.commit pipeline required scene) := by
  cases closed : scene.executor.closed with
  | true =>
      rw [commit_of_closed closed]
      exact .of_failed rfl stands
  | false =>
      rw [commit_of_open closed, finishCommit]
      have carried := carried_flush recorded (stands.told (core_clearLocal scene))
      rw [Action.bind_apply]
      rcases went : Local.flush pipeline (clearLocal scene).2 with ⟨e | results, after⟩ <;>
        rw [went] at carried
      · exact carried
      · refine carried.behind fun _ stands => stands.quiet ?_
        cases required with
        | true => exact recorded ▸ Transaction.logs_onTransaction Transaction.unlogged_commit after
        | false => exact .refl after

omit plain in
theorem stands_rollback (required : Bool) (stands : scene.Stands pipeline kind account)
    (isOpen : scene.executor.closed = false) :
    ∃ ran given, account.due = ran ++ given ∧
      (Local.rollback pipeline required scene).2.Stands pipeline kind ⟨account.log ++ ran, []⟩ := by
  rw [rollback_of_open isOpen, finishRollback]
  obtain ⟨ran, given, split, flushed, -⟩ :=
    Strategy.stands_flush recorded true (stands.told (core_clearLocal scene))
  refine ⟨ran, given, split, ?_⟩
  rw [Action.bind_apply, Action.attempt]
  rcases went : Strategy.flush pipeline true (clearLocal scene).2 with ⟨result, after⟩
  rw [went] at flushed
  refine flushed.quiet ?_
  dsimp only
  have rest (scene : Scene Recording) :
      scene.Logs [] ((do let _ ← result : Work Recording Unit) scene).2 := by
    cases result <;> exact .refl scene
  cases required with
  | true =>
      refine .bind (fun scene => ?_) (fun _ => rest) after
      exact recorded ▸ Transaction.logs_onTransaction Transaction.unlogged_rollback scene
  | false => exact rest after

omit plain in
theorem goesOn_rollback (required : Bool) (stands : scene.Stands pipeline kind account) :
    (Local.rollback pipeline required scene).2.GoesOn pipeline kind account (fun _ => False) False
      False True := by
  cases closed : scene.executor.closed with
  | true =>
      rw [rollback_of_closed closed]
      exact ⟨account, .keeps nofun nofun, stands⟩
  | false =>
      obtain ⟨ran, given, split, left⟩ := stands_rollback recorded required stands closed
      exact ⟨_, .gives split fun _ => trivial, left⟩

omit plain in
theorem goesOn_close (required : Bool) (stands : scene.Stands pipeline kind account) :
    (Local.close pipeline required scene).2.GoesOn pipeline kind account (fun _ => False) False False
        True ∧
      (Local.close pipeline required scene).2.executor.closed = true := by
  cases closed : scene.executor.closed with
  | true =>
      rw [close_of_closed closed]
      exact ⟨⟨account, .keeps nofun nofun, stands⟩, closed⟩
  | false =>
      rw [close_of_open closed, recorded]
      obtain ⟨ran, given, split, left⟩ := stands_rollback recorded required stands closed
      refine ⟨⟨_, .gives split fun _ => trivial, ?_⟩, rfl⟩
      have still := left.quiet (Transaction.logs_onTransaction Transaction.unlogged_close _)
      exact ⟨still.log, still.owes, fun _ => rfl⟩

end Local

namespace Shared

theorem core_setStaging (staging : Staging) :
    Leaves (Scene.core : Scene σ → _) (setStaging staging) :=
  core_changeExecutor fun _ => ⟨rfl, rfl⟩

theorem core_flushIfRequired (statement : MappedStatement) :
    Leaves (Scene.core : Scene σ → _) (flushIfRequired statement) := by
  unfold flushIfRequired
  split
  · split
    · exact (Leaves.read _).bind fun _ => core_setStaging _
    · exact Leaves.pure _
  · exact Leaves.pure _

theorem core_lookUp (id : String) (key : CacheKey) :
    Leaves (Scene.core : Scene σ → _) (lookUp id key) :=
  fun _ => rfl

theorem core_publish : Leaves (Scene.core : Scene σ → _) publish :=
  Leaves.modify fun _ => rfl

include recorded

theorem goesOn_rollback (required : Bool) (stands : scene.Stands pipeline kind account) :
    (Shared.rollback pipeline required scene).2.GoesOn pipeline kind account (fun _ => False) False
      False True := by
  have goes := Local.goesOn_rollback recorded required stands
  unfold Shared.rollback
  rw [Action.bind_apply, Action.attempt]
  rcases went : Local.rollback pipeline required scene with ⟨result, after⟩
  rw [went] at goes
  have left : Leaves Scene.core (setStaging [] >>= fun _ => (liftM result : Work Recording Unit)) :=
    (core_setStaging []).bind fun _ => Leaves.lift result
  exact goes.andThen fun _ => Scene.Stands.told (left after)

theorem goesOn_close (required : Bool) (stands : scene.Stands pipeline kind account) :
    (Shared.close pipeline required scene).2.GoesOn pipeline kind account (fun _ => False) False False
        True ∧
      (Shared.close pipeline required scene).2.executor.closed = true := by
  unfold Shared.close
  cases required with
  | true => exact Local.goesOn_close recorded true (stands.told (core_setStaging [] scene))
  | false => exact Local.goesOn_close recorded false (stands.told (core_publish scene))

theorem carried_commit (required : Bool) (stands : scene.Stands pipeline kind account) :
    account.Carried pipeline kind (fun _ => False) False True (Shared.commit pipeline required scene) :=
  .last (Local.carried_commit recorded required stands) fun _ => core_publish

include plain

theorem carried_update (statement : MappedStatement) (stands : scene.Stands pipeline kind account) :
    account.Carried pipeline kind (pipeline.Executes statement scene.parameter) True False
      (Shared.update pipeline statement scene) := by
  refine .first (core_flushIfRequired statement) stands fun _ after stands same => ?_
  obtain ⟨-, -, -, parameter⟩ := by simpa only [Scene.core, Prod.mk.injEq] using same
  rw [← parameter]
  exact Local.carried_update plain recorded statement stands

theorem carried_rowsFor (statement : MappedStatement) (bounds : RowBounds) (key : CacheKey)
    (bound : BoundSql) (id : String) (stands : scene.Stands pipeline kind account) :
    account.Carried pipeline kind (Handler.Runs pipeline ⟨statement, bound, bounds⟩) False False
      (Shared.rowsFor pipeline statement bounds key bound id scene) := by
  refine .first (core_lookUp id key) stands fun hit after stands _ => ?_
  cases hit with
  | some hit => exact ⟨account, .keeps nofun nofun, stands⟩
  | none =>
      refine .last (Local.carried_keyedQuery plain recorded statement bounds key bound stands)
        fun rows => ?_
      exact (Leaves.read _).bind fun _ => (core_setStaging _).bind fun _ => Leaves.pure _

theorem carried_keyedQuery (statement : MappedStatement) (bounds : RowBounds) (key : CacheKey)
    (bound : BoundSql) (stands : scene.Stands pipeline kind account) :
    account.Carried pipeline kind (Handler.Runs pipeline ⟨statement, bound, bounds⟩) False False
      (Shared.keyedQuery pipeline statement bounds key bound scene) := by
  unfold Shared.keyedQuery
  cases statement.cache with
  | none => exact Local.carried_keyedQuery plain recorded statement bounds key bound stands
  | some id =>
      dsimp only
      cases statement.useCache with
      | true =>
          refine .first (Leaves.lift _) stands fun _ _ stands _ => ?_
          refine .first (core_flushIfRequired statement) stands fun _ _ stands _ => ?_
          exact carried_rowsFor plain recorded statement bounds key bound id stands
      | false =>
          refine .first (core_flushIfRequired statement) stands fun _ _ stands _ => ?_
          exact Local.carried_keyedQuery plain recorded statement bounds key bound stands

theorem carried_queryCursor (statement : MappedStatement) (parameter : Value) (bounds : RowBounds)
    (stands : scene.Stands pipeline kind account) :
    account.Carried pipeline kind (pipeline.Executes statement parameter) False True
      (Shared.queryCursor pipeline statement parameter bounds scene) :=
  .first (core_flushIfRequired statement) stands fun _ _ stands _ =>
    Local.carried_queryCursor plain recorded statement parameter bounds stands

end Shared

section

include recorded

theorem goesOn_close (required : Bool) (stands : scene.Stands pipeline kind account) :
    (close pipeline required scene).2.GoesOn pipeline kind account (fun _ => False) False False True ∧
      (close pipeline required scene).2.executor.closed = true := by
  rw [close, choose]
  split
  · exact Shared.goesOn_close recorded required stands
  · exact Local.goesOn_close recorded required stands

include plain

theorem carried_update (statement : MappedStatement) (stands : scene.Stands pipeline kind account) :
    account.Carried pipeline kind (pipeline.Executes statement scene.parameter) True False
      (update pipeline statement scene) := by
  rw [update, plain.call_eq]
  dsimp only [choose]
  split
  · exact Shared.carried_update plain recorded statement stands
  · exact Local.carried_update plain recorded statement stands

theorem carried_query (statement : MappedStatement) (parameter : Value) (bounds : RowBounds)
    (stands : scene.Stands pipeline kind account) :
    account.Carried pipeline kind (pipeline.Executes statement parameter) False False
      (query pipeline statement parameter bounds scene) := by
  rw [query, plain.call_eq]
  dsimp only
  cases found : statement.boundSql parameter pipeline.setting with
  | error e => exact .of_failed rfl stands
  | ok bound =>
      refine .mono ?_ fun execution runs => ⟨bound, found, runs⟩
      have keyed : Leaves Scene.core (cacheKey pipeline statement bounds bound) :=
        core_ensureOpen.bind fun _ => Leaves.lift _
      show account.Carried pipeline kind (Handler.Runs pipeline ⟨statement, bound, bounds⟩) False False
        ((cacheKey pipeline statement bounds bound >>= fun key =>
          answerKeyed pipeline statement bounds key bound) scene)
      refine .first keyed stands fun key _ stands _ => ?_
      unfold answerKeyed choose
      split
      · exact Shared.carried_keyedQuery plain recorded statement bounds key bound stands
      · exact Local.carried_keyedQuery plain recorded statement bounds key bound stands

theorem carried_queryCursor (statement : MappedStatement) (parameter : Value) (bounds : RowBounds)
    (stands : scene.Stands pipeline kind account) :
    account.Carried pipeline kind (pipeline.Executes statement parameter) False True
      (queryCursor pipeline statement parameter bounds scene) := by
  rw [queryCursor, plain.call_eq]
  dsimp only [choose]
  split
  · exact Shared.carried_queryCursor plain recorded statement parameter bounds stands
  · exact Local.carried_queryCursor plain recorded statement parameter bounds stands

theorem carried_flush (stands : scene.Stands pipeline kind account) :
    account.Carried pipeline kind (fun _ => False) False True (flush pipeline scene) := by
  rw [flush, plain.call_eq]
  exact Local.carried_flush recorded stands

theorem carried_commit (required : Bool) (stands : scene.Stands pipeline kind account) :
    account.Carried pipeline kind (fun _ => False) False True (commit pipeline required scene) := by
  rw [commit, plain.call_eq]
  dsimp only [choose]
  split
  · exact Shared.carried_commit recorded required stands
  · exact Local.carried_commit recorded required stands

theorem goesOn_rollback (required : Bool) (stands : scene.Stands pipeline kind account) :
    (rollback pipeline required scene).2.GoesOn pipeline kind account (fun _ => False) False False
      True := by
  rw [rollback, plain.call_eq]
  dsimp only [choose]
  split
  · exact Shared.goesOn_rollback recorded required stands
  · exact Local.goesOn_rollback recorded required stands

end

end Executor

end MappedSql
