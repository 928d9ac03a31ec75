import MappedSql.Proofs.Execution.Batches
import MappedSql.Proofs.Execution.Beside

namespace MappedSql

open MappedSql.Action (Tracks)
open Scene (Twins)
open Recording (Executed Closed Owing keysFrom)

variable {pipeline : Pipeline Recording} {admits : Handler → Prop}

namespace Handler

variable {handler : Handler}

structure Updated (handler : Handler) (pipeline : Pipeline Recording) (transaction : Transaction)
    (connections : List RecordedConnection) (values : List Value) (before after : Scene Recording) :
    Prop where
  scene : after = { before with
    source := after.source
    executor := { before.executor with transaction := transaction }
    parameter := after.parameter }
  script : after.source.script = before.source.script
  log : after.source.log = before.source.log ++ [⟨handler.preparedSql pipeline, values⟩]
  nextKey : after.source.nextKey = before.source.nextKey + handler.asked
  connections : after.source.connections = connections
  rowSources : after.source.rowSources = before.source.rowSources
  checked : before.source.script.check (handler.preparedSql pipeline) = .ok ()
  assigned : handler.statement.keys.assignKeys before.parameter
    (keysFrom before.source.nextKey 1) = (after.parameter, .ok ())

theorem assignKeys_of_settle (uncalled : handler.statement.isCallable = false) {script : Script}
    {next : Nat} {parameter : Value}
    (done : (handler.settle script (keysFrom next handler.asked) parameter).1 = .ok ()) :
    handler.statement.keys.assignKeys parameter (keysFrom next 1) =
      ((handler.settle script (keysFrom next handler.asked) parameter).2, .ok ()) := by
  unfold settle takeKeys asked at *
  cases enabled : handler.statement.keys.isEnabled with
  | false =>
      rw [KeyGenerator.assignKeys_of_disabled enabled, uncalled]
      rfl
  | true =>
      rw [enabled, uncalled] at done
      rw [uncalled]
      simp only [if_true, Action.bind_apply, Action.get_apply, Action.set_apply] at done ⊢
      rcases wrote : handler.statement.keys.assignKeys parameter (keysFrom next 1) with
        ⟨assigned, e | u⟩ <;> rw [wrote] at done
      · cases done
      · rfl

theorem update_of_done (plain : pipeline.Plain) (recorded : pipeline.source = Recording.source)
    (uncalled : handler.statement.isCallable = false) {id : StatementId} {scene : Scene Recording}
    (isOpen : scene.source.IsOpen id)
    (asks : (scene.source.statement id).options.returnKeys = handler.statement.keys.isEnabled)
    {count : Nat} (done : (handler.update pipeline id scene).1 = .ok count) :
    count = scene.source.script.updateCount ∧
      scene.source.script.check (scene.source.statement id).sql = .ok () ∧
      ∃ after parameter, scene.source.Executed id handler.asked after ∧
        after.rowSources = scene.source.rowSources ∧
        handler.statement.keys.assignKeys scene.parameter (keysFrom scene.source.nextKey 1) =
          (parameter, .ok ()) ∧
        handler.update pipeline id scene =
          (.ok count, { scene with source := after, parameter := parameter }) := by
  have registered : Registered scene id handler.outputs := by
    intro position mem
    rw [outputs, uncalled] at mem
    cases mem
  cases checked : scene.source.script.check (scene.source.statement id).sql with
  | error e =>
      rw [update_of_refused plain recorded isOpen checked] at done
      cases done
  | ok u =>
      obtain ⟨after, executed, rows, updated⟩ :=
        update_of_checked plain recorded isOpen checked asks registered
      rw [updated] at done ⊢
      cases settled : (handler.settle scene.source.script
          (keysFrom scene.source.nextKey handler.asked) scene.parameter).1 with
      | error e =>
          rw [settled] at done
          cases done
      | ok u =>
          rw [settled] at done
          obtain rfl : scene.source.script.updateCount = count := Except.ok.inj done
          exact ⟨rfl, rfl, after, _, executed, rows, assignKeys_of_settle uncalled settled, rfl⟩

end Handler

namespace Strategy

variable {handler : Handler}

variable (plain : pipeline.Plain) (recorded : pipeline.source = Recording.source)

include plain recorded

theorem updateOnce_of_readied (uncalled : handler.statement.isCallable = false)
    {result : Except Error Unit} {filling : Filling}
    (acts : ∀ id scene, scene.source.IsOpen id →
      handler.parameterize pipeline id scene =
        (result, scene.withSource (scene.source.alter id filling.fill)))
    {scene middle : Scene Recording} {transaction : Transaction}
    {connections : List RecordedConnection}
    (prepared : handler.prepareInTransaction pipeline scene =
      (.ok scene.source.statements.length, middle))
    (readied : handler.Readied pipeline transaction connections scene middle) {count : Nat}
    (done : (updateOnce pipeline handler scene).1 = .ok count) :
    result = .ok () ∧ count = scene.source.script.updateCount ∧
      handler.Updated pipeline transaction connections (placeAll [] filling.placed) scene
        (updateOnce pipeline handler scene).2 := by
  obtain ⟨after, closed, used⟩ := withStatement_apply recorded scene.source.statements.length
    (handler.parameterize pipeline scene.source.statements.length >>= fun _ =>
      handler.update pipeline scene.source.statements.length) middle
  -- the statement is closed whatever comes of the update
  have ran : updateOnce pipeline handler scene = withStatement pipeline scene.source.statements.length
      (handler.parameterize pipeline scene.source.statements.length >>= fun _ =>
        handler.update pipeline scene.source.statements.length) middle := by
    unfold updateOnce
    rw [Action.bind_apply, prepared]
  rw [ran, used] at done ⊢
  have isOpen : middle.source.IsOpen scene.source.statements.length := by
    rw [Recording.IsOpen, readied.prepared]
    rfl
  rw [Action.bind_apply, acts _ _ isOpen] at done closed ⊢
  cases result with
  | error e => cases done
  | ok u =>
      dsimp only at done closed ⊢
      have filled := Recording.statement_alter_self isOpen.lt filling.fill
      rw [readied.prepared] at filled
      have isOpen' : (middle.source.alter scene.source.statements.length filling.fill).IsOpen
          scene.source.statements.length := by
        rw [Recording.IsOpen, filled]
        rfl
      have asks : ((middle.source.alter scene.source.statements.length filling.fill).statement
          scene.source.statements.length).options.returnKeys = handler.statement.keys.isEnabled := by
        rw [filled]
        rfl
      obtain ⟨rfl, checked, last, parameter, executed, rows, assigned, updated⟩ :=
        Handler.update_of_done plain recorded uncalled isOpen' asks done
      rw [updated] at closed ⊢
      have shared : middle.shared = scene.shared := by rw [readied.scene]
      have executor : middle.executor = { scene.executor with transaction := transaction } := by
        rw [readied.scene]
      have before : middle.parameter = scene.parameter := by rw [readied.scene]
      refine ⟨rfl, congrArg _ readied.script, ?_,
        closed.script.trans (executed.script.trans readied.script), ?_, ?_,
        closed.connections.trans (executed.connections.trans readied.connections),
        closed.rowSources.trans (rows.trans readied.rowSources), ?_, ?_⟩
      · show Scene.mk after middle.shared middle.executor parameter = _
        rw [shared, executor]
        rfl
      · refine closed.log.trans (executed.log.trans ?_)
        dsimp only [Scene.withSource]
        rw [filled]
        exact congrArg (· ++ _) readied.log
      · refine closed.nextKey.trans (executed.nextKey.trans ?_)
        show middle.source.nextKey + _ = _
        rw [readied.nextKey]
      · dsimp only [Scene.withSource] at checked
        rw [filled] at checked
        rw [← readied.script]
        exact checked
      · rw [← before, ← readied.nextKey]
        exact assigned

end Strategy

structure Queue (pipeline : Pipeline Recording) (admits : Handler → Prop) (apart : List StatementId)
    (due : List (Value × Nat)) (pending : List PendingBatch) (current : Option (String × String))
    (transaction : Transaction) (s t : Recording) : Prop where
  script : s.script = t.script
  connections : s.connections = t.connections
  rowSources : s.rowSources = t.rowSources
  owing : ∃ log owed, s.Owing s.nextKey pending log owed t.nextKey ∧ t.log = s.log ++ log ∧
    due = owed.map (·, s.script.updateCount)
  distinct : (pending.map PendingBatch.statement).Nodup
  foreign : ∀ id ∈ apart, id < s.statements.length ∧ id ∉ pending.map PendingBatch.statement
  connected : pending ≠ [] → transaction.Connected s.connections
  current : ∀ target, current = some target → ∃ earlier last handler, pending = earlier ++ [last] ∧
    admits handler ∧ target = (handler.bound.sql, handler.statement.id) ∧
    last.keys = handler.statement.keys ∧
    (s.statement last.statement).sql = handler.preparedSql pipeline

def Kin.queue (pipeline : Pipeline Recording) (admits : Handler → Prop) : Kin :=
  fun apart due strategy transaction s t =>
    ∃ pending current, strategy = .batch pending current ∧
      Queue pipeline admits apart due pending current transaction s t

theorem Recording.Owing.isOpen {recording : Recording} {next last : Nat} {pending : List PendingBatch}
    {log : List Execution} {owed : List Value} (owing : recording.Owing next pending log owed last) :
    ∀ batch ∈ pending, recording.IsOpen batch.statement := by
  induction owing with
  | none => exact fun _ no => by cases no
  | some ready later ih => exact List.forall_mem_cons.2 ⟨ready.isOpen, ih⟩

def Filling.enqueue (filling : Filling) (statement : RecordedStatement) : RecordedStatement :=
  { filling.fill statement with
    batch := statement.batch ++ [(filling.fill statement).parameters]
    parameters := [] }

namespace Handler

variable {handler : Handler} {filling : Filling} {recording : Recording} {st : StatementId}
  {timeout : Option Nat}

def batchOf (handler : Handler) (st : StatementId) (parameter : Value) : PendingBatch where
  statement := st
  keys := handler.statement.keys
  result :=
    { statementId := handler.statement.id
      sql := handler.bound.sql
      parameters := [parameter] }

theorem generated_batchOf (handler : Handler) (st : StatementId) (parameter : Value) :
    (handler.batchOf st parameter).generated = handler.asked :=
  rfl

theorem entries_batchOf
    (own : recording.statement st = filling.enqueue (handler.fresh pipeline timeout))
    {parameter : Value} : (handler.batchOf st parameter).entries recording =
      [⟨handler.preparedSql pipeline, placeAll [] filling.placed⟩] := by
  unfold PendingBatch.entries batchOf
  dsimp only
  rw [own]
  rfl

theorem ready_batchOf (own : recording.statement st = filling.enqueue (handler.fresh pipeline timeout))
    (checked : recording.script.check (handler.preparedSql pipeline) = .ok ()) {next : Nat}
    {parameter result : Value}
    (assigned : handler.statement.keys.assignKeys parameter (keysFrom next 1) = (result, .ok ())) :
    (handler.batchOf st parameter).Ready recording next [result] := by
  refine ⟨?_, ?_, ?_, ?_, ?_, List.cons_ne_nil _ _, ?_⟩
  · exact congrArg RecordedStatement.closed own
  · exact (congrArg (fun st : RecordedStatement => recording.script.check st.sql) own).trans checked
  · exact congrArg (fun st : RecordedStatement => st.options.returnKeys) own
  · exact congrArg RecordedStatement.parameters own
  · exact congrArg (fun st : RecordedStatement => st.batch.length) own
  · exact PendingBatch.assignKeys_cons.2 ⟨_, [], assigned, rfl, rfl⟩

end Handler

namespace Queue

variable {apart : List StatementId} {due : List (Value × Nat)} {pending earlier : List PendingBatch}
  {last : PendingBatch} {current : Option (String × String)} {transaction : Transaction}
  {s t s' t' : Recording}

theorem drifts (queue : Queue pipeline admits apart due pending current transaction s t)
    (own : s.Drifts (· ∈ apart) s') (other : t.Drifts (fun _ => True) t')
    (rows : s'.rowSources = t'.rowSources) :
    Queue pipeline admits apart due pending current transaction s' t' := by
  obtain ⟨log, owed, owing, logs, owes⟩ := queue.owing
  have same (batch : PendingBatch) (mem : batch ∈ pending) :
      s'.statement batch.statement = s.statement batch.statement :=
    own.others _ fun mine => (queue.foreign _ mine).2 (List.mem_map_of_mem mem)
  refine ⟨?_, ?_, rows, ⟨log, owed, ?_, ?_, ?_⟩, queue.distinct, ?_, ?_, ?_⟩
  · rw [own.script, other.script, queue.script]
  · rw [own.connections, other.connections, queue.connections]
  · rw [own.nextKey, other.nextKey]
    exact owing.of_same own.script same
  · rw [other.log, own.log, logs]
  · rw [own.script, owes]
  · exact fun id mine => ⟨own.length ▸ (queue.foreign id mine).1, (queue.foreign id mine).2⟩
  · exact fun some => own.connections ▸ queue.connected some
  · rintro target found
    obtain ⟨earlier, last, handler, split, admitted, target, keys, sql⟩ :=
      queue.current _ found
    refine ⟨earlier, last, handler, split, admitted, target, keys, ?_⟩
    rw [same last (split ▸ List.mem_append_right _ (List.mem_singleton_self _))]
    exact sql

theorem settled (queue : Queue pipeline admits apart due [] current transaction s t) : due = [] := by
  obtain ⟨log, owed, owing, -, owes⟩ := queue.owing
  rw [owes, owing.of_nil.2]
  rfl

theorem nothing (queue : Queue pipeline admits apart [] pending current transaction s t) :
    pending = [] := by
  obtain ⟨log, owed, owing, -, owes⟩ := queue.owing
  exact owing.pending_eq_nil (List.map_eq_nil_iff.1 owes.symm)

theorem log_eq (queue : Queue pipeline admits apart [] pending current transaction s t) :
    s.log = t.log := by
  obtain rfl := queue.nothing
  obtain ⟨log, owed, owing, logs, -⟩ := queue.owing
  rw [logs, owing.of_nil.1, List.append_nil]

section

variable {handler : Handler} {filling : Filling} {t t' : Scene Recording}

theorem appended
    (queue : Queue pipeline admits apart due (earlier ++ [last]) current transaction s t.source)
    (admitted : admits handler) (keys : last.keys = handler.statement.keys)
    (sql : (s.statement last.statement).sql = handler.preparedSql pipeline)
    (updated : handler.Updated pipeline transaction s.connections (placeAll [] filling.placed) t t') :
    Queue pipeline admits apart (due ++ [(t'.parameter, t.source.script.updateCount)])
      (earlier ++ [last.addParameter t.parameter]) (some (handler.bound.sql, handler.statement.id))
      transaction (s.alter last.statement filling.enqueue) t'.source := by
  obtain ⟨log, owed, owing, logs, owes⟩ := queue.owing
  obtain ⟨log, owed, mid, written, begun, ready, rfl, rfl, next⟩ := owing.exists_of_snoc
  have own := Recording.statement_alter_self ready.isOpen.lt filling.enqueue
  have statements : (earlier ++ [last.addParameter t.parameter]).map PendingBatch.statement =
      (earlier ++ [last]).map PendingBatch.statement := by simp [PendingBatch.addParameter]
  have distinct := queue.distinct
  rw [List.map_append, List.nodup_append] at distinct
  -- only the last batch changes; the others are on statements of their own
  have others (batch : PendingBatch) (mem : batch ∈ earlier) :
      (s.alter last.statement filling.enqueue).statement batch.statement =
        s.statement batch.statement :=
    Recording.statement_alter_of_ne
      (distinct.2.2 _ (List.mem_map_of_mem mem) _ (List.mem_singleton_self _)) _
  have assigned : last.keys.assignKeys t.parameter (keysFrom (mid + last.generated) 1) =
      (t'.parameter, .ok ()) := by
    rw [keys, ← next]
    exact updated.assigned
  have isOpen : (s.alter last.statement filling.enqueue).IsOpen last.statement := by
    rw [Recording.IsOpen, own]
    exact ready.isOpen
  have queued : ((s.alter last.statement filling.enqueue).statement last.statement).batch =
      (s.statement last.statement).batch ++ [placeAll [] filling.placed] := by
    rw [own, Filling.enqueue, Filling.fill, ready.emptied]
  have script : (s.alter last.statement filling.enqueue).script = s.script := rfl
  obtain ⟨ready', entries⟩ := ready.appended script isOpen (by rw [own]; rfl) (by rw [own]; rfl)
    (by rw [own]; rfl) queued assigned
  have later : mid + (last.addParameter t.parameter).generated = t'.source.nextKey := by
    rw [updated.nextKey, next, PendingBatch.generated_addParameter, keys, Handler.asked, Nat.add_assoc]
  have length : (s.alter last.statement filling.enqueue).statements.length = s.statements.length :=
    List.length_modify _ _ _
  have waiting : (s.alter last.statement filling.enqueue).Owing s.nextKey earlier log owed mid :=
    begun.of_same script others
  refine ⟨?_, ?_, ?_, ⟨_, _, later ▸ waiting.snoc ready', ?_, ?_⟩, ?_, ?_, ?_, ?_⟩
  · exact queue.script.trans updated.script.symm
  · exact updated.connections.symm
  · exact queue.rowSources.trans updated.rowSources.symm
  · rw [updated.log, logs, entries, sql]
    simp [Recording.alter]
  · rw [owes, ← List.append_assoc, ← queue.script]
    simp [Recording.alter]
  · rw [statements]
    exact queue.distinct
  · rw [statements, length]
    exact queue.foreign
  · exact fun _ => queue.connected (List.append_ne_nil_of_right_ne_nil _ (List.cons_ne_nil _ _))
  · rintro target ⟨⟩
    refine ⟨earlier, _, handler, rfl, admitted, rfl, keys, ?_⟩
    show ((s.alter last.statement filling.enqueue).statement last.statement).sql = _
    rw [own]
    exact sql

theorem started {s middle : Scene Recording} {transaction' : Transaction}
    {connections : List RecordedConnection}
    (queue : Queue pipeline admits apart due pending current transaction s.source t.source)
    (admitted : admits handler)
    (readied : handler.Readied pipeline transaction' connections s middle)
    (connected : transaction'.Connected connections)
    (updated : handler.Updated pipeline transaction' connections (placeAll [] filling.placed) t t') :
    Queue pipeline admits apart (due ++ [(t'.parameter, t.source.script.updateCount)])
      (pending ++ [handler.batchOf s.source.statements.length t.parameter])
      (some (handler.bound.sql, handler.statement.id)) transaction'
      (middle.source.alter s.source.statements.length filling.enqueue) t'.source := by
  obtain ⟨log, owed, owing, logs, owes⟩ := queue.owing
  have statements : middle.source.statements.length = s.source.statements.length + 1 := by
    rw [readied.statements, List.length_append]
    rfl
  have length : (middle.source.alter s.source.statements.length filling.enqueue).statements.length =
      s.source.statements.length + 1 := (List.length_modify _ _ _).trans statements
  have inside : s.source.statements.length < middle.source.statements.length := by
    rw [statements]
    exact Nat.lt_succ_self _
  have own := Recording.statement_alter_self inside filling.enqueue
  rw [readied.prepared] at own
  have script : (middle.source.alter s.source.statements.length filling.enqueue).script =
      s.source.script := readied.script
  -- the batches that wait are on older statements, which the new one does not touch
  have old (batch : PendingBatch) (mem : batch ∈ pending) :
      batch.statement < s.source.statements.length := (owing.isOpen batch mem).lt
  have others (batch : PendingBatch) (mem : batch ∈ pending) :
      (middle.source.alter s.source.statements.length filling.enqueue).statement batch.statement =
        s.source.statement batch.statement := by
    rw [Recording.statement_alter_of_ne (Nat.ne_of_lt (old batch mem)),
      readied.statement_of_lt (old batch mem)]
  have waiting : (middle.source.alter s.source.statements.length filling.enqueue).Owing
      s.source.nextKey pending log owed t.source.nextKey := owing.of_same script others
  have ready := Handler.ready_batchOf own (script ▸ queue.script ▸ updated.checked) updated.assigned
  have all := waiting.snoc ready
  rw [Handler.entries_batchOf own, Handler.generated_batchOf, ← updated.nextKey,
    ← readied.nextKey] at all
  refine ⟨script.trans (queue.script.trans updated.script.symm),
    readied.connections.trans updated.connections.symm,
    readied.rowSources.trans (queue.rowSources.trans updated.rowSources.symm),
    ⟨_, _, all, ?_, ?_⟩, ?_, fun id mine => ⟨?_, fun mem => ?_⟩,
    fun _ => readied.connections ▸ connected, ?_⟩
  · rw [updated.log, logs, List.append_assoc]
    exact congrArg (· ++ _) readied.log.symm
  · rw [owes, script, ← queue.script]
    simp
  · rw [List.map_append, List.nodup_append]
    refine ⟨queue.distinct, List.nodup_singleton _, fun id mem other same => ?_⟩
    obtain ⟨batch, queued, rfl⟩ := List.mem_map.1 mem
    rw [List.mem_singleton.1 same]
    exact Nat.ne_of_lt (old batch queued)
  · exact length ▸ Nat.lt_succ_of_lt (queue.foreign id mine).1
  · rw [List.map_append] at mem
    rcases List.mem_append.1 mem with early | late
    · exact (queue.foreign id mine).2 early
    · exact absurd (List.mem_singleton.1 late) (Nat.ne_of_lt (queue.foreign id mine).1)
  · rintro target ⟨⟩
    refine ⟨pending, _, handler, rfl, admitted, rfl, rfl, ?_⟩
    exact congrArg RecordedStatement.sql own

end

end Queue

section

variable {alike : Prop} {apart : List StatementId} {due : List (Value × Nat)} {s t : Scene Recording}

structure Plainly (admits : Handler → Prop) : Prop where
  named : ∀ handler other, admits handler → admits other →
    handler.statement.id = other.statement.id → handler.statement = other.statement
  uncalled : ∀ handler, admits handler → handler.statement.isCallable = false

namespace Strategy

variable {handler : Handler} (plain : pipeline.Plain) (recorded : pipeline.source = Recording.source)

section

variable {filling : Filling} {scene : Scene Recording} {st : StatementId}

include plain recorded

theorem enqueue_apply (isOpen : scene.source.IsOpen st)
    (acts : handler.parameterize pipeline st scene =
      (.ok (), scene.withSource (scene.source.alter st filling.fill))) :
    (handler.parameterize pipeline st >>= fun _ => Handler.addBatch pipeline st) scene =
      (.ok (), scene.withSource (scene.source.alter st filling.enqueue)) := by
  have filled := Recording.statement_alter_self isOpen.lt filling.fill
  have still : (scene.source.alter st filling.fill).IsOpen st := by
    rw [Recording.IsOpen, filled]
    exact isOpen
  rw [Action.bind_apply, acts]
  dsimp only
  rw [Handler.addBatch, plain.call_eq]
  dsimp only
  rw [recorded, Work.onSource_apply]
  dsimp only [Recording.source, Scene.withSource]
  rw [Recording.addBatch_apply still, Recording.alter_alter]
  rfl

theorem appendUpdate_apply {earlier : List PendingBatch} {last : PendingBatch}
    {target : String × String} (isOpen : scene.source.IsOpen last.statement)
    (acts : handler.parameterize pipeline last.statement scene =
      (.ok (), scene.withSource (scene.source.alter last.statement filling.fill))) :
    appendUpdate pipeline handler earlier last target scene =
      (.ok (), { scene with
        source := scene.source.alter last.statement filling.enqueue
        executor := { scene.executor with
          strategy := .batch (earlier ++ [last.addParameter scene.parameter]) (some target) } }) := by
  have queued := enqueue_apply plain recorded isOpen acts
  unfold appendUpdate
  rw [← Action.bind_assoc, Action.bind_apply, queued]
  rfl

theorem startBatch_apply {pending : List PendingBatch} {target : String × String}
    {middle : Scene Recording} (isOpen : middle.source.IsOpen st)
    (prepared : handler.prepareInTransaction pipeline scene = (.ok st, middle))
    (acts : handler.parameterize pipeline st middle =
      (.ok (), middle.withSource (middle.source.alter st filling.fill))) :
    startBatch pipeline handler pending target scene =
      (.ok (), { middle with
        source := middle.source.alter st filling.enqueue
        executor := { middle.executor with
          strategy := .batch (pending ++ [handler.batchOf st middle.parameter]) (some target) } }) := by
  have queued := enqueue_apply plain recorded isOpen acts
  unfold startBatch
  rw [Action.bind_apply, prepared]
  dsimp only
  rw [Action.bind_apply, Action.attempt, queued]
  rfl

end

theorem queueUpdate_of_current {scene : Scene Recording} {earlier : List PendingBatch}
    {last : PendingBatch} (own : scene.executor.strategy =
      .batch (earlier ++ [last]) (some (handler.bound.sql, handler.statement.id))) :
    queueUpdate pipeline handler scene =
      (appendUpdate pipeline handler earlier last (handler.bound.sql, handler.statement.id) >>= fun _ =>
        pure queuedCount) scene := by
  have final : scene.executor.strategy.pending.getLast? = some last := by
    rw [own, Strategy.pending, List.getLast?_concat]
  have before : scene.executor.strategy.pending.dropLast = earlier := by
    rw [own, Strategy.pending, List.dropLast_concat]
  have now : scene.executor.strategy.current = some (handler.bound.sql, handler.statement.id) := by
    rw [own, Strategy.current]
  unfold queueUpdate
  rw [Action.bind_apply, Work.executor_apply]
  dsimp only
  rw [final]
  dsimp only
  rw [if_pos now, before]

theorem queueUpdate_of_other {scene : Scene Recording} {pending : List PendingBatch}
    {current : Option (String × String)} (own : scene.executor.strategy = .batch pending current)
    (differ : current ≠ some (handler.bound.sql, handler.statement.id)) :
    queueUpdate pipeline handler scene =
      (startBatch pipeline handler pending (handler.bound.sql, handler.statement.id) >>= fun _ =>
        pure queuedCount) scene := by
  have queued : scene.executor.strategy.pending = pending := by rw [own, Strategy.pending]
  have now : scene.executor.strategy.current ≠ some (handler.bound.sql, handler.statement.id) := by
    rw [own, Strategy.current]
    exact differ
  unfold queueUpdate
  rw [Action.bind_apply, Work.executor_apply]
  dsimp only
  cases final : scene.executor.strategy.pending.getLast? with
  | none =>
      rw [queued] at final
      rw [List.getLast?_eq_none_iff.1 final]
  | some last =>
      dsimp only
      rw [if_neg now, queued]

section

variable {s t t' : Scene Recording} {filling : Filling} {transaction : Transaction}
  {connections : List RecordedConnection} {pending : List PendingBatch}
  {current : Option (String × String)}

def Queues (pipeline : Pipeline Recording) (admits : Handler → Prop) (apart : List StatementId)
    (due : List (Value × Nat)) (transaction : Transaction) (handler : Handler)
    (s : Scene Recording) (t : Recording) : Prop :=
  ∃ after pending current, queueUpdate pipeline handler s = (.ok queuedCount, { s with
      source := after
      executor := { s.executor with
        strategy := .batch pending current
        transaction := transaction } }) ∧
    Queue pipeline admits apart due pending current transaction after t

variable (own : s.executor.strategy = .batch pending current)
  (queue : Queue pipeline admits apart due pending current s.executor.transaction s.source t.source)
  (admitted : admits handler) (same : s.parameter = t.parameter)
  (acts : ∀ id scene, scene.source.IsOpen id → handler.parameterize pipeline id scene =
    (.ok (), scene.withSource (scene.source.alter id filling.fill)))

include plain recorded own queue admitted same acts

theorem queues_of_current (plainly : Plainly admits)
    (goesOn : current = some (handler.bound.sql, handler.statement.id))
    (updated : handler.Updated pipeline s.executor.transaction s.source.connections
      (placeAll [] filling.placed) t t') :
    Queues pipeline admits apart (due ++ [(t'.parameter, t.source.script.updateCount)])
      s.executor.transaction handler s t'.source := by
  obtain ⟨earlier, last, other, rfl, admitted', target, keys, sql⟩ := queue.current _ goesOn
  obtain ⟨sameSql, sameId⟩ := Prod.mk.inj target
  rw [← plainly.named handler other admitted admitted' sameId] at keys
  rw [Handler.preparedSql, ← sameSql] at sql
  have isOpen : s.source.IsOpen last.statement := by
    obtain ⟨log, owed, owing, -⟩ := queue.owing
    exact owing.isOpen last (List.mem_append_right _ (List.mem_singleton_self _))
  rw [goesOn] at own
  refine ⟨_, _, _, ?_, queue.appended admitted keys sql updated⟩
  rw [queueUpdate_of_current own, Action.bind_apply,
    appendUpdate_apply plain recorded isOpen (acts _ _ isOpen), same]
  rfl

theorem queues_of_other {middle : Scene Recording}
    (differ : current ≠ some (handler.bound.sql, handler.statement.id))
    (prepared : handler.prepareInTransaction pipeline s = (.ok s.source.statements.length, middle))
    (readied : handler.Readied pipeline transaction connections s middle)
    (connected : transaction.Connected connections)
    (updated : handler.Updated pipeline transaction connections (placeAll [] filling.placed) t t') :
    Queues pipeline admits apart (due ++ [(t'.parameter, t.source.script.updateCount)]) transaction
      handler s t'.source := by
  have isOpen : middle.source.IsOpen s.source.statements.length := by
    rw [Recording.IsOpen, readied.prepared]
    rfl
  have executor : middle.executor = { s.executor with transaction := transaction } := by
    rw [readied.scene]
  have shared : middle.shared = s.shared := by rw [readied.scene]
  have before : middle.parameter = s.parameter := by rw [readied.scene]
  refine ⟨_, _, _, ?_, queue.started admitted readied connected updated⟩
  rw [queueUpdate_of_other own differ, Action.bind_apply,
    startBatch_apply plain recorded isOpen prepared (acts _ _ isOpen), executor, shared, before, same]
  rfl

end

include plain recorded

theorem tracks_queueUpdate (plainly : Plainly admits) (admitted : admits handler) :
    Tracks False (Twins (Kin.queue pipeline admits) True apart due) (queueUpdate pipeline handler)
      (updateOnce pipeline handler)
      (fun _ b s t => Twins (Kin.queue pipeline admits) False apart (due ++ [(t.parameter, b)]) s t)
      (Twins (Kin.queue pipeline admits) True apart due) := by
  intro s t twins
  refine ⟨fun count done => ?_, fun no => no.elim⟩
  obtain ⟨pending, current, own, queue⟩ := twins.kin
  have uncalled := plainly.uncalled handler admitted
  have same : s.parameter = t.parameter := twins.parameter trivial
  obtain ⟨result, filling, -, -, fills⟩ := handler.fills_parameterize recorded plain
  have acts (id : StatementId) (scene : Scene Recording) (isOpen : scene.source.IsOpen id) :
      handler.parameterize pipeline id scene =
        (result, scene.withSource (scene.source.alter id filling.fill)) :=
    fills id scene isOpen fun called => by cases uncalled.symm.trans called
  obtain ⟨-, e, refused⟩ | ⟨transaction, connections, connected, still, prepares⟩ :=
    handler.prepareInTransaction_apply plain recorded s.executor.transaction s.source.connections
  · rw [updateOnce, Action.bind_apply, refused t twins.transaction queue.connections.symm] at done
    cases done
  · obtain ⟨middle', prepared', readied'⟩ := prepares t twins.transaction queue.connections.symm
    obtain ⟨rfl, rfl, updated⟩ :=
      updateOnce_of_readied plain recorded uncalled acts prepared' readied' done
    generalize (updateOnce pipeline handler t).2 = t' at updated
    -- the update joins the current batch, or begins one on a statement of its own
    have queues : Queues pipeline admits apart (due ++ [(t'.parameter, t.source.script.updateCount)])
        transaction handler s t'.source := by
      by_cases goesOn : current = some (handler.bound.sql, handler.statement.id)
      · obtain ⟨earlier, last, -, split, -⟩ := queue.current _ goesOn
        obtain ⟨rfl, rfl⟩ := still (queue.connected (by simp [split]))
        exact queues_of_current plain recorded own queue admitted same acts plainly goesOn updated
      · obtain ⟨middle, prepared, readied⟩ := prepares s rfl rfl
        exact queues_of_other plain recorded own queue admitted same acts goesOn prepared readied
          connected updated
    obtain ⟨after, pending', current', queued, queue'⟩ := queues
    have executor : t'.executor = { t.executor with transaction := transaction } := by
      rw [updated.scene]
    have shared : t'.shared = t.shared := by rw [updated.scene]
    rw [queued]
    refine ⟨queuedCount, rfl, ?_, fun no => no.elim, ?_, _, _, rfl, queue'⟩
    · rw [executor, shared]
      exact twins.sharing
    rw [executor, twins.executor]

end Strategy

/-- Batches tell of parameters and counts, one count for each parameter. -/
structure BatchResult.Tells (results : List BatchResult) (owed : List (Value × Nat)) : Prop where
  complete : ∀ result ∈ results, result.Complete
  pairs : results.flatMap BatchResult.pairs = owed

variable (plain : pipeline.Plain) (recorded : pipeline.source = Recording.source)

theorem Queue.executeAll {apart : List StatementId} {due : List (Value × Nat)}
    {pending : List PendingBatch} {current : Option (String × String)} {transaction : Transaction}
    {s t : Recording} (queue : Queue pipeline admits apart due pending current transaction s t) :
    ∃ results after, PendingBatch.executeAll Recording.source 0 pending s = (.ok results, after) ∧
      BatchResult.Tells results due ∧ Abreast pipeline admits apart [] transaction after t := by
  obtain ⟨log, owed, owing, logs, owes⟩ := queue.owing
  obtain ⟨results, after, ran, flushed, complete, pairs⟩ :=
    Recording.executeAll_apply owing queue.distinct 0
  refine ⟨results, after, ran, ⟨complete, pairs.trans owes.symm⟩, ⟨?_, ?_, ?_, ?_, ?_⟩,
    fun _ no => (by cases no), .nil, fun id mine => ⟨?_, fun no => by cases no⟩,
    fun some => absurd rfl some⟩
  · rw [flushed.script, queue.script]
  · rw [flushed.log, logs]
  · exact flushed.nextKey
  · rw [flushed.connections, queue.connections]
  · rw [flushed.rowSources, queue.rowSources]
  · rw [flushed.length]
    exact (queue.foreign id mine).1

abbrev Kin.idle (pipeline : Pipeline Recording) (admits : Handler → Prop) : Kin :=
  Kin.abreast pipeline admits (.batch [] none) []

theorem twins_queue_of_idle (idle : Twins (Kin.idle pipeline admits) alike apart due s t) :
    Twins (Kin.queue pipeline admits) alike apart [] s t := by
  obtain ⟨strategy, abreast⟩ := idle.kin
  have even := abreast.even
  exact ⟨idle.sharing, idle.parameter, idle.executor, [], none, strategy, even.script,
    even.connections, even.rowSources, ⟨[], [], even.nextKey ▸ .none _,
      (List.append_nil _).symm ▸ even.log.symm, rfl⟩, .nil,
    fun id mine => ⟨(abreast.foreign id mine).1, fun no => by cases no⟩,
    fun some => absurd rfl some, fun _ no => by cases no⟩

namespace Strategy

include recorded in
theorem flushPending_apply (scene : Scene Recording) :
    flushPending pipeline false scene =
      ((PendingBatch.executeAll Recording.source 0 scene.executor.strategy.pending scene.source).1,
        { scene with
          source := (PendingBatch.executeAll Recording.source 0 scene.executor.strategy.pending
            scene.source).2
          executor := { scene.executor with strategy := .batch [] none } }) := by
  unfold flushPending
  rw [Action.bind_apply, Work.executor_apply]
  dsimp only
  rw [recorded]
  rfl

include recorded

theorem flushPending_of_twins (twins : Twins (Kin.queue pipeline admits) alike apart due s t) :
    ∃ results, (flushPending pipeline false s).1 = .ok results ∧ BatchResult.Tells results due ∧
      Twins (Kin.idle pipeline admits) alike apart [] (flushPending pipeline false s).2 t := by
  obtain ⟨pending, current, own, queue⟩ := twins.kin
  obtain ⟨results, after, ran, tells, abreast⟩ := queue.executeAll
  rw [flushPending_apply recorded, own, Strategy.pending, ran]
  exact ⟨results, rfl, tells, twins.sharing, twins.parameter, twins.executor, rfl, abreast⟩

theorem tracks_flushPending {α β : Type} {act : Work Recording α} {other : Work Recording β}
    {post : α → β → Scene Recording → Scene Recording → Prop}
    {fails : Scene Recording → Scene Recording → Prop}
    (tracks : Tracks True (Twins (Kin.idle pipeline admits) alike apart []) act other post fails) :
    Tracks False (Twins (Kin.queue pipeline admits) alike apart due)
      (flushPending pipeline false >>= fun _ => act) other post fails := by
  refine Tracks.left_first (fun s t twins => ?_) fun _ => tracks.lenient
  obtain ⟨results, ran, -, idle⟩ := flushPending_of_twins recorded twins
  exact ⟨results, ran, idle⟩

end Strategy

open Strategy in
theorem lockstep_queue (plain : pipeline.Plain) (recorded : pipeline.source = Recording.source)
    (plainly : Plainly admits) : Lockstep pipeline False admits (Kin.queue pipeline admits) where
  rowSources := fun ⟨_, _, _, queue⟩ => queue.rowSources
  connections := fun ⟨_, _, _, queue⟩ => queue.connections
  drifts := fun ⟨pending, current, strategy, queue⟩ own other rows =>
    ⟨pending, current, strategy, queue.drifts own other rows⟩
  update := by
    rintro apart due statement s t ⟨admitted, twins⟩
    obtain ⟨pending, current, strategy, -⟩ := twins.kin
    have same := twins.parameter trivial
    cases found : statement.boundSql t.parameter pipeline.setting with
    | error e =>
        rw [update_of_unbound found]
        exact ⟨fun b no => (by cases no), fun no => no.elim⟩
    | ok bound =>
        rw [update_of_bound found, update_of_bound (same ▸ found), strategy, twins.strategy]
        obtain ⟨goes, -⟩ := tracks_queueUpdate plain recorded plainly
          (admitted bound .unbounded found) s t twins
        refine ⟨fun b done => ?_, fun no => no.elim⟩
        obtain ⟨a, ran, twins⟩ := goes b done
        exact ⟨a, ran, fun no => no.elim, twins⟩
  query := by
    intro alike apart due handler admitted s t twins
    obtain ⟨pending, current, strategy, -⟩ := twins.kin
    rw [query_apply, query_apply, strategy, twins.strategy]
    -- what waits is flushed first, so nothing is owed behind a query
    obtain ⟨goes, -⟩ := tracks_flushPending recorded (tracks_queryOnce plain recorded handler) s t twins
    refine ⟨fun b done => ?_, fun no => no.elim⟩
    obtain ⟨a, ran, same, idle⟩ := goes b done
    exact ⟨a, ran, same, [], .inr rfl, twins_queue_of_idle idle⟩
  openCursor := by
    intro alike apart due handler admitted s t twins
    obtain ⟨pending, current, strategy, -⟩ := twins.kin
    rw [openCursor_apply, openCursor_apply, strategy, twins.strategy]
    obtain ⟨goes, -⟩ := tracks_flushPending recorded (tracks_openOnce plain recorded handler) s t twins
    refine ⟨fun b done => ?_, fun no => no.elim⟩
    obtain ⟨a, ran, l, cursor, idle⟩ := goes b done
    exact ⟨a, ran, [l], [], cursor, .inr rfl, twins_queue_of_idle idle⟩
  flush := by
    intro alike apart due s t twins
    obtain ⟨pending, current, strategy, -⟩ := twins.kin
    rw [flush_apply, flush_apply, strategy, twins.strategy]
    obtain ⟨results, ran, -, idle⟩ := flushPending_of_twins recorded twins
    exact ⟨fun _ _ => ⟨results, ran, fun no => no.elim, twins_queue_of_idle idle⟩, fun no => no.elim⟩
  giveUp := fun no => no.elim
  ends := fun no => no.elim

end

end MappedSql
