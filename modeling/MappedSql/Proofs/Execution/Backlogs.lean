import MappedSql.Proofs.Execution.Dues
import MappedSql.Proofs.Placeholder.Alignment

namespace MappedSql

open Recording (keysFrom)

variable {pipeline : Pipeline Recording}

theorem Written.count_marked {written : List Written} (unmarked : char '?' ∉ written) :
    (marked written).count '?' = (slots written).length := by
  induction written with
  | nil => rfl
  | cons head rest ih =>
      obtain ⟨differ, later⟩ := not_or.1 (mt List.mem_cons.2 unmarked)
      cases head with
      | char c =>
          have other : c ≠ '?' := fun same => differ (congrArg char same.symm)
          exact (List.count_cons_of_ne other).trans (ih later)
      | slot content =>
          exact List.count_cons_self.trans (congrArg (· + 1) (ih later))

namespace BoundSql

def questionMarks (sql : String) : List Nat :=
  List.range' 1 (sql.toList.count '?')

def Unquestioned (bound : BoundSql) : Prop :=
  ∃ setting text, MarkedSql.ofText setting text = .ok ⟨bound.sql, bound.mappings⟩ ∧
    Written.char '?' ∉ Written.ofText text

theorem Unquestioned.count_eq {bound : BoundSql} (unquestioned : bound.Unquestioned) :
    bound.sql.toList.count '?' = bound.mappings.length := by
  obtain ⟨setting, text, parsed, unmarked⟩ := unquestioned
  obtain ⟨sql, mappings⟩ := MarkedSql.written_of_ofText parsed
  dsimp only at sql mappings
  rw [sql, String.toList_ofList, Written.count_marked unmarked, mappings.length_eq]

theorem sentFrom_of_inputs {mappings : List ParameterMapping}
    (inputs : ∀ mapping ∈ mappings, mapping.direction ≠ .output) (position : Nat) :
    sentFrom position mappings = List.range' position mappings.length := by
  induction mappings generalizing position with
  | nil => rfl
  | cons mapping rest ih =>
      obtain ⟨sends, later⟩ := List.forall_mem_cons.1 inputs
      rw [sentFrom, if_pos (bne_iff_ne.2 sends), ih later]
      rfl

end BoundSql

open BoundSql (questionMarks)

namespace Handler

/-- An invocation with parameters that are only sent, one for each question mark of its SQL. -/
structure InputOnly (handler : Handler) : Prop where
  prepared : handler.statement.kind = .prepared
  inputs : ∀ mapping ∈ handler.bound.mappings, mapping.direction ≠ .output
  unquestioned : handler.bound.Unquestioned

variable {handler : Handler}

theorem InputOnly.uncalled (inputOnly : handler.InputOnly) : handler.statement.isCallable = false := by
  rw [MappedStatement.isCallable, inputOnly.prepared]
  rfl

theorem InputOnly.positions_eq (inputOnly : handler.InputOnly) :
    handler.positions = questionMarks handler.bound.sql := by
  rw [positions, inputOnly.prepared, BoundSql.sentFrom_of_inputs inputOnly.inputs, questionMarks,
    inputOnly.unquestioned.count_eq]

/-- Setting the parameters of an invocation places values at question marks of its SQL, at all of them
if it goes through. -/
theorem InputOnly.fills (inputOnly : handler.InputOnly) (plain : pipeline.Plain)
    (recorded : pipeline.source = Recording.source) :
    ∃ (result : Except Error Unit) (filling : Filling),
      (∀ entry ∈ filling.placed, entry.1 ∈ questionMarks handler.bound.sql) ∧
      (result = .ok () → filling.placed.map Prod.fst = questionMarks handler.bound.sql) ∧
      ∀ st (scene : Scene Recording), scene.source.IsOpen st →
        handler.parameterize pipeline st scene =
          (result, scene.withSource (scene.source.alter st filling.fill)) := by
  obtain ⟨result, filling, within, covers, acts⟩ := handler.fills_parameterize recorded plain
  rw [inputOnly.positions_eq] at within covers
  refine ⟨result, filling, within, fun done => (covers done).1, fun st scene isOpen => ?_⟩
  exact acts st scene isOpen fun called => by cases inputOnly.uncalled.symm.trans called

end Handler

/-- What was queued on one statement: the invocation that it was prepared for, and the parameters of
updates with the values that were placed for them. -/
structure Backlog where
  handler : Handler
  updates : List (Value × List Value)

namespace Backlog

def target (backlog : Backlog) : String × String :=
  (backlog.handler.bound.sql, backlog.handler.statement.id)

def add (backlog : Backlog) (update : Value × List Value) : Backlog :=
  { backlog with updates := backlog.updates ++ [update] }

def join (handler : Handler) (update : Value × List Value) (queue : List Backlog) : List Backlog :=
  match queue.getLast? with
  | some last =>
      if last.target = (handler.bound.sql, handler.statement.id) then queue.dropLast ++ [last.add update]
      else queue ++ [⟨handler, [update]⟩]
  | none => [⟨handler, [update]⟩]

theorem target_cases (queue : List Backlog) (goal : String × String) :
    (∃ earlier last, queue = earlier ++ [last] ∧ last.target = goal) ∨
      queue.getLast?.map target ≠ some goal := by
  by_cases current : queue.getLast?.map target = some goal
  · obtain ⟨last, final, same⟩ := Option.map_eq_some_iff.1 current
    obtain ⟨earlier, split⟩ := List.getLast?_eq_some_iff.1 final
    exact .inl ⟨earlier, last, split, same⟩
  · exact .inr current

theorem join_of_target {handler : Handler} {earlier : List Backlog} {last : Backlog}
    (same : last.target = (handler.bound.sql, handler.statement.id)) (update : Value × List Value) :
    join handler update (earlier ++ [last]) = earlier ++ [last.add update] := by
  unfold join
  rw [List.getLast?_concat]
  dsimp only
  rw [if_pos same, List.dropLast_concat]

theorem join_of_other {handler : Handler} {queue : List Backlog}
    (differ : queue.getLast?.map target ≠ some (handler.bound.sql, handler.statement.id))
    (update : Value × List Value) : join handler update queue = queue ++ [⟨handler, [update]⟩] := by
  unfold join
  cases final : queue.getLast? with
  | none =>
      rw [List.getLast?_eq_none_iff.1 final]
      rfl
  | some last =>
      rw [final] at differ
      exact if_neg fun same => differ (congrArg some same)

structure Held (pipeline : Pipeline Recording) (recording : Recording) (backlog : Backlog)
    (batch : PendingBatch) : Prop where
  isOpen : recording.IsOpen batch.statement
  sql : (recording.statement batch.statement).sql = backlog.handler.preparedSql pipeline
  returnKeys : (recording.statement batch.statement).options.returnKeys =
    backlog.handler.statement.keys.isEnabled
  entries : (recording.statement batch.statement).batch = backlog.updates.map Prod.snd
  left : ∃ left : List (Nat × Value),
    (∀ entry ∈ left, entry.1 ∈ questionMarks backlog.handler.bound.sql) ∧
      (recording.statement batch.statement).parameters = placeAll [] left
  keys : batch.keys = backlog.handler.statement.keys
  result : batch.result =
    ⟨backlog.handler.statement.id, backlog.handler.bound.sql, backlog.updates.map Prod.fst, []⟩

variable {recording after : Recording} {backlog : Backlog} {batch : PendingBatch} {handler : Handler}
  {filling : Filling}

namespace Held

theorem counted (held : backlog.Held pipeline recording batch) :
    (recording.statement batch.statement).batch.length = batch.result.parameters.length := by
  rw [held.entries, held.result, List.length_map, List.length_map]

theorem of_same (held : backlog.Held pipeline recording batch)
    (same : after.statement batch.statement = recording.statement batch.statement) :
    backlog.Held pipeline after batch := by
  obtain ⟨isOpen, sql, returnKeys, entries, left, keys, result⟩ := held
  refine ⟨?_, ?_, ?_, ?_, ?_, keys, result⟩
  · exact (congrArg RecordedStatement.closed same).trans isOpen
  all_goals rwa [same]

theorem filled (held : backlog.Held pipeline recording batch)
    (within : ∀ entry ∈ filling.placed, entry.1 ∈ questionMarks backlog.handler.bound.sql) :
    backlog.Held pipeline (recording.alter batch.statement filling.fill) batch := by
  have now := Recording.statement_alter_self held.isOpen.lt filling.fill
  obtain ⟨left, inside, parameters⟩ := held.left
  refine ⟨?_, ?_, ?_, ?_, ⟨left ++ filling.placed, List.forall_mem_append.2 ⟨inside, within⟩, ?_⟩,
    held.keys, held.result⟩
  · exact (congrArg RecordedStatement.closed now).trans held.isOpen
  · exact (congrArg RecordedStatement.sql now).trans held.sql
  · exact (congrArg (fun st : RecordedStatement => st.options.returnKeys) now).trans held.returnKeys
  · exact (congrArg RecordedStatement.batch now).trans held.entries
  · rw [now, placeAll_append, ← parameters]
    rfl

theorem enqueued (held : backlog.Held pipeline recording batch) (parameter : Value)
    (covers : filling.placed.map Prod.fst = questionMarks backlog.handler.bound.sql) :
    (backlog.add (parameter, placeAll [] filling.placed)).Held pipeline
      (recording.alter batch.statement filling.enqueue) (batch.addParameter parameter) := by
  have now := Recording.statement_alter_self held.isOpen.lt filling.enqueue
  obtain ⟨left, inside, parameters⟩ := held.left
  have counted : ∀ position ∈ filling.placed.map Prod.fst, 0 < position := fun position mem =>
    (List.mem_range'_1.1 (covers ▸ mem)).1
  -- what refused updates have left stands where this update places its own values
  have hidden : placeAll (placeAll [] left) filling.placed = placeAll [] filling.placed :=
    placeAll_of_covered [] counted (covers ▸ inside)
  refine ⟨?_, ?_, ?_, ?_, ⟨[], List.forall_mem_nil _, ?_⟩, held.keys, ?_⟩
  · exact (congrArg RecordedStatement.closed now).trans held.isOpen
  · exact (congrArg RecordedStatement.sql now).trans held.sql
  · exact (congrArg (fun st : RecordedStatement => st.options.returnKeys) now).trans held.returnKeys
  · refine (congrArg RecordedStatement.batch now).trans ?_
    dsimp only [Filling.enqueue, Filling.fill, add]
    rw [held.entries, parameters, hidden, List.map_append]
    rfl
  · exact congrArg RecordedStatement.parameters now
  · rw [PendingBatch.addParameter, held.result, add, List.map_append]
    rfl

end Held

theorem held_batchOf {st : StatementId} {timeout : Option Nat}
    (own : recording.statement st = filling.enqueue (handler.fresh pipeline timeout))
    (parameter : Value) :
    Held pipeline recording ⟨handler, [(parameter, placeAll [] filling.placed)]⟩
      (handler.batchOf st parameter) where
  isOpen := congrArg RecordedStatement.closed own
  sql := congrArg RecordedStatement.sql own
  returnKeys := congrArg (fun st : RecordedStatement => st.options.returnKeys) own
  entries := congrArg RecordedStatement.batch own
  left := ⟨[], List.forall_mem_nil _, congrArg RecordedStatement.parameters own⟩
  keys := rfl
  result := rfl

end Backlog

structure Recording.Holds (pipeline : Pipeline Recording) (recording : Recording) (queue : List Backlog)
    (pending : List PendingBatch) : Prop where
  held : List.Forall₂ (Backlog.Held pipeline recording) queue pending
  apart : (pending.map PendingBatch.statement).Nodup

namespace Recording.Holds

variable {recording after : Recording} {queue earlier : List Backlog} {last : Backlog}
  {pending : List PendingBatch} {batch : PendingBatch}

theorem nil (recording : Recording) : recording.Holds pipeline [] [] :=
  ⟨.nil, .nil⟩

theorem exists_held (holds : recording.Holds pipeline queue pending) (mem : batch ∈ pending) :
    ∃ backlog ∈ queue, backlog.Held pipeline recording batch := by
  have held := holds.held
  clear holds
  induction held with
  | nil => cases mem
  | @cons backlog first queue rest own later ih =>
      cases mem with
      | head => exact ⟨backlog, List.mem_cons_self, own⟩
      | tail _ mem =>
          obtain ⟨other, there, held⟩ := ih mem
          exact ⟨other, List.mem_cons_of_mem _ there, held⟩

theorem lt (holds : recording.Holds pipeline queue pending) (mem : batch ∈ pending) :
    batch.statement < recording.statements.length :=
  let ⟨_, _, held⟩ := holds.exists_held mem
  held.isOpen.lt

theorem of_same (holds : recording.Holds pipeline queue pending)
    (same : ∀ batch ∈ pending,
      after.statement batch.statement = recording.statement batch.statement) :
    after.Holds pipeline queue pending := by
  obtain ⟨held, apart⟩ := holds
  refine ⟨?_, apart⟩
  clear apart
  induction held with
  | nil => exact .nil
  | cons own later ih =>
      obtain ⟨first, rest⟩ := List.forall_mem_cons.1 same
      exact .cons (own.of_same first) (ih rest)

theorem exists_last (holds : recording.Holds pipeline (earlier ++ [last]) pending) :
    ∃ front batch, pending = front ++ [batch] ∧ recording.Holds pipeline earlier front ∧
      last.Held pipeline recording batch ∧ batch.statement ∉ front.map PendingBatch.statement := by
  obtain ⟨held, apart⟩ := holds
  induction earlier generalizing pending with
  | nil =>
      obtain ⟨batch, rest, own, none, rfl⟩ := List.forall₂_cons_left_iff.1 held
      obtain rfl := List.forall₂_nil_left_iff.1 none
      exact ⟨[], batch, rfl, nil recording, own, List.not_mem_nil⟩
  | cons backlog earlier ih =>
      obtain ⟨first, rest, own, later, rfl⟩ := List.forall₂_cons_left_iff.1 held
      obtain ⟨fresh, others⟩ := List.nodup_cons.1 apart
      obtain ⟨front, batch, rfl, before, last, alone⟩ := ih later others
      rw [List.map_append, List.mem_append, not_or] at fresh
      refine ⟨first :: front, batch, rfl, ⟨.cons own before.held, ?_⟩, last, ?_⟩
      · exact List.nodup_cons.2 ⟨fresh.1, before.apart⟩
      · rw [List.map_cons, List.mem_cons, not_or]
        exact ⟨fun same => fresh.2 (List.mem_singleton.2 same.symm), alone⟩

theorem concat (holds : recording.Holds pipeline earlier pending)
    (held : last.Held pipeline recording batch)
    (alone : batch.statement ∉ pending.map PendingBatch.statement) :
    recording.Holds pipeline (earlier ++ [last]) (pending ++ [batch]) where
  held := List.rel_append holds.held (.cons held .nil)
  apart := by
    rw [List.map_append, List.nodup_append]
    refine ⟨holds.apart, List.nodup_singleton _, fun st mem other own same => ?_⟩
    obtain rfl := List.mem_singleton.1 own
    exact alone (same ▸ mem)

end Recording.Holds

namespace Backlog

def report (pipeline : Pipeline Recording) (script : Script) (next : Nat) (backlog : Backlog) :
    Except Error BatchResult := do
  script.check (backlog.handler.preparedSql pipeline)
  let parameters ← PendingBatch.assignKeys backlog.handler.statement.keys
    (backlog.updates.map Prod.fst) (keysFrom next backlog.updates.length)
  return {
    statementId := backlog.handler.statement.id
    sql := backlog.handler.bound.sql
    parameters := parameters
    counts := List.replicate backlog.updates.length script.updateCount }

def logged (pipeline : Pipeline Recording) (script : Script) (backlog : Backlog) : List Execution :=
  if (script.check (backlog.handler.preparedSql pipeline)).isOk then
    backlog.updates.map fun update => ⟨backlog.handler.preparedSql pipeline, update.2⟩
  else []

def generated (backlog : Backlog) : Nat :=
  if backlog.handler.statement.keys.isEnabled then backlog.updates.length else 0

def reportAll (pipeline : Pipeline Recording) (script : Script) :
    Nat → Nat → List Backlog → Except Error (List BatchResult) × List Execution
  | _, _, [] => (.ok [], [])
  | next, done, backlog :: rest =>
      match backlog.report pipeline script next with
      | .error e =>
          (.error (e.inContext
            (PendingBatch.failureContext (done + 1) done backlog.handler.statement.id)),
            backlog.logged pipeline script)
      | .ok result =>
          let (results, log) := reportAll pipeline script (next + backlog.generated) (done + 1) rest
          (results.map (result :: ·), backlog.logged pipeline script ++ log)

variable {recording : Recording} {backlog : Backlog} {batch : PendingBatch}

theorem Held.execute_apply (held : backlog.Held pipeline recording batch) :
    ∃ after, PendingBatch.execute Recording.source batch recording =
        (backlog.report pipeline recording.script recording.nextKey, after) ∧
      after.log = recording.log ++ backlog.logged pipeline recording.script ∧
      after.script = recording.script ∧
      ((backlog.report pipeline recording.script recording.nextKey).isOk = true →
        after.nextKey = recording.nextKey + backlog.generated) ∧
      ∀ other, other ≠ batch.statement → after.statement other = recording.statement other := by
  unfold PendingBatch.execute report logged
  rw [Action.bind_apply]
  dsimp only [Recording.source]
  cases checked : recording.script.check (backlog.handler.preparedSql pipeline) with
  | error e =>
      rw [← held.sql] at checked
      rw [Recording.executeBatch_of_refused held.isOpen checked]
      exact ⟨recording, rfl, (List.append_nil _).symm, rfl, nofun, fun _ _ => rfl⟩
  | ok u =>
      rw [← held.sql] at checked
      obtain ⟨after, executed, came, keys⟩ := Recording.executeBatch_apply held.isOpen checked rfl
      -- one key for each entry, if the statement was prepared for keys
      have entries : (recording.statement batch.statement).batch.length = backlog.updates.length := by
        rw [held.entries, List.length_map]
      have generates : (if (recording.statement batch.statement).options.returnKeys then
          (recording.statement batch.statement).batch.length else 0) = backlog.generated := by
        rw [held.returnKeys, entries, generated]
      have log : after.log = recording.log ++ backlog.updates.map fun update =>
          ⟨backlog.handler.preparedSql pipeline, update.2⟩ := by
        rw [came.log, held.sql, held.entries, List.map_map]
        rfl
      rw [generates] at came keys
      rw [executed, entries]
      dsimp only
      rw [held.keys, held.result]
      cases enabled : backlog.handler.statement.keys.isEnabled with
      | false =>
          refine ⟨after, ?_, log, came.script, fun _ => came.nextKey, came.others⟩
          rw [PendingBatch.assignKeys_of_disabled enabled]
          rfl
      | true =>
          have all : backlog.generated = backlog.updates.length := by rw [generated, enabled]; rfl
          rw [all] at keys
          refine ⟨_, ?_, (came.withKeys []).log.trans (came.log.symm.trans log),
            (came.withKeys []).script, fun _ => (came.withKeys []).nextKey, (came.withKeys []).others⟩
          rw [if_pos rfl, Action.bind_apply, Recording.generatedKeys_apply, keys]
          dsimp only
          rw [Action.bind_apply]
          cases PendingBatch.assignKeys backlog.handler.statement.keys
            (backlog.updates.map Prod.fst) (keysFrom recording.nextKey backlog.updates.length) <;> rfl

end Backlog

theorem Recording.Holds.executeAll_eq {recording : Recording} {queue : List Backlog}
    {pending : List PendingBatch} (holds : recording.Holds pipeline queue pending) (done : Nat) :
    (PendingBatch.executeAll source done pending recording).1 =
        (Backlog.reportAll pipeline recording.script recording.nextKey done queue).1 ∧
      (PendingBatch.executeAll source done pending recording).2.log = recording.log ++
        (Backlog.reportAll pipeline recording.script recording.nextKey done queue).2 := by
  induction queue generalizing done recording pending with
  | nil =>
      obtain rfl := List.forall₂_nil_left_iff.1 holds.held
      exact ⟨rfl, (List.append_nil _).symm⟩
  | cons backlog queue ih =>
      obtain ⟨batch, rest, own, later, rfl⟩ := List.forall₂_cons_left_iff.1 holds.held
      obtain ⟨fresh, others⟩ := List.nodup_cons.1 holds.apart
      obtain ⟨middle, executed, log, script, next, same⟩ := own.execute_apply
      unfold Backlog.reportAll
      cases reported : backlog.report pipeline recording.script recording.nextKey with
      | error e =>
          rw [reported] at executed
          obtain ⟨after, stopped, quiet⟩ := PendingBatch.executeAll_of_failed done rest executed
          rw [stopped, own.result]
          exact ⟨rfl, quiet.trans log⟩
      | ok result =>
          rw [reported] at executed next
          have closed := (finishStatement_apply middle batch.statement).2
          -- the other batches are on statements of their own, which this leaves alone
          have waiting : (source.finishStatement batch.statement middle).2.Holds pipeline queue rest := by
            refine of_same ⟨later, others⟩ fun other mem => ?_
            have differ : other.statement ≠ batch.statement := fun equal =>
              fresh (List.mem_map.2 ⟨other, mem, equal⟩)
            exact (closed.others _ differ).trans (same _ differ)
          obtain ⟨results, logged⟩ := ih waiting (done + 1)
          rw [closed.script, script, closed.nextKey, next rfl] at results logged
          rw [closed.log, log, List.append_assoc] at logged
          rw [PendingBatch.executeAll_of_executed done rest executed]
          exact ⟨congrArg (Except.map (result :: ·)) results, logged⟩

end MappedSql
