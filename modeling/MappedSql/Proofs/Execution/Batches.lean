import MappedSql.Proofs.Execution.Prepared
import MappedSql.Proofs.Outcome

namespace MappedSql

open Recording (keysFrom)

theorem zip_replicate {α β : Type} (as : List α) (b : β) :
    as.zip (List.replicate as.length b) = as.map (·, b) := by
  induction as with
  | nil => rfl
  | cons a as ih => simp [List.replicate_succ, ih]

theorem KeyGenerator.assignKeys_of_disabled {generator : KeyGenerator}
    (disabled : generator.isEnabled = false) (parameter : Value) (keys : List Value) :
    generator.assignKeys parameter keys = (parameter, .ok ()) := by
  have none : generator.property = none := by
    simpa [isEnabled] using disabled
  unfold assignKeys
  rw [none]

namespace PendingBatch

theorem assignKeys_of_disabled {generator : KeyGenerator} (disabled : generator.isEnabled = false)
    (parameters keys : List Value) : assignKeys generator parameters keys = .ok parameters := by
  induction parameters generalizing keys with
  | nil => cases keys <;> rfl
  | cons parameter rest ih =>
      cases keys with
      | nil => rfl
      | cons key keys =>
          rw [assignKeys, KeyGenerator.assignKeys_of_disabled disabled, ih keys]
          rfl

theorem assignKeys_cons {generator : KeyGenerator} {parameter key : Value}
    {parameters keys written : List Value} :
    assignKeys generator (parameter :: parameters) (key :: keys) = .ok written ↔
      ∃ first rest, generator.assignKeys parameter [key] = (first, .ok ()) ∧
        assignKeys generator parameters keys = .ok rest ∧ written = first :: rest := by
  rw [assignKeys]
  rcases generator.assignKeys parameter [key] with ⟨first, e | u⟩
  · simp [bind_eq_ok]
  · simp only [bind_eq_ok, pure_eq_ok]
    constructor
    · rintro ⟨-, -, rest, later, rfl⟩
      exact ⟨first, rest, rfl, later, rfl⟩
    · rintro ⟨_, rest, same, later, rfl⟩
      obtain rfl := congrArg Prod.fst same
      exact ⟨u, trivial, rest, later, rfl⟩

theorem length_of_assignKeys {generator : KeyGenerator} {parameters keys written : List Value}
    (assigned : assignKeys generator parameters keys = .ok written) :
    written.length = parameters.length := by
  induction parameters generalizing keys written with
  | nil =>
      obtain rfl : [] = written := by cases keys <;> exact Except.ok.inj assigned
      rfl
  | cons parameter rest ih =>
      cases keys with
      | nil =>
          obtain rfl := Except.ok.inj assigned
          rfl
      | cons key keys =>
          obtain ⟨first, others, -, later, rfl⟩ := assignKeys_cons.1 assigned
          rw [List.length_cons, List.length_cons, ih later]

theorem assignKeys_append {generator : KeyGenerator} {parameters keys written : List Value}
    {parameter key after : Value} (assigned : assignKeys generator parameters keys = .ok written)
    (enough : keys.length = parameters.length)
    (last : generator.assignKeys parameter [key] = (after, .ok ())) :
    assignKeys generator (parameters ++ [parameter]) (keys ++ [key]) = .ok (written ++ [after]) := by
  induction parameters generalizing keys written with
  | nil =>
      obtain rfl : keys = [] := List.eq_nil_of_length_eq_zero enough
      obtain rfl : [] = written := Except.ok.inj assigned
      exact assignKeys_cons.2 ⟨after, [], last, rfl, rfl⟩
  | cons first rest ih =>
      obtain ⟨key', keys, rfl⟩ := List.exists_cons_of_length_eq_add_one enough
      obtain ⟨written', others, begun, later, rfl⟩ := assignKeys_cons.1 assigned
      exact assignKeys_cons.2 ⟨written', others ++ [after], begun,
        ih later (Nat.succ.inj enough), rfl⟩

def generated (batch : PendingBatch) : Nat :=
  if batch.keys.isEnabled then batch.result.parameters.length else 0

theorem generated_addParameter (batch : PendingBatch) (parameter : Value) :
    (batch.addParameter parameter).generated =
      batch.generated + if batch.keys.isEnabled then 1 else 0 := by
  unfold generated addParameter
  cases batch.keys.isEnabled <;> simp

def entries (batch : PendingBatch) (recording : Recording) : List Execution :=
  (recording.statement batch.statement).batch.map fun parameters =>
    ⟨(recording.statement batch.statement).sql, parameters⟩

structure Ready (recording : Recording) (next : Nat) (batch : PendingBatch) (written : List Value) :
    Prop where
  isOpen : recording.IsOpen batch.statement
  checked : recording.script.check (recording.statement batch.statement).sql = .ok ()
  returnKeys : (recording.statement batch.statement).options.returnKeys = batch.keys.isEnabled
  emptied : (recording.statement batch.statement).parameters = []
  queued : (recording.statement batch.statement).batch.length = batch.result.parameters.length
  some : batch.result.parameters ≠ []
  written : assignKeys batch.keys batch.result.parameters
    (keysFrom next batch.result.parameters.length) = .ok written

end PendingBatch

namespace BatchResult

def pairs (result : BatchResult) : List (Value × Nat) :=
  result.parameters.zip result.counts

def Complete (result : BatchResult) : Prop :=
  result.counts.length = result.parameters.length

end BatchResult

namespace PendingBatch

section

variable {batch : PendingBatch} {recording after : Recording} {next : Nat} {written : List Value}

theorem Ready.of_same (ready : batch.Ready recording next written)
    (script : after.script = recording.script)
    (same : after.statement batch.statement = recording.statement batch.statement) :
    batch.Ready after next written := by
  obtain ⟨isOpen, checked, returnKeys, emptied, queued, some, written⟩ := ready
  refine ⟨?_, ?_, ?_, ?_, ?_, some, written⟩
  · rw [Recording.IsOpen, same]
    exact isOpen
  · rw [script, same]
    exact checked
  · rw [same]
    exact returnKeys
  · rw [same]
    exact emptied
  · rw [same]
    exact queued

theorem entries_of_same (same : after.statement batch.statement = recording.statement batch.statement) :
    batch.entries after = batch.entries recording := by
  rw [entries, entries, same]

theorem Ready.execute_apply (ready : batch.Ready recording recording.nextKey written) :
    ∃ result after, execute Recording.source batch recording = (.ok result, after) ∧
      recording.BatchExecuted batch.statement batch.generated after ∧ result.Complete ∧
      result.pairs = written.map (·, recording.script.updateCount) := by
  have count : batch.generated = if (recording.statement batch.statement).options.returnKeys then
      (recording.statement batch.statement).batch.length else 0 := by
    rw [generated, ready.returnKeys, ready.queued]
  obtain ⟨after, executed, came, keys⟩ := Recording.executeBatch_apply ready.isOpen ready.checked count
  have length := length_of_assignKeys ready.written
  have counted : written.zip (List.replicate (recording.statement batch.statement).batch.length
      recording.script.updateCount) = written.map (·, recording.script.updateCount) := by
    rw [ready.queued, ← length]
    exact zip_replicate written _
  have complete : (List.replicate (recording.statement batch.statement).batch.length
      recording.script.updateCount).length = written.length := by
    rw [List.length_replicate, ready.queued, length]
  unfold execute
  rw [Action.bind_apply]
  dsimp only [Recording.source]
  rw [executed]
  dsimp only
  cases enabled : batch.keys.isEnabled with
  | false =>
      have same : batch.result.parameters = written :=
        Except.ok.inj ((assignKeys_of_disabled enabled _ _).symm.trans ready.written)
      rw [← same] at complete counted ⊢
      exact ⟨_, _, rfl, came, complete, counted⟩
  | true =>
      have all : batch.generated = batch.result.parameters.length := by
        rw [generated, enabled]
        rfl
      rw [all] at keys
      rw [if_pos rfl, Action.bind_apply, Recording.generatedKeys_apply, keys]
      dsimp only
      rw [Action.bind_apply, ready.written]
      exact ⟨_, _, rfl, came.withKeys [], complete, counted⟩

end

theorem Ready.appended {batch : PendingBatch} {recording after : Recording} {next : Nat}
    {written values : List Value} {parameter result : Value}
    (ready : batch.Ready recording next written) (script : after.script = recording.script)
    (isOpen : after.IsOpen batch.statement)
    (sql : (after.statement batch.statement).sql = (recording.statement batch.statement).sql)
    (options : (after.statement batch.statement).options =
      (recording.statement batch.statement).options)
    (emptied : (after.statement batch.statement).parameters = [])
    (queued : (after.statement batch.statement).batch =
      (recording.statement batch.statement).batch ++ [values])
    (assigned : batch.keys.assignKeys parameter (keysFrom (next + batch.generated) 1) =
      (result, .ok ())) :
    (batch.addParameter parameter).Ready after next (written ++ [result]) ∧
      (batch.addParameter parameter).entries after =
        batch.entries recording ++ [⟨(recording.statement batch.statement).sql, values⟩] := by
  refine ⟨⟨isOpen, ?_, ?_, emptied, ?_, ?_, ?_⟩, ?_⟩
  · show after.script.check (after.statement batch.statement).sql = _
    rw [script, sql]
    exact ready.checked
  · show (after.statement batch.statement).options.returnKeys = _
    rw [options]
    exact ready.returnKeys
  · show (after.statement batch.statement).batch.length = _
    rw [queued, List.length_append, ready.queued, addParameter, List.length_append]
    rfl
  · exact List.append_ne_nil_of_right_ne_nil _ (List.cons_ne_nil _ _)
  · -- without keys the batch has generated none, and the parameter stays as it is either way
    have key : batch.keys.assignKeys parameter
        (keysFrom (next + batch.result.parameters.length) 1) = (result, .ok ()) := by
      cases enabled : batch.keys.isEnabled with
      | true => rwa [generated, enabled] at assigned
      | false =>
          rw [KeyGenerator.assignKeys_of_disabled enabled] at assigned ⊢
          exact assigned
    show assignKeys batch.keys (batch.result.parameters ++ [parameter])
      (keysFrom next (batch.result.parameters ++ [parameter]).length) = _
    rw [List.length_append, List.length_singleton, Recording.keysFrom_add]
    exact assignKeys_append ready.written (Recording.length_keysFrom _ _) key
  · show (after.statement batch.statement).batch.map _ = _
    rw [queued, List.map_append]
    dsimp only [addParameter, entries]
    rw [sql]
    rfl

end PendingBatch

namespace Recording

inductive Owing (recording : Recording) :
    Nat → List PendingBatch → List Execution → List Value → Nat → Prop
  | none (next : Nat) : Owing recording next [] [] [] next
  | some {next last : Nat} {batch : PendingBatch} {rest : List PendingBatch} {log : List Execution}
      {owed written : List Value} (ready : batch.Ready recording next written)
      (later : Owing recording (next + batch.generated) rest log owed last) :
      Owing recording next (batch :: rest) (batch.entries recording ++ log) (written ++ owed) last

namespace Owing

variable {recording after : Recording} {next mid last : Nat} {batch : PendingBatch}
  {pending earlier : List PendingBatch} {log : List Execution} {owed written : List Value}

theorem of_same (owing : Owing recording next pending log owed last)
    (script : after.script = recording.script)
    (same : ∀ batch ∈ pending, after.statement batch.statement = recording.statement batch.statement) :
    Owing after next pending log owed last := by
  induction owing with
  | none next => exact .none next
  | some ready later ih =>
      rw [List.forall_mem_cons] at same
      rw [← PendingBatch.entries_of_same same.1]
      exact .some (ready.of_same script same.1) (ih same.2)

theorem snoc (owing : Owing recording next earlier log owed mid)
    (ready : batch.Ready recording mid written) :
    Owing recording next (earlier ++ [batch]) (log ++ batch.entries recording) (owed ++ written)
      (mid + batch.generated) := by
  induction owing with
  | none next =>
      have one := Owing.some ready (.none _)
      simpa using one
  | some begun later ih =>
      rw [List.append_assoc, List.append_assoc]
      exact .some begun (ih ready)

theorem exists_of_snoc (owing : Owing recording next (earlier ++ [batch]) log owed last) :
    ∃ log' owed' mid written, Owing recording next earlier log' owed' mid ∧
      batch.Ready recording mid written ∧ log = log' ++ batch.entries recording ∧
      owed = owed' ++ written ∧ last = mid + batch.generated := by
  induction earlier generalizing next log owed with
  | nil =>
      cases owing with
      | some ready later =>
          cases later with
          | none => exact ⟨[], [], next, _, .none next, ready, by simp, by simp, rfl⟩
  | cons first rest ih =>
      cases owing with
      | some ready later =>
          obtain ⟨log', owed', mid, written, begun, ready', rfl, rfl, rfl⟩ := ih later
          exact ⟨_, _, mid, written, .some ready begun, ready', (List.append_assoc _ _ _).symm,
            (List.append_assoc _ _ _).symm, rfl⟩

theorem of_nil (owing : Owing recording next [] log owed last) : log = [] ∧ owed = [] := by
  cases owing
  exact ⟨rfl, rfl⟩

theorem pending_eq_nil (owing : Owing recording next pending log owed last) (nothing : owed = []) :
    pending = [] := by
  cases owing with
  | none => rfl
  | some ready later =>
      have length := PendingBatch.length_of_assignKeys ready.written
      rw [(List.append_eq_nil_iff.1 nothing).1] at length
      exact absurd (List.length_eq_zero_iff.1 length.symm) ready.some

end Owing

structure Flushed (pending : List PendingBatch) (log : List Execution) (last : Nat)
    (before after : Recording) : Prop where
  script : after.script = before.script
  log : after.log = before.log ++ log
  nextKey : after.nextKey = last
  connections : after.connections = before.connections
  rowSources : after.rowSources = before.rowSources
  length : after.statements.length = before.statements.length

theorem executeAll_apply {recording : Recording} {pending : List PendingBatch} {log : List Execution}
    {owed : List Value} {last : Nat} (owing : recording.Owing recording.nextKey pending log owed last)
    (distinct : (pending.map PendingBatch.statement).Nodup) (done : Nat) :
    ∃ results after, PendingBatch.executeAll source done pending recording = (.ok results, after) ∧
      recording.Flushed pending log last after ∧ (∀ result ∈ results, result.Complete) ∧
      results.flatMap BatchResult.pairs = owed.map (·, recording.script.updateCount) := by
  induction pending generalizing recording log owed done with
  | nil =>
      cases owing with
      | none =>
          exact ⟨[], recording, rfl, ⟨rfl, (List.append_nil _).symm, rfl, rfl, rfl, rfl⟩,
            fun _ no => (by cases no), rfl⟩
  | cons batch rest ih =>
      cases owing with
      | @some _ _ _ _ log owed written ready later =>
          rw [List.map_cons, List.nodup_cons] at distinct
          obtain ⟨result, middle, executed, came, complete, pairs⟩ := ready.execute_apply
          obtain ⟨-, closed⟩ := finishStatement_apply middle batch.statement
          have waiting : Owing (source.finishStatement batch.statement middle).2
              (source.finishStatement batch.statement middle).2.nextKey rest log owed last := by
            rw [closed.nextKey, came.nextKey]
            refine later.of_same (closed.script.trans came.script) fun other mem => ?_
            have differ : other.statement ≠ batch.statement := fun same =>
              distinct.1 (same ▸ List.mem_map_of_mem mem)
            rw [closed.others _ differ, came.others _ differ]
          obtain ⟨results, after, ran, flushed, completes, others⟩ := ih waiting distinct.2 (done + 1)
          refine ⟨result :: results, after, ?_, ?_, ?_, ?_⟩
          · unfold PendingBatch.executeAll
            rw [Action.bind_apply, Action.attempt, executed]
            dsimp only
            rw [Action.bind_apply, Action.quietly]
            dsimp only
            rw [Action.bind_apply, ran]
            rfl
          · have entries : middle.log = recording.log ++ batch.entries recording := came.log
            exact
              { script := flushed.script.trans (closed.script.trans came.script)
                log := by rw [flushed.log, closed.log, entries, List.append_assoc]
                nextKey := flushed.nextKey
                connections := flushed.connections.trans (closed.connections.trans came.connections)
                rowSources := flushed.rowSources.trans (closed.rowSources.trans came.rowSources)
                length := flushed.length.trans (closed.length.trans came.length) }
          · exact List.forall_mem_cons.2 ⟨complete, completes⟩
          · rw [List.flatMap_cons, pairs, others, closed.script, came.script, List.map_append]

end Recording

end MappedSql
