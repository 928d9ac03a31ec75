import MappedSql.Database.Recording

namespace MappedSql

theorem getElem?_placeParameter {α : Type} (blank : α) (parameters : List α) {position : Nat}
    (value : α) (counted : 0 < position) (i : Nat) :
    (placeParameter blank parameters position value)[i]? =
      if i + 1 = position then some value
      else if i < position then some (parameters[i]?.getD blank) else parameters[i]? := by
  unfold placeParameter
  rw [List.getElem?_set]
  by_cases here : i + 1 = position
  · subst here
    simp
    omega
  · rw [if_neg (by omega), if_neg here]
    by_cases inside : i < parameters.length
    · rw [List.getElem?_append_left inside, List.getElem?_eq_getElem inside]
      simp
    · rw [List.getElem?_append_right (by omega), List.getElem?_replicate,
        List.getElem?_eq_none (by omega)]
      split <;> split <;> first | rfl | omega

def placeAll (parameters : List Value) (values : List (Nat × Value)) : List Value :=
  values.foldl (fun parameters entry => placeParameter .null parameters entry.1 entry.2) parameters

theorem placeAll_append (parameters : List Value) (values more : List (Nat × Value)) :
    placeAll parameters (values ++ more) = placeAll (placeAll parameters values) more :=
  List.foldl_append

theorem placeParameter_twice (parameters : List Value) {position : Nat} (value other : Value)
    (counted : 0 < position) :
    placeParameter .null (placeParameter .null parameters position other) position value =
      placeParameter .null parameters position value := by
  apply List.ext_getElem?
  intro i
  simp only [getElem?_placeParameter _ _ _ counted]
  split
  · rfl
  · split <;> simp

theorem placeParameter_comm (parameters : List Value) {position position' : Nat}
    (value value' : Value) (counted : 0 < position) (counted' : 0 < position')
    (differ : position ≠ position') :
    placeParameter .null (placeParameter .null parameters position value) position' value' =
      placeParameter .null (placeParameter .null parameters position' value') position value := by
  apply List.ext_getElem?
  intro i
  simp only [getElem?_placeParameter _ _ _ counted, getElem?_placeParameter _ _ _ counted']
  by_cases here : i + 1 = position
  · have elsewhere : i + 1 ≠ position' := fun same => differ (here.symm.trans same)
    simp only [if_pos here, if_neg elsewhere, Option.getD_some, ite_self]
  · simp only [if_neg here]
    by_cases there : i + 1 = position'
    · simp only [if_pos there, Option.getD_some, ite_self]
    · simp only [if_neg there]
      split <;> split <;> simp

theorem placeAll_of_mem (parameters : List Value) {position : Nat} (value : Value)
    {values : List (Nat × Value)} (counted : ∀ other ∈ values.map Prod.fst, 0 < other)
    (mem : position ∈ values.map Prod.fst) :
    placeAll (placeParameter .null parameters position value) values = placeAll parameters values := by
  induction values generalizing parameters with
  | nil => cases mem
  | cons entry rest ih =>
      rw [List.map_cons, List.forall_mem_cons] at counted
      obtain ⟨first, counted⟩ := counted
      by_cases same : position = entry.1
      · subst same
        exact congrArg (placeAll · rest) (placeParameter_twice parameters entry.2 value first)
      · have later : position ∈ rest.map Prod.fst := by
          simpa [same] using mem
        have swapped := placeParameter_comm parameters value entry.2 (counted position later) first same
        calc placeAll (placeParameter .null parameters position value) (entry :: rest)
            = placeAll (placeParameter .null (placeParameter .null parameters entry.1 entry.2)
                position value) rest := congrArg (placeAll · rest) swapped
          _ = placeAll parameters (entry :: rest) := ih _ counted later

theorem placeAll_of_covered (parameters : List Value) {before values : List (Nat × Value)}
    (counted : ∀ other ∈ values.map Prod.fst, 0 < other)
    (covered : ∀ entry ∈ before, entry.1 ∈ values.map Prod.fst) :
    placeAll (placeAll parameters before) values = placeAll parameters values := by
  induction before generalizing parameters with
  | nil => rfl
  | cons entry rest ih =>
      rw [List.forall_mem_cons] at covered
      exact (ih _ covered.2).trans (placeAll_of_mem parameters entry.2 counted covered.1)

namespace Recording

def alter (recording : Recording) (id : StatementId)
    (change : RecordedStatement → RecordedStatement) : Recording :=
  { recording with statements := recording.statements.modify id change }

def IsOpen (recording : Recording) (id : StatementId) : Prop :=
  (recording.statement id).closed = false

section

variable {recording : Recording} {id other : StatementId}

theorem IsOpen.lt (isOpen : recording.IsOpen id) : id < recording.statements.length := by
  apply Nat.lt_of_not_le
  intro beyond
  simp [IsOpen, statement, List.getElem?_eq_none beyond] at isOpen

theorem statement_alter_self (inside : id < recording.statements.length)
    (change : RecordedStatement → RecordedStatement) :
    (recording.alter id change).statement id = change (recording.statement id) := by
  simp [alter, statement, List.getElem?_eq_getElem inside]

theorem statement_alter_of_ne (differ : other ≠ id)
    (change : RecordedStatement → RecordedStatement) :
    (recording.alter id change).statement other = recording.statement other := by
  simp [alter, statement, differ.symm]

theorem alter_alter (recording : Recording) (id : StatementId)
    (change next : RecordedStatement → RecordedStatement) :
    (recording.alter id change).alter id next = recording.alter id (next ∘ change) := by
  simp only [alter, List.modify_modify_eq]

end

structure Executed (id : StatementId) (generated : Nat) (before after : Recording) : Prop where
  script : after.script = before.script
  log : after.log =
    before.log ++ [⟨(before.statement id).sql, (before.statement id).parameters⟩]
  nextKey : after.nextKey = before.nextKey + generated
  connections : after.connections = before.connections
  statements : ∃ keys, after.statements =
    (before.alter id fun statement => { statement with keys := keys }).statements

def keysFrom (next count : Nat) : List Value :=
  (List.range' next count).map fun key => .int (Int64.ofNat key)

namespace Executed

variable {id : StatementId} {generated : Nat} {before after : Recording}

theorem statement (executed : Executed id generated before after)
    (inside : id < before.statements.length) :
    ∃ keys, after.statement id = { before.statement id with keys := keys } := by
  obtain ⟨keys, same⟩ := executed.statements
  refine ⟨keys, ?_⟩
  rw [← statement_alter_self inside fun statement => { statement with keys := keys },
    Recording.statement, Recording.statement, same]

theorem others (executed : Executed id generated before after) (other : StatementId)
    (differ : other ≠ id) : after.statement other = before.statement other := by
  obtain ⟨keys, same⟩ := executed.statements
  have kept := @statement_alter_of_ne before id other differ fun statement =>
    { statement with keys := keys }
  rw [← kept, Recording.statement, Recording.statement, same]

theorem length (executed : Executed id generated before after) :
    after.statements.length = before.statements.length := by
  obtain ⟨keys, same⟩ := executed.statements
  rw [same]
  exact List.length_modify _ _ _

theorem withKeys (executed : Executed id generated before after) (keys : List Value) :
    Executed id generated before (after.alter id fun statement => { statement with keys := keys }) := by
  obtain ⟨first, same⟩ := executed.statements
  refine ⟨executed.script, executed.log, executed.nextKey, executed.connections, keys, ?_⟩
  unfold alter at same ⊢
  rw [same]
  exact List.modify_modify_eq _ _ _ _

end Executed

variable {recording : Recording} {id : StatementId}

theorem openStatement_apply (isOpen : recording.IsOpen id) :
    openStatement id recording = (.ok (recording.statement id), recording) := by
  have closed : (recording.statement id).closed = false := isOpen
  unfold openStatement
  rw [Action.bind_apply, Action.read]
  dsimp only
  rw [closed]
  rfl

theorem setParameter_apply (isOpen : recording.IsOpen id) {position : Nat} (counted : 0 < position)
    (value : Value) :
    setParameter id position value recording =
      (.ok (), recording.alter id fun statement =>
        { statement with parameters := placeAll statement.parameters [(position, value)] }) := by
  unfold setParameter
  rw [Action.bind_apply, openStatement_apply isOpen]
  dsimp only
  rw [if_neg (by omega)]
  rfl

theorem registerOutput_apply (callable : (recording.statement id).options.callable = true)
    (position : Nat) (type : Option DbType) :
    registerOutput id position type recording =
      (.ok (), recording.alter id fun statement =>
        { statement with registered := position :: statement.registered }) := by
  unfold registerOutput
  rw [Action.bind_apply, Action.read]
  dsimp only
  rw [callable]
  rfl

theorem output_apply {position : Nat} (registered : position ∈ (recording.statement id).registered) :
    output id position recording = (.ok (recording.script.output position), recording) := by
  unfold output
  rw [Action.bind_apply, Action.get_apply]
  dsimp only
  rw [List.contains_iff_mem.2 registered]
  rfl

theorem addBatch_apply (isOpen : recording.IsOpen id) :
    addBatch id recording =
      (.ok (), recording.alter id fun statement =>
        { statement with batch := statement.batch ++ [statement.parameters], parameters := [] }) := by
  unfold addBatch
  rw [Action.bind_apply, openStatement_apply isOpen]
  rfl

theorem update_of_refused (isOpen : recording.IsOpen id) {e : Error}
    (refused : recording.script.check (recording.statement id).sql = .error e) :
    update id recording = (.error e, recording) := by
  unfold update
  rw [Action.bind_apply, openStatement_apply isOpen]
  dsimp only
  rw [Action.bind_apply, Action.read]
  dsimp only
  rw [refused]
  rfl

theorem update_of_checked (isOpen : recording.IsOpen id)
    (checked : recording.script.check (recording.statement id).sql = .ok ()) :
    ∃ after, update id recording = (.ok recording.script.updateCount, after) ∧
      recording.Executed id (if (recording.statement id).options.returnKeys then 1 else 0) after ∧
      after.rowSources = recording.rowSources ∧
      (after.statement id).keys = keysFrom recording.nextKey
        (if (recording.statement id).options.returnKeys then 1 else 0) := by
  unfold update
  rw [Action.bind_apply, openStatement_apply isOpen]
  dsimp only
  rw [Action.bind_apply, Action.read]
  dsimp only
  rw [checked]
  cases returnKeys : (recording.statement id).options.returnKeys with
  | false =>
      refine ⟨_, rfl, ⟨rfl, rfl, rfl, rfl, _, rfl⟩, rfl, ?_⟩
      exact congrArg RecordedStatement.keys (statement_alter_self isOpen.lt _)
  | true =>
      refine ⟨_, rfl, ⟨rfl, rfl, rfl, rfl, _, rfl⟩, rfl, ?_⟩
      exact congrArg RecordedStatement.keys (statement_alter_self isOpen.lt _)

theorem alter_keys (isOpen : recording.IsOpen id) :
    (recording.alter id fun statement =>
      { statement with keys := (recording.statement id).keys }).statements =
      recording.statements := by
  have found : recording.statements[id]? = some (recording.statement id) := by
    simp [statement, List.getElem?_eq_getElem isOpen.lt]
  apply List.ext_getElem?
  intro i
  by_cases same : i = id
  · subst same
    simp [alter, found]
  · simp [alter, Ne.symm same]

theorem answer_of_refused (isOpen : recording.IsOpen id) {e : Error}
    (refused : recording.script.check (recording.statement id).sql = .error e) :
    answer id recording = (.error e, recording) := by
  unfold answer
  rw [Action.bind_apply, openStatement_apply isOpen]
  dsimp only
  rw [Action.bind_apply, Action.read]
  dsimp only
  rw [refused]
  rfl

theorem answer_of_checked (isOpen : recording.IsOpen id)
    (checked : recording.script.check (recording.statement id).sql = .ok ()) :
    ∃ after, answer id recording =
        (.ok (recording.script.rowsFor (recording.statement id).sql), after) ∧
      recording.Executed id 0 after ∧ after.rowSources = recording.rowSources := by
  unfold answer
  rw [Action.bind_apply, openStatement_apply isOpen]
  dsimp only
  rw [Action.bind_apply, Action.read]
  dsimp only
  rw [checked]
  exact ⟨_, rfl, ⟨rfl, rfl, rfl, rfl, _, (alter_keys isOpen).symm⟩, rfl⟩

theorem query_of_refused (isOpen : recording.IsOpen id) {e : Error}
    (refused : recording.script.check (recording.statement id).sql = .error e) :
    query id recording = (.error e, recording) := by
  unfold query
  rw [Action.bind_apply, answer_of_refused isOpen refused]

def rowsOf (script : Script) (sql : String) : ResultSet :=
  { rows := (script.rowsFor sql).2.map fun values => ⟨(script.rowsFor sql).1, values⟩
    columns := some (script.rowsFor sql).1 }

theorem query_of_checked (isOpen : recording.IsOpen id)
    (checked : recording.script.check (recording.statement id).sql = .ok ()) :
    ∃ after, query id recording =
        (.ok (rowsOf recording.script (recording.statement id).sql), after) ∧
      recording.Executed id 0 after ∧ after.rowSources = recording.rowSources := by
  obtain ⟨middle, answered, executed, same⟩ := answer_of_checked isOpen checked
  unfold query
  rw [Action.bind_apply, answered]
  exact ⟨_, rfl, ⟨executed.script, executed.log, executed.nextKey, executed.connections,
    executed.statements⟩, same⟩

theorem openRows_of_refused (isOpen : recording.IsOpen id) {e : Error}
    (refused : recording.script.check (recording.statement id).sql = .error e) :
    openRows id recording = (.error e, recording) := by
  unfold openRows
  rw [Action.bind_apply, answer_of_refused isOpen refused]

theorem openRows_of_checked (isOpen : recording.IsOpen id)
    (checked : recording.script.check (recording.statement id).sql = .ok ()) :
    ∃ after, openRows id recording = (.ok recording.rowSources.length, after) ∧
      recording.Executed id 0 after ∧
      after.rowSources = recording.rowSources ++
        [⟨(recording.script.rowsFor (recording.statement id).sql).1,
          (recording.script.rowsFor (recording.statement id).sql).2, false⟩] := by
  obtain ⟨middle, answered, executed, same⟩ := answer_of_checked isOpen checked
  unfold openRows
  rw [Action.bind_apply, answered, ← same]
  exact ⟨_, rfl, ⟨executed.script, executed.log, executed.nextKey, executed.connections,
    executed.statements⟩, rfl⟩

theorem generatedKeys_apply (recording : Recording) (id : StatementId) :
    generatedKeys id recording =
      (.ok (recording.statement id).keys,
        recording.alter id fun statement => { statement with keys := [] }) :=
  rfl

theorem keysFrom_succ (next count : Nat) :
    keysFrom next (count + 1) = .int (Int64.ofNat next) :: keysFrom (next + 1) count :=
  rfl

theorem keysFrom_add (next first second : Nat) :
    keysFrom next (first + second) = keysFrom next first ++ keysFrom (next + first) second := by
  rw [keysFrom, keysFrom, keysFrom, ← List.map_append]
  exact congrArg _ List.range'_append_1.symm

@[simp] theorem length_keysFrom (next count : Nat) : (keysFrom next count).length = count := by
  simp [keysFrom]

theorem runEntries_apply (sql : String) (returnKeys : Bool) (entries : List (List Value))
    (recording : Recording) :
    runEntries sql returnKeys entries recording =
      (.ok (keysFrom recording.nextKey (if returnKeys then entries.length else 0)),
        { recording with
          log := recording.log ++ entries.map fun parameters => ⟨sql, parameters⟩
          nextKey := recording.nextKey + if returnKeys then entries.length else 0 }) := by
  induction entries generalizing recording with
  | nil => cases returnKeys <;> simp [runEntries, keysFrom, Action.pure_apply]
  | cons parameters rest ih =>
      have recorded : record sql parameters recording =
          (.ok (), { recording with log := recording.log ++ [⟨sql, parameters⟩] }) := rfl
      have taken (state : Recording) : takeKey state =
          (.ok (.int (Int64.ofNat state.nextKey)), { state with nextKey := state.nextKey + 1 }) := rfl
      unfold runEntries
      rw [Action.bind_apply, recorded]
      dsimp only
      cases returnKeys with
      | false =>
          simp only [Bool.false_eq_true, if_false, Action.bind_apply, Action.pure_apply] at ih ⊢
          rw [ih]
          simp
      | true =>
          simp only [if_true, Action.bind_apply, Action.pure_apply, taken] at ih ⊢
          rw [ih]
          simp only [List.length_cons, keysFrom_succ, List.append_assoc, List.cons_append,
            List.nil_append, List.map_cons, Nat.add_assoc, Nat.add_comm 1]

structure BatchExecuted (id : StatementId) (generated : Nat) (before after : Recording) : Prop where
  script : after.script = before.script
  log : after.log = before.log ++ (before.statement id).batch.map fun parameters =>
    ⟨(before.statement id).sql, parameters⟩
  nextKey : after.nextKey = before.nextKey + generated
  connections : after.connections = before.connections
  rowSources : after.rowSources = before.rowSources
  length : after.statements.length = before.statements.length
  others : ∀ other, other ≠ id → after.statement other = before.statement other

theorem BatchExecuted.withKeys {generated : Nat} {before after : Recording}
    (executed : BatchExecuted id generated before after) (keys : List Value) :
    BatchExecuted id generated before
      (after.alter id fun statement => { statement with keys := keys }) where
  script := executed.script
  log := executed.log
  nextKey := executed.nextKey
  connections := executed.connections
  rowSources := executed.rowSources
  length := (List.length_modify _ _ _).trans executed.length
  others := fun other differ =>
    (statement_alter_of_ne differ _).trans (executed.others other differ)

theorem executeBatch_of_refused (isOpen : recording.IsOpen id) {e : Error}
    (refused : recording.script.check (recording.statement id).sql = .error e) :
    executeBatch id recording = (.error e, recording) := by
  unfold executeBatch
  rw [Action.bind_apply, openStatement_apply isOpen]
  dsimp only
  rw [Action.bind_apply, Action.read]
  dsimp only
  rw [refused]
  rfl

theorem executeBatch_apply (isOpen : recording.IsOpen id)
    (checked : recording.script.check (recording.statement id).sql = .ok ()) {generated : Nat}
    (asked : generated =
      if (recording.statement id).options.returnKeys then (recording.statement id).batch.length else 0) :
    ∃ after, executeBatch id recording =
        (.ok (List.replicate (recording.statement id).batch.length recording.script.updateCount),
          after) ∧
      recording.BatchExecuted id generated after ∧
      (after.statement id).keys = keysFrom recording.nextKey generated := by
  subst asked
  unfold executeBatch
  rw [Action.bind_apply, openStatement_apply isOpen]
  dsimp only
  rw [Action.bind_apply, Action.read]
  dsimp only
  rw [checked]
  have entries := runEntries_apply (recording.statement id).sql
    (recording.statement id).options.returnKeys (recording.statement id).batch
    { recording with counters := { recording.counters with batches := recording.counters.batches + 1 } }
  have counted : count (fun counters => { counters with batches := counters.batches + 1 }) recording =
      (.ok (), { recording with
        counters := { recording.counters with batches := recording.counters.batches + 1 } }) := rfl
  have passed : (liftM (Except.ok () : Except Error Unit) : Action Recording Unit) recording =
      (.ok (), recording) := rfl
  rw [Action.bind_apply, passed]
  dsimp only
  rw [Action.bind_apply, counted]
  dsimp only
  rw [Action.bind_apply, entries]
  refine ⟨_, rfl, ⟨rfl, rfl, rfl, rfl, rfl, List.length_modify _ _ _, fun other differ => ?_⟩, ?_⟩
  · exact statement_alter_of_ne differ _
  · exact congrArg RecordedStatement.keys (statement_alter_self isOpen.lt _)

structure Closed (id : StatementId) (before after : Recording) : Prop where
  script : after.script = before.script
  log : after.log = before.log
  nextKey : after.nextKey = before.nextKey
  connections : after.connections = before.connections
  rowSources : after.rowSources = before.rowSources
  length : after.statements.length = before.statements.length
  others : ∀ other, other ≠ id → after.statement other = before.statement other

theorem closeStatement_apply (recording : Recording) (id : StatementId) :
    (closeStatement id recording).1 = .ok () ∧
      recording.Closed id (closeStatement id recording).2 := by
  unfold closeStatement
  rw [Action.bind_apply, Action.get_apply]
  dsimp only
  cases (recording.statement id).closed with
  | true => exact ⟨rfl, rfl, rfl, rfl, rfl, rfl, rfl, fun _ _ => rfl⟩
  | false =>
      refine ⟨rfl, rfl, rfl, rfl, rfl, rfl, List.length_modify _ _ _, fun other differ => ?_⟩
      exact statement_alter_of_ne differ _

theorem finishStatement_apply (recording : Recording) (id : StatementId) :
    (source.finishStatement id recording).1 = .ok () ∧
      recording.Closed id (source.finishStatement id recording).2 := by
  obtain ⟨done, closed⟩ := closeStatement_apply recording id
  have finish : source.finishStatement id recording = closeStatement id recording := by
    unfold DataSource.finishStatement
    rw [Action.bind_apply]
    rfl
  rw [finish]
  exact ⟨done, closed⟩

def closing (c : ConnectionId) (recording : Recording) : List RecordedConnection :=
  if recording.isConnectionClosed c then recording.connections
  else recording.connections.modify c ({ · with closed := true })

theorem closeConnection_apply (recording : Recording) (c : ConnectionId) :
    ∃ counters, closeConnection c recording =
      (.ok (), { recording with counters := counters, connections := recording.closing c }) := by
  unfold closeConnection closing
  rw [Action.bind_apply, Action.get_apply]
  dsimp only
  cases recording.isConnectionClosed c with
  | true => exact ⟨recording.counters, rfl⟩
  | false => exact ⟨_, rfl⟩

end Recording

end MappedSql
