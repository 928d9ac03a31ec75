import MappedSql.Execution.Handler
import MappedSql.Proofs.Triple
import MappedSql.Proofs.Database.Executions
import MappedSql.Proofs.Storage.Answering
import MappedSql.Storage.Source

namespace MappedSql

namespace KeyGenerator

/-- Elements with a key each in a property, as far as there are keys. -/
def Assigned (property : String) : List Value → List Value → List Value → Prop
  | item :: items, key :: keys, assigned =>
      ∃ first rest, assigned = first :: rest ∧ item.setPath property key = .ok first ∧
        Assigned property items keys rest
  | items, _, assigned => assigned = items

theorem assignEach_eq_ok {property : String} {items keys assigned : List Value}
    (went : assignEach property items keys = (assigned, .ok ())) :
    Assigned property items keys assigned := by
  induction items generalizing keys assigned with
  | nil =>
      simp only [assignEach, Prod.mk.injEq, and_true] at went
      exact went.symm
  | cons item items ih =>
      cases keys with
      | nil =>
          cases went
          exact rfl
      | cons key keys =>
          rw [assignEach] at went
          split at went
          · next first set =>
              obtain ⟨rfl, same⟩ := Prod.mk.inj went
              exact ⟨first, _, rfl, set, ih (Prod.ext rfl same)⟩
          · cases went

end KeyGenerator

namespace Storage

variable {engine : Engine Access} {storage after : Storage} {id : StatementId}

theorem lt_of_open (isOpen : (storage.statement id).closed = false) :
    id < storage.statements.length := by
  refine Nat.lt_of_not_le fun outside => ?_
  rw [statement, List.getElem?_eq_none outside] at isOpen
  cases isOpen

theorem openStatement_eq_ok {found : StoredStatement}
    (went : openStatement id storage = (.ok found, after)) :
    id < storage.statements.length ∧ found = storage.statement id ∧ after = storage := by
  rw [openStatement, Action.bind_apply, Action.read] at went
  cases closed : (storage.statement id).closed with
  | true =>
      simp only [closed] at went
      cases went
  | false =>
      simp only [closed] at went
      cases went
      exact ⟨lt_of_open closed, rfl, rfl⟩

theorem statements_ask {connection : ConnectionId} {command : Command} {result : command.Answer}
    (asked : ask engine connection command storage = (.ok result, after)) :
    after.statements = storage.statements := by
  obtain ⟨middle, -, rfl⟩ := Action.within_eq_ok.1 asked
  rfl

theorem generatedKeys_of_setKeys {keys : List Value} {done : Unit}
    (inside : id < storage.statements.length) (set : setKeys id keys storage = (.ok done, after)) :
    (generatedKeys id after).1 = .ok keys := by
  cases set
  change Except.ok ((storage.changeStatement id ({ · with keys := keys })).statement id).keys = _
  rw [statement, changeStatement, List.getElem?_modify_eq, List.getElem?_eq_getElem inside]
  rfl

/-- The key that an update leaves: what the engine says its last key is when the update is done. -/
def keyAfter (engine : Engine Access) (storage : Storage) (id : StatementId) : Value :=
  let statement := storage.statement id
  let command := Command.execute statement.sql statement.parameters statement.returnKeys
  engine.lastKey (Worker.answer engine command (storage.workplace statement.connection)).2.1

theorem generatedKeys_of_update {count : Nat} (asks : (storage.statement id).returnKeys = true)
    (updated : update engine id storage = (.ok count, after)) :
    (generatedKeys id after).1 = .ok [keyAfter engine storage id] := by
  simp only [update, Action.bind_eq_ok, Action.pure_eq_ok] at updated
  obtain ⟨found, middle, opened, ⟨count', keys⟩, asked, answered, done, last, set, rfl, rfl⟩ := updated
  obtain ⟨inside, rfl, rfl⟩ := openStatement_eq_ok opened
  have same := statements_ask answered
  obtain ⟨workplace, executed, -⟩ := Action.within_eq_ok.1 answered
  have brought := Worker.keys_of_execute executed
  rw [asks, if_pos rfl] at brought
  subst brought
  rw [generatedKeys_of_setKeys (same ▸ inside) set, keyAfter, executed]

theorem generatedKeys_of_executeBatch {counts : List Nat}
    (asks : (storage.statement id).returnKeys = true)
    (executed : executeBatch engine id storage = (.ok counts, after)) :
    ∃ keys, (generatedKeys id after).1 = .ok keys ∧ keys.length = counts.length := by
  simp only [executeBatch, Action.bind_eq_ok, Action.pure_eq_ok] at executed
  obtain ⟨found, middle, opened, done, emptied, cleared, ⟨counts', keys⟩, asked, answered, done',
    last, set, rfl, rfl⟩ := executed
  obtain ⟨inside, rfl, rfl⟩ := openStatement_eq_ok opened
  cases cleared
  have same := statements_ask answered
  obtain ⟨workplace, entered, -⟩ := Action.within_eq_ok.1 answered
  obtain ⟨counted, keyed⟩ := Worker.keys_of_executeBatch entered
  rw [asks, if_pos rfl] at keyed
  refine ⟨keys, generatedKeys_of_setKeys ?_ set, keyed.trans counted.symm⟩
  rw [same]
  exact Nat.lt_of_lt_of_eq inside (List.length_modify _ _ _).symm

end Storage

namespace Recording

variable {recording after : Recording} {id : StatementId}

theorem openStatement_eq_ok {found : RecordedStatement}
    (went : openStatement id recording = (.ok found, after)) : recording.IsOpen id := by
  rw [openStatement, Action.bind_apply, Action.read] at went
  cases closed : (recording.statement id).closed with
  | true =>
      simp only [closed] at went
      cases went
  | false => exact closed

theorem generatedKeys_of_update {count : Nat}
    (asks : (recording.statement id).options.returnKeys = true)
    (updated : update id recording = (.ok count, after)) :
    (generatedKeys id after).1 = .ok [.int (Int64.ofNat recording.nextKey)] := by
  obtain ⟨found, middle, opened, -⟩ := Action.bind_eq_ok.1 updated
  have isOpen := openStatement_eq_ok opened
  cases checked : recording.script.check (recording.statement id).sql with
  | error e =>
      rw [update_of_refused isOpen checked] at updated
      cases updated
  | ok done =>
      obtain ⟨last, same, -, -, keys⟩ := update_of_checked isOpen checked
      rw [asks, if_pos rfl] at keys
      cases same.symm.trans updated
      exact congrArg Except.ok keys

theorem generatedKeys_of_executeBatch {counts : List Nat}
    (asks : (recording.statement id).options.returnKeys = true)
    (executed : executeBatch id recording = (.ok counts, after)) :
    ∃ keys, (generatedKeys id after).1 = .ok keys ∧ keys.length = counts.length := by
  obtain ⟨found, middle, opened, -⟩ := Action.bind_eq_ok.1 executed
  have isOpen := openStatement_eq_ok opened
  cases checked : recording.script.check (recording.statement id).sql with
  | error e =>
      rw [executeBatch_of_refused isOpen checked] at executed
      cases executed
  | ok done =>
      obtain ⟨last, same, -, keys⟩ := executeBatch_apply isOpen checked rfl
      rw [asks, if_pos rfl] at keys
      cases same.symm.trans executed
      refine ⟨_, congrArg Except.ok keys, ?_⟩
      simp

end Recording

theorem Handler.assignKeys_list {σ : Type} {pipeline : Pipeline σ} {handler : Handler}
    {property : String} (named : handler.statement.keys.property = some property)
    {id : StatementId} {scene last : Scene σ} {items keys : List Value}
    (generated : (pipeline.source.generatedKeys id scene.source).1 = .ok keys)
    (list : scene.parameter = .list items) {done : Unit}
    (went : handler.assignKeys pipeline id scene = (.ok done, last)) :
    ∃ assigned, KeyGenerator.Assigned property items keys assigned ∧
      last.parameter = .list assigned := by
  rw [assignKeys, KeyGenerator.isEnabled, named] at went
  obtain ⟨keys', taken, brought, put⟩ := Action.bind_eq_ok.1 went
  obtain ⟨emptied, given, rfl⟩ := Action.within_eq_ok.1 brought
  rw [given] at generated
  obtain rfl := Except.ok.inj generated
  obtain ⟨parameter, seen, read, written⟩ := Action.bind_eq_ok.1 put
  cases read
  simp only [KeyGenerator.assignKeys, named, list] at written
  rcases ran : KeyGenerator.assignEach property items keys' with ⟨assigned, e | done'⟩
  · rw [ran] at written
    cases written
  · rw [ran] at written
    cases written
    exact ⟨assigned, KeyGenerator.assignEach_eq_ok ran, rfl⟩

/-- A data source that generates keys: a recording, or a store over any engine. -/
inductive Backend
  | recording
  | storage (engine : Storage.Engine Storage.Access)

namespace Backend

@[reducible] def State : Backend → Type
  | recording => Recording
  | storage _ => Storage

def source : (backend : Backend) → DataSource backend.State
  | recording => Recording.source
  | storage engine => Storage.sourceOver engine

def asksKeys : (backend : Backend) → backend.State → StatementId → Bool
  | recording, state, id => (state.statement id).options.returnKeys
  | storage _, state, id => (state.statement id).returnKeys

/-- The key that an update leaves: the next one in turn, or the one that the engine says was last. -/
def newKey : (backend : Backend) → backend.State → StatementId → Value
  | recording, state, _ => .int (Int64.ofNat state.nextKey)
  | storage engine, state, id => Storage.keyAfter engine state id

variable {backend : Backend} {state after : backend.State} {id : StatementId}

theorem generatedKeys_of_update (asks : backend.asksKeys state id = true) {count : Nat}
    (updated : backend.source.update id state = (.ok count, after)) :
    (backend.source.generatedKeys id after).1 = .ok [backend.newKey state id] := by
  cases backend with
  | recording => exact Recording.generatedKeys_of_update asks updated
  | storage engine => exact Storage.generatedKeys_of_update asks updated

theorem generatedKeys_of_executeBatch (asks : backend.asksKeys state id = true) {counts : List Nat}
    (executed : backend.source.executeBatch id state = (.ok counts, after)) :
    ∃ keys, (backend.source.generatedKeys id after).1 = .ok keys ∧ keys.length = counts.length := by
  cases backend with
  | recording => exact Recording.generatedKeys_of_executeBatch asks executed
  | storage engine => exact Storage.generatedKeys_of_executeBatch asks executed

variable {pipeline : Pipeline backend.State} {handler : Handler} {scene last : Scene backend.State}

/-- An update leaves one key, however many rows it changed, and of a list parameter the first element
gets it. -/
theorem executeUpdate_list (backed : pipeline.source = backend.source) {property : String}
    (named : handler.statement.keys.property = some property)
    (uncalled : handler.statement.isCallable = false)
    (asks : backend.asksKeys scene.source id = true) {items : List Value}
    (list : scene.parameter = .list items) {count : Nat}
    (ran : handler.executeUpdate pipeline id scene = (.ok count, last)) :
    ∃ updated assigned, backend.source.update id scene.source = (.ok count, updated) ∧
      (backend.source.generatedKeys id updated).1 = .ok [backend.newKey scene.source id] ∧
      KeyGenerator.Assigned property items [backend.newKey scene.source id] assigned ∧
      last.parameter = .list assigned := by
  obtain ⟨count', middle, executed, rest⟩ := Action.bind_eq_ok.1 ran
  obtain ⟨done, written, keyed, finished⟩ := Action.bind_eq_ok.1 rest
  rw [uncalled] at finished
  cases finished
  rw [backed] at executed
  obtain ⟨source, updated, rfl⟩ := Action.within_eq_ok.1 executed
  have generated := generatedKeys_of_update asks updated
  rw [← backed] at generated
  obtain ⟨assigned, each, parameter⟩ :=
    Handler.assignKeys_list named (by exact generated) (by exact list) keyed
  rw [backed] at generated
  exact ⟨source, assigned, updated, generated, each, parameter⟩

def twoRows : Recording where
  script := { updateCount := 2 }
  connections := [⟨false, false⟩]
  statements := [{ sql := "insert", options := { returnKeys := true } }]

def twoObjects : Scene Recording where
  source := twoRows
  shared := []
  executor := { strategy := .simple, transaction := { autocommit := false, connection := some 0 } }
  parameter := .list [.map [], .map []]

def recordedPipeline : Pipeline Recording where
  configuration := ⟨{}, none, .initial, {}, [], [], [], some Recording.source⟩
  source := Recording.source

def keyedInsert : Handler where
  statement := {
    id := "i", command := .insert, kind := .prepared, source := .static ⟨"insert", []⟩
    parameterType := .any, cache := none, useCache := false, flushCache := true, timeout := none
    fetchSize := none, scrolling := none, keys := ⟨some "id"⟩, mapper := .map, databaseId := none }
  bound := ⟨"insert", [], .null, [], false, none⟩
  bounds := .unbounded

theorem executeUpdate_list_twoObjects :
    keyedInsert.executeUpdate recordedPipeline 0 twoObjects =
        (.ok 2, (keyedInsert.executeUpdate recordedPipeline 0 twoObjects).2) ∧
      ∃ updated assigned, recording.source.update 0 twoRows = (.ok 2, updated) ∧
        (recording.source.generatedKeys 0 updated).1 = .ok [recording.newKey twoRows 0] ∧
        KeyGenerator.Assigned "id" [.map [], .map []] [recording.newKey twoRows 0] assigned ∧
        (keyedInsert.executeUpdate recordedPipeline 0 twoObjects).2.parameter = .list assigned := by
  have backed : recordedPipeline.source = recording.source := rfl
  have written := @executeUpdate_list recording 0 recordedPipeline keyedInsert twoObjects _ backed "id"
    rfl rfl rfl _ rfl 2 rfl
  exact ⟨rfl, written⟩

theorem exists_generatedKeys_length_ne :
    ∃ (backend : Backend) (state : backend.State) (id : StatementId) (after : backend.State)
        (count : Nat) (keys : List Value),
      backend.asksKeys state id = true ∧
        backend.source.update id state = (.ok count, after) ∧
        (backend.source.generatedKeys id after).1 = .ok keys ∧ keys.length ≠ count :=
  ⟨recording, twoRows, 0, _, 2, [.int 1], rfl, rfl, rfl, by decide⟩

end Backend

end MappedSql
