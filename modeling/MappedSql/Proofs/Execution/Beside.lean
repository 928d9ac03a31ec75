import MappedSql.Proofs.Execution.Lockstep

namespace MappedSql

open MappedSql.Action (Tracks)
open Scene (Twins)
open Recording (Executed Closed)

variable {pipeline : Pipeline Recording} {admits : Handler → Prop}

/-- Invocations of the same SQL place values at the same positions, and agree on keys and on being
callable. -/
def Handler.Agrees (handler other : Handler) : Prop :=
  handler.bound.sql = other.bound.sql →
    handler.positions = other.positions ∧
    handler.statement.keys.isEnabled = other.statement.keys.isEnabled ∧
    handler.statement.isCallable = other.statement.isCallable

instance (handler other : Handler) : Decidable (handler.Agrees other) := by
  unfold Handler.Agrees
  infer_instance

def Steady (admits : Handler → Prop) : Prop :=
  ∀ handler other, admits handler → admits other → handler.Agrees other

namespace Handler

structure Keeps (pipeline : Pipeline Recording) (handler : Handler)
    (statement : RecordedStatement) : Prop where
  isOpen : statement.closed = false
  sql : statement.sql = handler.preparedSql pipeline
  returnKeys : statement.options.returnKeys = handler.statement.keys.isEnabled
  callable : statement.options.callable = handler.statement.isCallable
  placed : ∃ before, statement.parameters = placeAll [] before ∧
    ∀ entry ∈ before, entry.1 ∈ handler.positions

variable {handler other : Handler} {statement : RecordedStatement}

theorem keeps_fresh (timeout : Option Nat) :
    handler.Keeps pipeline (handler.fresh pipeline timeout) :=
  ⟨rfl, rfl, rfl, rfl, [], rfl, fun _ no => by cases no⟩

theorem Keeps.of_agrees (keeps : handler.Keeps pipeline statement) (agrees : handler.Agrees other)
    (same : handler.bound.sql = other.bound.sql) : other.Keeps pipeline statement := by
  obtain ⟨positions, keys, callable⟩ := agrees same
  refine ⟨keeps.isOpen, ?_, keeps.returnKeys.trans keys, keeps.callable.trans callable, ?_⟩
  · rw [keeps.sql, preparedSql, preparedSql, same]
  · rw [← positions]
    exact keeps.placed

theorem Keeps.withKeys (keeps : handler.Keeps pipeline statement) (keys : List Value) :
    handler.Keeps pipeline { statement with keys := keys } :=
  ⟨keeps.isOpen, keeps.sql, keeps.returnKeys, keeps.callable, keeps.placed⟩

theorem Keeps.fill (keeps : handler.Keeps pipeline statement) {filling : Filling}
    (within : ∀ entry ∈ filling.placed, entry.1 ∈ handler.positions) :
    handler.Keeps pipeline (filling.fill statement) := by
  obtain ⟨before, parameters, covered⟩ := keeps.placed
  refine ⟨keeps.isOpen, keeps.sql, keeps.returnKeys, keeps.callable, before ++ filling.placed, ?_, ?_⟩
  · rw [placeAll_append, ← parameters]
    rfl
  · intro entry mem
    rcases List.mem_append.1 mem with early | late
    · exact covered entry early
    · exact within entry late

theorem positions_pos (handler : Handler) : ∀ position ∈ handler.positions, 0 < position := by
  unfold positions
  cases handler.statement.kind with
  | plain => exact fun _ no => by cases no
  | prepared => exact fun position mem => BoundSql.lt_of_sentFrom position mem
  | callable => exact fun position mem => BoundSql.lt_of_sentFrom position mem

theorem Keeps.parameters_fill (keeps : handler.Keeps pipeline statement) {filling : Filling}
    (places : filling.placed.map Prod.fst = handler.positions) :
    (filling.fill statement).parameters = placeAll [] filling.placed := by
  obtain ⟨before, parameters, covered⟩ := keeps.placed
  show placeAll statement.parameters filling.placed = _
  rw [parameters]
  apply placeAll_of_covered
  · rw [places]
    exact handler.positions_pos
  · rw [places]
    exact covered

end Handler

structure Recording.Even (s t : Recording) : Prop where
  script : s.script = t.script
  log : s.log = t.log
  nextKey : s.nextKey = t.nextKey
  connections : s.connections = t.connections
  rowSources : s.rowSources = t.rowSources

/-- Recordings that tell the same, with statements that are held in the one: those are open and fit
their SQL. -/
structure Abreast (pipeline : Pipeline Recording) (admits : Handler → Prop)
    (apart : List StatementId) (held : List (String × StatementId)) (transaction : Transaction)
    (s t : Recording) : Prop where
  even : s.Even t
  kept : ∀ entry ∈ held, ∃ handler, admits handler ∧ handler.bound.sql = entry.1 ∧
    handler.Keeps pipeline (s.statement entry.2)
  distinct : (held.map Prod.snd).Nodup
  foreign : ∀ id ∈ apart, id < s.statements.length ∧ id ∉ held.map Prod.snd
  connected : held ≠ [] → transaction.Connected s.connections

def Kin.abreast (pipeline : Pipeline Recording) (admits : Handler → Prop) (way : Strategy)
    (held : List (String × StatementId)) : Kin :=
  fun apart _ strategy transaction s t =>
    strategy = way ∧ Abreast pipeline admits apart held transaction s t

namespace Abreast

variable {apart : List StatementId} {held : List (String × StatementId)} {transaction : Transaction}
  {s t s' t' : Recording}

theorem refl (recording : Recording) (transaction : Transaction) :
    Abreast pipeline admits [] [] transaction recording recording where
  even := ⟨rfl, rfl, rfl, rfl, rfl⟩
  kept := fun _ no => by cases no
  distinct := .nil
  foreign := fun _ no => by cases no
  connected := fun some => absurd rfl some

theorem moved (abreast : Abreast pipeline admits apart held transaction s t) (even : s'.Even t')
    (connections : s'.connections = s.connections)
    (length : s.statements.length ≤ s'.statements.length)
    (same : ∀ entry ∈ held, ∀ handler : Handler, handler.Keeps pipeline (s.statement entry.2) →
      handler.Keeps pipeline (s'.statement entry.2)) :
    Abreast pipeline admits apart held transaction s' t' where
  even := even
  kept := fun entry mem => by
    obtain ⟨handler, admitted, sql, keeps⟩ := abreast.kept entry mem
    exact ⟨handler, admitted, sql, same entry mem handler keeps⟩
  distinct := abreast.distinct
  foreign := fun id mem => ⟨Nat.lt_of_lt_of_le (abreast.foreign id mem).1 length,
    (abreast.foreign id mem).2⟩
  connected := fun some => connections ▸ abreast.connected some

theorem isOpen (abreast : Abreast pipeline admits apart held transaction s t)
    {entry : String × StatementId} (mem : entry ∈ held) : s.IsOpen entry.2 := by
  obtain ⟨handler, -, -, keeps⟩ := abreast.kept entry mem
  exact keeps.isOpen

theorem drifts (abreast : Abreast pipeline admits apart held transaction s t)
    (own : s.Drifts (· ∉ held.map Prod.snd) s') (other : t.Drifts (fun _ => True) t')
    (rows : s'.rowSources = t'.rowSources) :
    Abreast pipeline admits apart held transaction s' t' := by
  have even := abreast.even
  refine abreast.moved ⟨?_, ?_, ?_, ?_, rows⟩ own.connections (Nat.le_of_eq own.length.symm) ?_
  · rw [own.script, other.script, even.script]
  · rw [own.log, other.log, even.log]
  · rw [own.nextKey, other.nextKey, even.nextKey]
  · rw [own.connections, other.connections, even.connections]
  · intro entry mem handler keeps
    rwa [own.others entry.2 fun foreign => foreign (List.mem_map_of_mem mem)]

theorem drifts_apart (abreast : Abreast pipeline admits apart held transaction s t)
    (own : s.Drifts (· ∈ apart) s') (other : t.Drifts (fun _ => True) t')
    (rows : s'.rowSources = t'.rowSources) :
    Abreast pipeline admits apart held transaction s' t' :=
  abreast.drifts (own.mono fun id mine => (abreast.foreign id mine).2) other rows

theorem executed (abreast : Abreast pipeline admits apart held transaction s t) {l r : StatementId}
    {generated : Nat} (inside : l < s.statements.length) (left : s.Executed l generated s')
    (right : t.Executed r generated t') (sql : (s.statement l).sql = (t.statement r).sql)
    (parameters : (s.statement l).parameters = (t.statement r).parameters)
    (rows : s'.rowSources = t'.rowSources) :
    Abreast pipeline admits apart held transaction s' t' := by
  have even := abreast.even
  refine abreast.moved ⟨?_, ?_, ?_, ?_, rows⟩ left.connections (Nat.le_of_eq left.length.symm) ?_
  · rw [left.script, right.script, even.script]
  · rw [left.log, right.log, even.log, sql, parameters]
  · rw [left.nextKey, right.nextKey, even.nextKey]
  · rw [left.connections, right.connections, even.connections]
  · intro entry mem handler keeps
    by_cases same : entry.2 = l
    · obtain ⟨keys, own⟩ := left.statement inside
      rw [same] at keeps ⊢
      rw [own]
      exact keeps.withKeys keys
    · rwa [left.others entry.2 same]

theorem held_unique (abreast : Abreast pipeline admits apart held transaction s t)
    {entry other : String × StatementId} (mem : entry ∈ held) (mem' : other ∈ held)
    (same : entry.2 = other.2) : entry = other :=
  List.inj_on_of_nodup_map abreast.distinct mem mem' same

theorem filled (abreast : Abreast pipeline admits apart held transaction s t) {l r : StatementId}
    {filling : Filling}
    (fits : ∀ sql, (sql, l) ∈ held → ∃ handler, admits handler ∧ handler.bound.sql = sql ∧
      handler.Keeps pipeline (filling.fill (s.statement l))) :
    Abreast pipeline admits apart held transaction (s.alter l filling.fill)
      (t.alter r filling.fill) := by
  have even := abreast.even
  have length : (s.alter l filling.fill).statements.length = s.statements.length :=
    List.length_modify _ _ _
  refine ⟨⟨even.script, even.log, even.nextKey, even.connections, even.rowSources⟩, ?_,
    abreast.distinct, ?_, abreast.connected⟩
  · rintro ⟨sql, id⟩ mem
    by_cases same : id = l
    · subst same
      rw [Recording.statement_alter_self (abreast.isOpen mem).lt]
      exact fits sql mem
    · rw [Recording.statement_alter_of_ne same]
      exact abreast.kept (sql, id) mem
  · rw [length]
    exact abreast.foreign

theorem holding (abreast : Abreast pipeline admits apart held transaction s t) {handler : Handler}
    (admitted : admits handler) {l : StatementId} (keeps : handler.Keeps pipeline (s.statement l))
    (unheld : l ∉ held.map Prod.snd) (unowned : l ∉ apart)
    (connected : transaction.Connected s.connections) :
    Abreast pipeline admits apart
      ((handler.bound.sql, l) :: held.filter (·.1 != handler.bound.sql)) transaction s t := by
  have fewer : (held.filter (·.1 != handler.bound.sql)).map Prod.snd ⊆ held.map Prod.snd :=
    (List.filter_sublist.map _).subset
  refine ⟨abreast.even, ?_, ?_, ?_, fun _ => connected⟩
  · intro entry mem
    rcases List.mem_cons.1 mem with rfl | mem
    · exact ⟨handler, admitted, rfl, keeps⟩
    · exact abreast.kept entry (List.mem_of_mem_filter mem)
  · rw [List.map_cons, List.nodup_cons]
    exact ⟨fun mem => unheld (fewer mem), abreast.distinct.sublist (List.filter_sublist.map _)⟩
  · intro id mine
    refine ⟨(abreast.foreign id mine).1, fun mem => ?_⟩
    rcases List.mem_cons.1 mem with rfl | mem
    · exact unowned mine
    · exact (abreast.foreign id mine).2 (fewer mem)

theorem owning (abreast : Abreast pipeline admits apart held transaction s t) {l : StatementId}
    (inside : l < s.statements.length) (unheld : l ∉ held.map Prod.snd) :
    Abreast pipeline admits (l :: apart) held transaction s t := by
  refine ⟨abreast.even, abreast.kept, abreast.distinct, fun id mine => ?_, abreast.connected⟩
  rcases List.mem_cons.1 mine with rfl | mine
  · exact ⟨inside, unheld⟩
  · exact abreast.foreign id mine

theorem letGo (abreast : Abreast pipeline admits apart held transaction s t)
    (own : s.Drifts (· ∈ held.map Prod.snd) s') (rows : s'.rowSources = s.rowSources) :
    Abreast pipeline admits apart [] transaction s' t where
  even :=
    { script := own.script.trans abreast.even.script
      log := own.log.trans abreast.even.log
      nextKey := own.nextKey.trans abreast.even.nextKey
      connections := own.connections.trans abreast.even.connections
      rowSources := rows.trans abreast.even.rowSources }
  kept := fun _ no => by cases no
  distinct := List.nodup_nil
  foreign := fun st mine => ⟨own.length ▸ (abreast.foreign st mine).1, fun no => by cases no⟩
  connected := fun some => absurd rfl some

theorem released (abreast : Abreast pipeline admits apart held transaction s t) {sql : String}
    {l : StatementId} (mem : (sql, l) ∈ held) :
    Abreast pipeline admits apart (held.filter (·.1 != sql)) transaction s t ∧
      l ∉ (held.filter (·.1 != sql)).map Prod.snd := by
  have fewer : (held.filter (·.1 != sql)).map Prod.snd ⊆ held.map Prod.snd :=
    (List.filter_sublist.map _).subset
  refine ⟨⟨abreast.even, fun entry mem => abreast.kept entry (List.mem_of_mem_filter mem),
    abreast.distinct.sublist (List.filter_sublist.map _), fun id mine => ?_, fun some => ?_⟩, ?_⟩
  · exact ⟨(abreast.foreign id mine).1, fun again => (abreast.foreign id mine).2 (fewer again)⟩
  · exact abreast.connected fun none => some (by rw [none]; rfl)
  · intro again
    obtain ⟨entry, mem', number⟩ := List.mem_map.1 again
    obtain ⟨present, other⟩ := List.mem_filter.1 mem'
    obtain rfl := abreast.held_unique present mem number
    simp at other

theorem readied {s t s' t' : Scene Recording} {handler : Handler} {transaction' : Transaction}
    {connections : List RecordedConnection}
    (abreast : Abreast pipeline admits apart held transaction s.source t.source)
    (left : handler.Readied pipeline transaction' connections s s')
    (right : handler.Readied pipeline transaction' connections t t')
    (connected : transaction'.Connected connections) :
    Abreast pipeline admits apart held transaction' s'.source t'.source := by
  have even := abreast.even
  have length : s.source.statements.length ≤ s'.source.statements.length := by
    rw [left.statements, List.length_append]
    exact Nat.le_add_right _ _
  refine ⟨⟨?_, ?_, ?_, ?_, ?_⟩, ?_, abreast.distinct, ?_, fun _ => left.connections ▸ connected⟩
  · rw [left.script, right.script, even.script]
  · rw [left.log, right.log, even.log]
  · rw [left.nextKey, right.nextKey, even.nextKey]
  · rw [left.connections, right.connections]
  · rw [left.rowSources, right.rowSources, even.rowSources]
  · intro entry mem
    rw [left.statement_of_lt (abreast.isOpen mem).lt]
    exact abreast.kept entry mem
  · exact fun id mine => ⟨Nat.lt_of_lt_of_le (abreast.foreign id mine).1 length,
      (abreast.foreign id mine).2⟩

end Abreast

section

variable {alike : Prop} {apart : List StatementId} {due : List (Value × Nat)} {way : Strategy}
  {held : List (String × StatementId)} {l r : StatementId} {handler : Handler}

structure InHand (pipeline : Pipeline Recording) (handler : Handler) (l r : StatementId)
    (s t : Recording) : Prop where
  left : handler.Keeps pipeline (s.statement l)
  right : handler.Keeps pipeline (t.statement r)

structure Loaded (pipeline : Pipeline Recording) (handler : Handler) (l r : StatementId)
    (s t : Recording) : Prop extends InHand pipeline handler l r s t where
  parameters : (s.statement l).parameters = (t.statement r).parameters
  outputs : ∀ position ∈ handler.outputs, position ∈ (s.statement l).registered
  outputs' : ∀ position ∈ handler.outputs, position ∈ (t.statement r).registered

theorem Loaded.sql {s t : Recording} (loaded : Loaded pipeline handler l r s t) :
    (s.statement l).sql = (t.statement r).sql :=
  loaded.left.sql.trans loaded.right.sql.symm

theorem Abreast.twins {s t : Scene Recording} {after after' : Recording} {parameter parameter' : Value}
    (twins : Twins (Kin.abreast pipeline admits way held) alike apart due s t)
    (same : alike → parameter = parameter')
    (abreast : Abreast pipeline admits apart held s.executor.transaction after after') :
    Twins (Kin.abreast pipeline admits way held) alike apart due
      { s with source := after, parameter := parameter }
      { t with source := after', parameter := parameter' } :=
  ⟨twins.sharing, same, twins.executor, twins.kin.1, abreast⟩

namespace Handler

variable (plain : pipeline.Plain) (recorded : pipeline.source = Recording.source)

include plain recorded

theorem tracks_prepareInTransaction (handler : Handler) :
    Tracks True (Twins (Kin.abreast pipeline admits way held) alike apart due)
      (handler.prepareInTransaction pipeline) (handler.prepareInTransaction pipeline)
      (fun l r s t => (l ∉ held.map Prod.snd ∧ l ∉ apart) ∧
        (Twins (Kin.abreast pipeline admits way held) alike apart due s t ∧
          InHand pipeline handler l r s.source t.source) ∧
        s.executor.transaction.Connected s.source.connections)
      (Twins (Kin.abreast pipeline admits way held) alike apart due) := by
  intro s t twins
  obtain ⟨strategy, abreast⟩ := twins.kin
  have same : t.executor.transaction = s.executor.transaction := twins.transaction
  have connections : t.source.connections = s.source.connections := abreast.even.connections.symm
  obtain ⟨-, e, refused⟩ | ⟨transaction, connections', connected, -, prepares⟩ :=
    handler.prepareInTransaction_apply plain recorded s.executor.transaction s.source.connections
  · rw [refused s rfl rfl, refused t same connections]
    exact ⟨fun r no => (by cases no), fun _ e failed => ⟨failed, twins⟩⟩
  · obtain ⟨after, prepared, readied⟩ := prepares s rfl rfl
    obtain ⟨after', prepared', readied'⟩ := prepares t same connections
    have new (id : StatementId) (old : id < s.source.statements.length) :
        id ≠ s.source.statements.length := Nat.ne_of_lt old
    rw [prepared, prepared']
    refine ⟨fun r done => ⟨_, rfl, ⟨fun mem => ?_, fun mine => ?_⟩,
      ⟨⟨?_, fun alike => ?_, ?_, ?_, ?_⟩, ?_, ?_⟩, ?_⟩, fun _ e no => by cases no⟩
    · obtain ⟨entry, mem, number⟩ := List.mem_map.1 mem
      exact new entry.2 (abreast.isOpen mem).lt number
    · exact new _ (abreast.foreign _ mine).1 rfl
    · rw [readied.scene, readied'.scene]
      exact twins.sharing
    · rw [readied.scene, readied'.scene]
      exact twins.parameter alike
    · rw [readied.scene, readied'.scene, twins.executor]
    · rw [readied.scene]
      exact strategy
    · have transactions : after.executor.transaction = transaction := by rw [readied.scene]
      rw [transactions]
      exact abreast.readied readied readied' connected
    · dsimp only
      rw [readied.prepared]
      exact keeps_fresh _
    · obtain rfl := Except.ok.inj done
      rw [readied'.prepared]
      exact keeps_fresh _
    · rw [readied.connections, readied.scene]
      exact connected

theorem tracks_parameterize
    (fits : ∀ sql, (sql, l) ∈ held → admits handler ∧ handler.bound.sql = sql) :
    Tracks True
      (fun s t => Twins (Kin.abreast pipeline admits way held) alike apart due s t ∧
        InHand pipeline handler l r s.source t.source)
      (handler.parameterize pipeline l) (handler.parameterize pipeline r)
      (fun _ _ s t => Twins (Kin.abreast pipeline admits way held) alike apart due s t ∧
        Loaded pipeline handler l r s.source t.source)
      (Twins (Kin.abreast pipeline admits way held) alike apart due) := by
  rintro s t ⟨twins, inHand⟩
  obtain ⟨result, filling, within, covers, acts⟩ := handler.fills_parameterize recorded plain
  obtain ⟨left, right⟩ := inHand
  have own : l < s.source.statements.length := Recording.IsOpen.lt left.isOpen
  have other : r < t.source.statements.length := Recording.IsOpen.lt right.isOpen
  have ran := acts l s left.isOpen left.callable.trans
  have ran' := acts r t right.isOpen right.callable.trans
  dsimp only at ran ran'
  rw [ran, ran']
  have filled : Twins (Kin.abreast pipeline admits way held) alike apart due
      (s.withSource (s.source.alter l filling.fill)) (t.withSource (t.source.alter r filling.fill)) :=
    Abreast.twins twins twins.parameter (twins.kin.2.filled fun sql mem =>
      ⟨handler, (fits sql mem).1, (fits sql mem).2, left.fill within⟩)
  refine ⟨fun u done => ⟨u, done, filled, ?_⟩, fun _ e failed => ⟨failed, filled⟩⟩
  obtain ⟨placed, registered⟩ := covers done
  have leftFilled := Recording.statement_alter_self own filling.fill
  have rightFilled := Recording.statement_alter_self other filling.fill
  have parameters := left.parameters_fill placed
  have parameters' := right.parameters_fill placed
  refine ⟨⟨?_, ?_⟩, ?_, ?_, ?_⟩
  · exact leftFilled ▸ left.fill within
  · exact rightFilled ▸ right.fill within
  · exact (leftFilled ▸ parameters).trans (rightFilled ▸ parameters').symm
  · intro position mem
    exact leftFilled ▸ List.mem_append_left _ (registered position mem)
  · intro position mem
    exact rightFilled ▸ List.mem_append_left _ (registered position mem)

theorem tracks_update :
    Tracks True
      (fun s t => Twins (Kin.abreast pipeline admits way held) True apart due s t ∧
        Loaded pipeline handler l r s.source t.source)
      (handler.update pipeline l) (handler.update pipeline r)
      (fun a b s t => a = b ∧ Twins (Kin.abreast pipeline admits way held) True apart due s t)
      (Twins (Kin.abreast pipeline admits way held) True apart due) := by
  rintro s t ⟨twins, loaded⟩
  obtain ⟨strategy, abreast⟩ := twins.kin
  have script := abreast.even.script
  cases checked : s.source.script.check (s.source.statement l).sql with
  | error e =>
      rw [update_of_refused plain recorded loaded.left.isOpen checked,
        update_of_refused plain recorded loaded.right.isOpen
          (by rw [← script, ← loaded.sql, checked])]
      exact ⟨fun b no => (by cases no), fun _ e failed => ⟨failed, twins⟩⟩
  | ok u =>
      obtain ⟨after, executed, rows, updated⟩ := update_of_checked plain recorded
        loaded.left.isOpen checked loaded.left.returnKeys loaded.outputs
      obtain ⟨after', executed', rows', updated'⟩ := update_of_checked plain recorded
        loaded.right.isOpen (by rw [← script, ← loaded.sql, checked]) loaded.right.returnKeys
        loaded.outputs'
      rw [← script, ← abreast.even.nextKey, ← twins.parameter trivial] at updated'
      rw [updated, updated']
      have still (parameter : Value) :=
        Abreast.twins twins (fun _ => (rfl : parameter = parameter))
          (abreast.executed (Recording.IsOpen.lt loaded.left.isOpen) executed executed' loaded.sql
            loaded.parameters (by rw [rows, rows', abreast.even.rowSources]))
      exact ⟨fun b done => ⟨b, done, rfl, still _⟩, fun _ e failed => ⟨failed, still _⟩⟩

theorem tracks_query :
    Tracks True
      (fun s t => Twins (Kin.abreast pipeline admits way held) alike apart due s t ∧
        Loaded pipeline handler l r s.source t.source)
      (handler.query pipeline l) (handler.query pipeline r)
      (fun a b s t => a = b ∧ Twins (Kin.abreast pipeline admits way held) alike apart due s t)
      (Twins (Kin.abreast pipeline admits way held) alike apart due) := by
  rintro s t ⟨twins, loaded⟩
  obtain ⟨strategy, abreast⟩ := twins.kin
  have script := abreast.even.script
  cases checked : s.source.script.check (s.source.statement l).sql with
  | error e =>
      rw [query_of_refused plain recorded loaded.left.isOpen checked,
        query_of_refused plain recorded loaded.right.isOpen
          (by rw [← script, ← loaded.sql, checked])]
      exact ⟨fun b no => (by cases no), fun _ e failed => ⟨failed, twins⟩⟩
  | ok u =>
      obtain ⟨after, executed, rows, answered⟩ := query_of_checked plain recorded
        loaded.left.isOpen checked
      obtain ⟨after', executed', rows', answered'⟩ := query_of_checked plain recorded
        loaded.right.isOpen (by rw [← script, ← loaded.sql, checked])
      rw [← script, ← loaded.sql] at answered'
      rw [answered, answered']
      have still := Abreast.twins twins twins.parameter
        (abreast.executed (Recording.IsOpen.lt loaded.left.isOpen) executed executed' loaded.sql
          loaded.parameters (by rw [rows, rows', abreast.even.rowSources]))
      exact ⟨fun b done => ⟨b, done, rfl, still⟩, fun _ e failed => ⟨failed, still⟩⟩

theorem tracks_queryCursor (unheld : l ∉ held.map Prod.snd) :
    Tracks True
      (fun s t => Twins (Kin.abreast pipeline admits way held) alike apart due s t ∧
        Loaded pipeline handler l r s.source t.source)
      (handler.queryCursor pipeline l) (handler.queryCursor pipeline r)
      (fun a b s t => a.Twins (l :: apart) b ∧
        Twins (Kin.abreast pipeline admits way held) alike (l :: apart) due s t)
      (Twins (Kin.abreast pipeline admits way held) alike apart due) := by
  rintro s t ⟨twins, loaded⟩
  obtain ⟨strategy, abreast⟩ := twins.kin
  have script := abreast.even.script
  have rowSources := abreast.even.rowSources
  cases checked : s.source.script.check (s.source.statement l).sql with
  | error e =>
      obtain ⟨after, closed, opened⟩ := queryCursor_of_refused plain recorded
        loaded.left.isOpen checked
      obtain ⟨after', closed', opened'⟩ := queryCursor_of_refused plain recorded
        loaded.right.isOpen (by rw [← script, ← loaded.sql, checked])
      rw [opened, opened']
      have drifted := Abreast.twins twins twins.parameter
        (abreast.drifts (closed.drifts unheld) (closed'.drifts trivial)
          (by rw [closed.rowSources, closed'.rowSources, rowSources]))
      exact ⟨fun b no => (by cases no), fun _ e failed => ⟨failed, drifted⟩⟩
  | ok u =>
      obtain ⟨after, executed, rows, opened⟩ := queryCursor_of_checked plain recorded
        loaded.left.isOpen checked
      obtain ⟨after', executed', rows', opened'⟩ := queryCursor_of_checked plain recorded
        loaded.right.isOpen (by rw [← script, ← loaded.sql, checked])
      rw [← script, ← loaded.sql] at rows'
      rw [opened, opened']
      have inside : l < s.source.statements.length := Recording.IsOpen.lt loaded.left.isOpen
      have still := abreast.executed inside executed executed' loaded.sql loaded.parameters
        (by rw [rows, rows', rowSources])
      have owned := still.owning (executed.length ▸ inside) unheld
      refine ⟨fun b done => ⟨_, rfl, ?_, twins.sharing, twins.parameter, twins.executor, strategy, owned⟩,
        fun _ e no => by cases no⟩
      obtain rfl := Except.ok.inj done
      refine ⟨by rw [rowSources], fun st own => ?_⟩
      obtain rfl : l = st := Option.some.inj own
      exact List.mem_cons_self

end Handler

namespace Strategy

variable (plain : pipeline.Plain) (recorded : pipeline.source = Recording.source)

theorem twins_closed {s t : Scene Recording} {after after' : Recording}
    (twins : Twins (Kin.abreast pipeline admits way held) alike apart due s t)
    (unheld : l ∉ held.map Prod.snd) (closed : s.source.Closed l after)
    (closed' : t.source.Closed r after') :
    Twins (Kin.abreast pipeline admits way held) alike apart due (s.withSource after)
      (t.withSource after') :=
  Abreast.twins twins twins.parameter (twins.kin.2.drifts (closed.drifts unheld)
    (closed'.drifts trivial)
    (by rw [closed.rowSources, closed'.rowSources, twins.kin.2.even.rowSources]))

include plain recorded

theorem tracks_queryOnce (handler : Handler) :
    Tracks True (Twins (Kin.abreast pipeline admits way held) alike apart due)
      (queryOnce pipeline handler) (queryOnce pipeline handler)
      (fun a b s t => a = b ∧ Twins (Kin.abreast pipeline admits way held) alike apart due s t)
      (Twins (Kin.abreast pipeline admits way held) alike apart due) := by
  refine (handler.tracks_prepareInTransaction plain recorded).bind fun l r =>
    Tracks.given fun new => ?_
  obtain ⟨unheld, -⟩ := new
  have queried := (handler.tracks_parameterize plain recorded fun sql mem =>
    absurd (List.mem_map_of_mem mem) unheld).bind fun _ _ => @Handler.tracks_query pipeline admits alike
      apart due way held l r handler plain recorded
  rintro s t ⟨inHand, -⟩
  obtain ⟨goes, stops⟩ := queried s t inHand
  obtain ⟨after, closed, used⟩ := withStatement_apply recorded l
    (handler.parameterize pipeline l >>= fun _ => handler.query pipeline l) s
  obtain ⟨after', closed', used'⟩ := withStatement_apply recorded r
    (handler.parameterize pipeline r >>= fun _ => handler.query pipeline r) t
  rw [used, used']
  refine ⟨fun b done => ?_, fun _ e failed => ?_⟩
  · obtain ⟨a, ran, same, twins⟩ := goes b done
    exact ⟨a, ran, same, twins_closed twins unheld closed closed'⟩
  · obtain ⟨ran, twins⟩ := stops trivial e failed
    exact ⟨ran, twins_closed twins unheld closed closed'⟩

theorem tracks_openOnce (handler : Handler) :
    Tracks True (Twins (Kin.abreast pipeline admits way held) alike apart due)
      (openOnce pipeline handler) (openOnce pipeline handler)
      (fun a b s t => ∃ l, a.Twins (l :: apart) b ∧
        Twins (Kin.abreast pipeline admits way held) alike (l :: apart) due s t)
      (Twins (Kin.abreast pipeline admits way held) alike apart due) := by
  refine (handler.tracks_prepareInTransaction plain recorded).bind fun l r =>
    Tracks.given fun new => ?_
  obtain ⟨unheld, -⟩ := new
  refine ((handler.tracks_parameterize plain recorded fun sql mem =>
    absurd (List.mem_map_of_mem mem) unheld).under fun s t => And.left).attempt_bind
      (fun _ _ => ?_) fun e => ?_
  · exact (handler.tracks_queryCursor plain recorded unheld).weaken (fun _ _ => id)
      (fun _ _ _ _ opened => ⟨l, opened⟩) (fun _ _ => id) id
  · intro s t twins
    obtain ⟨after, closed, quiet⟩ := closeQuietly_apply recorded l s
    obtain ⟨after', closed', quiet'⟩ := closeQuietly_apply recorded r t
    dsimp only
    simp only [Action.bind_apply, quiet, quiet']
    exact ⟨fun b no => (by cases no),
      fun _ e failed => ⟨failed, twins_closed twins unheld closed closed'⟩⟩

end Strategy

end

end MappedSql
