import MappedSql.Database.Faults
import MappedSql.Interception.Method
import MappedSql.Proofs.Database.Executions
import MappedSql.Proofs.Triple

namespace MappedSql

open MappedSql.Action (Leaves)

inductive Operation
  | connect (autocommit : Bool)
  | commit (connection : ConnectionId)
  | rollback (connection : ConnectionId)
  | closeConnection (connection : ConnectionId)
  | prepare (connection : ConnectionId) (sql : String) (options : PrepareOptions)
  | setParameter (statement : StatementId) (position : Nat) (value : Value)
  | registerOutput (statement : StatementId) (position : Nat) (type : Option DbType)
  | output (statement : StatementId) (position : Nat)
  | clearParameters (statement : StatementId)
  | update (statement : StatementId)
  | query (statement : StatementId)
  | openRows (statement : StatementId)
  | addBatch (statement : StatementId)
  | executeBatch (statement : StatementId)
  | generatedKeys (statement : StatementId)
  | closeStatement (statement : StatementId)
  | nextRow (rows : RowsId)
  | closeRows (rows : RowsId)

namespace Operation

def Answer : Operation → Type
  | connect _ => ConnectionId
  | commit _ | rollback _ | closeConnection _ => Unit
  | prepare _ _ _ => StatementId
  | setParameter _ _ _ | registerOutput _ _ _ => Unit
  | output _ _ => Value
  | clearParameters _ => Unit
  | update _ => Nat
  | query _ => ResultSet
  | openRows _ => RowsId
  | addBatch _ => Unit
  | executeBatch _ => List Nat
  | generatedKeys _ => List Value
  | closeStatement _ => Unit
  | nextRow _ => Option Row
  | closeRows _ => Unit

def isConnect : Operation → Bool
  | connect _ => true
  | _ => false

def isPrepare : Operation → Bool
  | prepare _ _ _ => true
  | _ => false

def isCommit : Operation → Bool
  | commit _ => true
  | _ => false

def isRollback : Operation → Bool
  | rollback _ => true
  | _ => false

def isCloseConnection : Operation → Bool
  | closeConnection _ => true
  | _ => false

def begins (operation : Operation) : Bool :=
  operation.isConnect || operation.isPrepare

/-- Whether an operation settles what was worked on a connection. -/
def settles (operation : Operation) : Bool :=
  operation.isCommit || operation.isRollback

end Operation

def DataSource.ask {σ : Type} (source : DataSource σ) :
    (operation : Operation) → Action σ operation.Answer
  | .connect autocommit => source.connect autocommit
  | .commit connection => source.commit connection
  | .rollback connection => source.rollback connection
  | .closeConnection connection => source.closeConnection connection
  | .prepare connection sql options => source.prepare connection sql options
  | .setParameter statement position value => source.setParameter statement position value
  | .registerOutput statement position type => source.registerOutput statement position type
  | .output statement position => source.output statement position
  | .clearParameters statement => source.clearParameters statement
  | .update statement => source.update statement
  | .query statement => source.query statement
  | .openRows statement => source.openRows statement
  | .addBatch statement => source.addBatch statement
  | .executeBatch statement => source.executeBatch statement
  | .generatedKeys statement => source.generatedKeys statement
  | .closeStatement statement => source.closeStatement statement
  | .nextRow rows => source.nextRow rows
  | .closeRows rows => source.closeRows rows

/-- An operation with whether it was answered, or an interceptor, by its place in the chain, around a
method. -/
inductive Event
  | asked (operation : Operation) (answered : Bool)
  | entered (place : Nat) (method : Method)
  | left (place : Nat) (method : Method)

namespace Event

def asks (kind : Operation → Bool) : Event → Bool
  | asked operation _ => kind operation
  | _ => false

def opens : Event → Bool
  | asked operation answered => operation.isConnect && answered
  | _ => false

end Event

structure Traced (τ : Type) where
  inner : τ
  trace : List Event := []

namespace Traced

variable {τ : Type}

def note (event : Event) (traced : Traced τ) : Traced τ :=
  { traced with trace := traced.trace ++ [event] }

variable (source : DataSource τ)

def ask (operation : Operation) : Action (Traced τ) operation.Answer := fun traced =>
  let (result, inner) := source.ask operation traced.inner
  (result, note (.asked operation result.isOk) { traced with inner := inner })

/-- A data source that notes what it is asked for. Dropping is not noted. -/
def around : DataSource (Traced τ) where
  connect := fun autocommit => ask source (.connect autocommit)
  isAutocommit := fun traced => source.isAutocommit traced.inner
  commit := fun connection => ask source (.commit connection)
  rollback := fun connection => ask source (.rollback connection)
  closeConnection := fun connection => ask source (.closeConnection connection)
  dropConnection := fun connection traced =>
    { traced with inner := source.dropConnection connection traced.inner }
  prepare := fun connection sql options => ask source (.prepare connection sql options)
  sql := fun traced => source.sql traced.inner
  setParameter := fun statement position value =>
    ask source (.setParameter statement position value)
  registerOutput := fun statement position type =>
    ask source (.registerOutput statement position type)
  output := fun statement position => ask source (.output statement position)
  clearParameters := fun statement => ask source (.clearParameters statement)
  update := fun statement => ask source (.update statement)
  query := fun statement => ask source (.query statement)
  openRows := fun statement => ask source (.openRows statement)
  addBatch := fun statement => ask source (.addBatch statement)
  executeBatch := fun statement => ask source (.executeBatch statement)
  generatedKeys := fun statement => ask source (.generatedKeys statement)
  closeStatement := fun statement => ask source (.closeStatement statement)
  isClosed := fun traced => source.isClosed traced.inner
  dropStatement := fun statement traced =>
    { traced with inner := source.dropStatement statement traced.inner }
  columns := fun traced => source.columns traced.inner
  nextRow := fun rows => ask source (.nextRow rows)
  closeRows := fun rows => ask source (.closeRows rows)
  dropRows := fun rows traced => { traced with inner := source.dropRows rows traced.inner }

theorem ask_around (operation : Operation) :
    (around source).ask operation = ask source operation := by
  cases operation <;> rfl

end Traced

/-- A connection is in the mode that it was opened in, whatever is asked for afterwards. -/
structure DataSource.KeepsModes {σ : Type} (source : DataSource σ) : Prop where
  connected : ∀ autocommit state c after, source.connect autocommit state = (.ok c, after) →
    source.isAutocommit after c = autocommit
  asked : ∀ operation, operation.isConnect = false →
    Leaves source.isAutocommit (source.ask operation)
  dropConnection : ∀ c state,
    source.isAutocommit (source.dropConnection c state) = source.isAutocommit state
  dropStatement : ∀ st state,
    source.isAutocommit (source.dropStatement st state) = source.isAutocommit state
  dropRows : ∀ rows state,
    source.isAutocommit (source.dropRows rows state) = source.isAutocommit state

namespace Recording

theorem connections_count (change : Counters → Counters) :
    Leaves Recording.connections (count change) :=
  fun _ => rfl

theorem connections_setStatement (id : StatementId)
    (change : RecordedStatement → RecordedStatement) :
    Leaves Recording.connections (setStatement id change) :=
  fun _ => rfl

theorem connections_setRows (id : RowsId) (change : RecordedRows → RecordedRows) :
    Leaves Recording.connections (setRows id change) :=
  fun _ => rfl

theorem connections_record (sql : String) (parameters : List Value) :
    Leaves Recording.connections (record sql parameters) :=
  fun _ => rfl

theorem connections_openStatement (id : StatementId) :
    Leaves Recording.connections (openStatement id) := by
  apply (Leaves.read _).bind
  intro statement
  split
  · exact Leaves.throw _
  · exact Leaves.pure _

theorem connections_checked {α : Type} (id : StatementId)
    {next : RecordedStatement → Script → Action Recording α}
    (rest : ∀ statement script, Leaves Recording.connections (next statement script)) :
    Leaves Recording.connections (do
      let statement ← openStatement id
      let script ← Action.read Recording.script
      script.check statement.sql
      next statement script) := by
  apply (connections_openStatement id).bind
  intro statement
  apply (Leaves.read _).bind
  intro script
  exact (Leaves.lift _).bind fun _ => rest statement script

theorem connections_update (id : StatementId) : Leaves Recording.connections (update id) := by
  refine connections_checked id fun statement script => ?_
  refine (connections_record _ _).bind fun _ => (connections_count _).bind fun _ => ?_
  have finish (keys : List Value) : Leaves Recording.connections (do
      setStatement id fun statement => { statement with keys := keys }
      return script.updateCount) :=
    (connections_setStatement _ _).bind fun _ => Leaves.pure _
  dsimp only
  split
  · exact Leaves.bind (fun _ => rfl) finish
  · exact (Leaves.pure _).bind finish

theorem connections_answer (id : StatementId) : Leaves Recording.connections (answer id) :=
  connections_checked id fun _ _ => (connections_record _ _).bind fun _ => Leaves.pure _

theorem connections_query (id : StatementId) : Leaves Recording.connections (query id) :=
  (connections_answer id).bind fun _ => (connections_count _).bind fun _ => Leaves.pure _

theorem connections_openRows (id : StatementId) : Leaves Recording.connections (openRows id) := by
  refine (connections_answer id).bind fun _ => (connections_count _).bind fun _ => ?_
  exact fun _ => rfl

theorem connections_executeBatch (id : StatementId) :
    Leaves Recording.connections (executeBatch id) := by
  refine connections_checked id fun statement script => ?_
  refine (connections_count _).bind fun _ => Leaves.bind ?_ fun keys => ?_
  · intro recording
    rw [runEntries_apply]
  · exact (connections_setStatement _ _).bind fun _ => Leaves.pure _

theorem connections_prepare (c : ConnectionId) (sql : String) (options : PrepareOptions) :
    Leaves Recording.connections (prepare c sql options) := by
  intro recording
  unfold prepare
  rw [Action.bind_apply, Action.get_apply]
  dsimp only
  cases recording.isConnectionClosed c <;> rfl

theorem connections_setParameter (id : StatementId) (position : Nat) (value : Value) :
    Leaves Recording.connections (setParameter id position value) := by
  refine (connections_openStatement id).bind fun _ => ?_
  split
  · exact (Leaves.throw _).bind fun _ => connections_setStatement _ _
  · exact connections_setStatement _ _

theorem connections_registerOutput (id : StatementId) (position : Nat) (type : Option DbType) :
    Leaves Recording.connections (registerOutput id position type) := by
  refine (Leaves.read _).bind fun _ => ?_
  split
  · exact (Leaves.throw _).bind fun _ => connections_setStatement _ _
  · exact connections_setStatement _ _

theorem connections_output (id : StatementId) (position : Nat) :
    Leaves Recording.connections (output id position) := by
  refine Leaves.get.bind fun _ => ?_
  split
  · exact (Leaves.throw _).bind fun _ => Leaves.pure _
  · exact Leaves.pure _

theorem connections_nextRow (id : RowsId) : Leaves Recording.connections (nextRow id) := by
  refine (Leaves.read _).bind fun source => ?_
  split
  · exact Leaves.pure _
  · split
    · exact Leaves.pure _
    · exact (connections_setRows _ _).bind fun _ => (connections_count _).bind fun _ => Leaves.pure _

theorem connections_closeRows (id : RowsId) : Leaves Recording.connections (closeRows id) := by
  refine Leaves.get.bind fun _ => ?_
  split
  · exact Leaves.pure _
  · exact (connections_setRows _ _).bind fun _ => connections_count _

theorem isAutocommit_of_leaves {α : Type} {act : Action Recording α}
    (leaves : Leaves Recording.connections act) : Leaves isAutocommit act :=
  leaves.map fun connections c => connections[c]?.any RecordedConnection.autocommit

theorem isAutocommit_closeConnection (c : ConnectionId) :
    Leaves isAutocommit (closeConnection c) := by
  intro recording
  obtain ⟨counters, closed⟩ := closeConnection_apply recording c
  rw [closed]
  funext other
  simp only [isAutocommit, closing]
  split
  · rfl
  · rw [List.getElem?_modify]
    cases recording.connections[other]? with
    | none => rfl
    | some connection => by_cases same : c = other <;> simp [same]

theorem keepsModes : source.KeepsModes where
  connected := by
    rintro autocommit state c after ⟨⟩
    simp [source, isAutocommit]
  asked := by
    intro operation other
    cases operation with
    | connect => cases other
    | commit => exact fun _ => rfl
    | rollback => exact fun _ => rfl
    | closeConnection c => exact isAutocommit_closeConnection c
    | prepare c sql options => exact isAutocommit_of_leaves (connections_prepare c sql options)
    | setParameter st position value =>
        exact isAutocommit_of_leaves (connections_setParameter st position value)
    | registerOutput st position type =>
        exact isAutocommit_of_leaves (connections_registerOutput st position type)
    | output st position => exact isAutocommit_of_leaves (connections_output st position)
    | clearParameters => exact fun _ => rfl
    | update st => exact isAutocommit_of_leaves (connections_update st)
    | query st => exact isAutocommit_of_leaves (connections_query st)
    | openRows st => exact isAutocommit_of_leaves (connections_openRows st)
    | addBatch st =>
        exact isAutocommit_of_leaves
          ((connections_openStatement st).bind fun _ => connections_setStatement _ _)
    | executeBatch st => exact isAutocommit_of_leaves (connections_executeBatch st)
    | generatedKeys => exact fun _ => rfl
    | closeStatement st =>
        exact isAutocommit_of_leaves fun recording => (closeStatement_apply recording st).2.connections
    | nextRow rows => exact isAutocommit_of_leaves (connections_nextRow rows)
    | closeRows rows => exact isAutocommit_of_leaves (connections_closeRows rows)
  dropConnection := fun _ _ => rfl
  dropStatement := fun _ _ => rfl
  dropRows := fun _ _ => rfl

end Recording

namespace Faulty

variable {τ α : Type}

abbrev mode (source : DataSource τ) (faulty : Faulty τ) : ConnectionId → Bool :=
  source.isAutocommit faulty.inner

variable {source : DataSource τ} {act : Action τ α}

theorem mode_strike (name : String) : Leaves (mode source) (strike name) := by
  refine Leaves.get.bind fun faulty => ?_
  split
  · exact Leaves.ofResult _
  · exact Leaves.pure _

theorem mode_onInner (leaves : Leaves source.isAutocommit act) :
    Leaves (mode source) (onInner act) :=
  Leaves.within fun faulty => leaves faulty.inner

theorem mode_before (name : String) (leaves : Leaves source.isAutocommit act) :
    Leaves (mode source) (before name act) :=
  (mode_strike name).bind fun _ => mode_onInner leaves

theorem mode_after (name : String) (leaves : Leaves source.isAutocommit act) :
    Leaves (mode source) (after name act) :=
  (mode_onInner leaves).bind fun _ => (mode_strike name).bind fun _ => Leaves.pure _

theorem mode_prepare (c : ConnectionId) (sql : String) (options : PrepareOptions)
    (leaves : Leaves source.isAutocommit (source.prepare c sql options)) :
    Leaves (mode source) (prepare source c sql options) := by
  refine Leaves.bind (fun _ => rfl) fun _ => (mode_before "prepare" leaves).bind fun st => ?_
  refine Leaves.bind (Leaves.modify fun faulty => ?_) fun _ => Leaves.pure _
  by_cases without : faulty.faults.contains "no_out" = true
  · rw [if_pos without]
  · rw [if_neg without]

theorem mode_registerOutput (st : StatementId) (position : Nat) (type : Option DbType)
    (leaves : Leaves source.isAutocommit (source.registerOutput st position type)) :
    Leaves (mode source) (registerOutput source st position type) := by
  have noted : Leaves (mode source) (do
      modify (note (.registerOutput position type))
      onInner (source.registerOutput st position type)) :=
    Leaves.bind (fun _ => rfl) fun _ => mode_onInner leaves
  refine Leaves.get.bind fun faulty => ?_
  split
  · exact (Leaves.throw _).bind fun _ => noted
  · exact noted

theorem mode_output (st : StatementId) (position : Nat)
    (leaves : Leaves source.isAutocommit (source.output st position)) :
    Leaves (mode source) (output source st position) := by
  refine Leaves.get.bind fun faulty => ?_
  split
  · exact (Leaves.throw _).bind fun _ => mode_onInner leaves
  · exact mode_onInner leaves

theorem mode_nextRow (rows : RowsId) (leaves : Leaves source.isAutocommit (source.nextRow rows)) :
    Leaves (mode source) (nextRow source rows) :=
  Leaves.bind (fun _ => rfl) fun number => mode_before s!"row:{number}" leaves

theorem connected_connect (keeps : source.KeepsModes) {autocommit : Bool} {faulty after : Faulty τ}
    {c : ConnectionId} (opened : connect source autocommit faulty = (.ok c, after)) :
    mode source after c = autocommit := by
  rw [connect, Action.bind_apply, Action.get_apply] at opened
  dsimp only at opened
  split at opened
  · cases opened
  · rcases went : source.connect autocommit faulty.inner with ⟨e | other, inner⟩
    · simp only [onInner, Action.within, went] at opened
      cases opened
    · simp only [onInner, Action.within, went] at opened
      cases opened
      exact keeps.connected autocommit _ _ _ went

theorem keepsModes (keeps : source.KeepsModes) : (around source).KeepsModes where
  connected := fun _ _ _ _ opened => connected_connect keeps opened
  asked := by
    intro operation other
    have inner := keeps.asked operation other
    cases operation with
    | connect => cases other
    | commit => exact mode_before _ inner
    | rollback => exact mode_before _ inner
    | closeConnection => exact mode_after _ inner
    | prepare c sql options => exact mode_prepare c sql options inner
    | setParameter => exact mode_before _ inner
    | registerOutput st position type => exact mode_registerOutput st position type inner
    | output st position => exact mode_output st position inner
    | clearParameters => exact mode_onInner inner
    | update => exact mode_before _ inner
    | query => exact mode_before _ inner
    | openRows => exact mode_before _ inner
    | addBatch => exact mode_before _ inner
    | executeBatch => exact mode_before _ inner
    | generatedKeys => exact mode_before _ inner
    | closeStatement => exact mode_after _ inner
    | nextRow rows => exact mode_nextRow rows inner
    | closeRows => exact mode_after _ inner
  dropConnection := fun c faulty => keeps.dropConnection c faulty.inner
  dropStatement := fun st faulty => keeps.dropStatement st faulty.inner
  dropRows := fun rows faulty => keeps.dropRows rows faulty.inner

end Faulty

end MappedSql
