import MappedSql.Proofs.Database.Ledger
import MappedSql.Proofs.Execution.Frames

namespace MappedSql

open MappedSql.Action (Leaves Meets)

variable {α : Type}

structure DataSource.Meters {σ : Type} (source : DataSource σ) (meter : σ → Nat)
    (latest : σ → ResultSet) : Prop where
  query : ∀ st n, Meets (meter · = n) (source.query st)
    (fun results state => meter state = n + 1 ∧ latest state = results) (fun _ => True)
  connect : ∀ autocommit, Leaves meter (source.connect autocommit)
  prepare : ∀ c sql options, Leaves meter (source.prepare c sql options)
  setParameter : ∀ st position value, Leaves meter (source.setParameter st position value)
  registerOutput : ∀ st position type, Leaves meter (source.registerOutput st position type)
  executeBatch : ∀ st, Leaves meter (source.executeBatch st)
  generatedKeys : ∀ st, Leaves meter (source.generatedKeys st)
  closeStatement : ∀ st, Leaves meter (source.closeStatement st)
  dropStatement : ∀ st state, meter (source.dropStatement st state) = meter state
  latest_close : ∀ st, Leaves latest (source.closeStatement st)
  latest_drop : ∀ st state, latest (source.dropStatement st state) = latest state

namespace Recording

def queries (recording : Recording) : Nat :=
  recording.counters.queries

def latest (recording : Recording) : ResultSet :=
  let (columns, rows) := recording.script.rowsFor ((recording.log.getLast?.map (·.sql)).getD "")
  { rows := rows.map fun values => ⟨columns, values⟩, columns := some columns }

theorem queries_count {change : Counters → Counters}
    (same : ∀ counters, (change counters).queries = counters.queries) :
    Leaves queries (count change) :=
  Leaves.modify fun recording => same recording.counters

theorem queries_setStatement (id : StatementId) (change : RecordedStatement → RecordedStatement) :
    Leaves queries (setStatement id change) :=
  Leaves.modify fun _ => rfl

theorem queries_openStatement (id : StatementId) : Leaves queries (openStatement id) := by
  apply (Leaves.read _).bind
  intro statement
  split
  · exact Leaves.throw _
  · exact Leaves.pure _

theorem queries_record (sql : String) (parameters : List Value) :
    Leaves queries (record sql parameters) :=
  Leaves.modify fun _ => rfl

theorem queries_takeKey : Leaves queries takeKey :=
  fun _ => rfl

theorem answer_eq_ok {id : StatementId} {recording after : Recording}
    {found : Columns × List (List Value)} (answered : answer id recording = (.ok found, after)) :
    after.queries = recording.queries ∧ after.latest =
      { rows := found.2.map fun values => ⟨found.1, values⟩, columns := some found.1 } := by
  unfold answer openStatement at answered
  simp only [Action.bind_apply, Action.read] at answered
  cases closed : (recording.statement id).closed with
  | true =>
      simp only [closed, if_true] at answered
      cases answered
  | false =>
      simp only [closed, Bool.false_eq_true, if_false, Action.pure_apply] at answered
      cases checked : recording.script.check (recording.statement id).sql with
      | error e =>
          rw [checked] at answered
          cases answered
      | ok =>
          rw [checked] at answered
          cases answered
          refine ⟨rfl, ?_⟩
          simp only [latest, List.getLast?_append, List.getLast?_singleton, Option.some_or,
            Option.map_some, Option.getD_some]

theorem meets_query (id : StatementId) (n : Nat) :
    Meets (queries · = n) (query id)
      (fun results after => after.queries = n + 1 ∧ after.latest = results) (fun _ => True) := by
  rintro recording rfl
  unfold query
  rw [Action.bind_apply]
  rcases answered : answer id recording with ⟨e | ⟨columns, rows⟩, after⟩
  · exact ⟨fun _ no => (by cases no), fun _ _ => trivial⟩
  · obtain ⟨same, last⟩ := answer_eq_ok answered
    refine ⟨fun results done => ?_, fun _ _ => trivial⟩
    cases done
    exact ⟨congrArg (· + 1) same, last⟩

theorem queries_runEntries (sql : String) (returnKeys : Bool) (entries : List (List Value)) :
    Leaves queries (runEntries sql returnKeys entries) := by
  induction entries with
  | nil => exact Leaves.pure _
  | cons parameters rest ih =>
      have others (key : List Value) : Leaves queries
          (do return key ++ (← runEntries sql returnKeys rest) : Action Recording (List Value)) :=
        ih.bind fun _ => Leaves.pure _
      apply (queries_record sql parameters).bind
      intro _
      dsimp only
      split
      · exact (queries_takeKey.bind fun _ => Leaves.pure _).bind others
      · exact (Leaves.pure _).bind others

theorem queries_executeBatch (id : StatementId) : Leaves queries (executeBatch id) := by
  apply (queries_openStatement id).bind
  intro statement
  apply (Leaves.read _).bind
  intro script
  apply (Leaves.lift _).bind
  intro _
  refine Leaves.bind (queries_count ?_) fun _ => ?_
  · exact fun _ => rfl
  apply (queries_runEntries _ _ _).bind
  intro keys
  exact (queries_setStatement id _).bind fun _ => Leaves.pure _

theorem queries_prepare (c : ConnectionId) (sql : String) (options : PrepareOptions) :
    Leaves queries (prepare c sql options) := by
  intro recording
  show queries (prepare c sql options recording).2 = _
  unfold prepare
  rw [Action.bind_apply]
  cases closed : recording.isConnectionClosed c <;> simp [closed, Action.get_apply]
  · rfl
  · rfl

theorem queries_setParameter (id : StatementId) (position : Nat) (value : Value) :
    Leaves queries (setParameter id position value) := by
  apply (queries_openStatement id).bind
  intro _
  dsimp only
  split
  · exact Leaves.throw _
  · exact queries_setStatement id _

theorem queries_registerOutput (id : StatementId) (position : Nat) (type : Option DbType) :
    Leaves queries (registerOutput id position type) := by
  apply (Leaves.read _).bind
  intro statement
  dsimp only
  split
  · exact Leaves.throw _
  · exact queries_setStatement id _

theorem leaves_closeStatement {ν : Type} {view : Recording → ν}
    (same : ∀ before after : Recording, after.queries = before.queries →
      after.script = before.script → after.log = before.log → view after = view before)
    (id : StatementId) : Leaves view (closeStatement id) := by
  apply Leaves.get.bind
  intro recording
  split
  · exact Leaves.pure _
  · have set : Leaves view (setStatement id fun st => { st with closed := true }) :=
      Leaves.modify fun _ => same _ _ rfl rfl rfl
    apply set.bind
    intro _
    exact Leaves.modify fun _ => same _ _ rfl rfl rfl

theorem meters : source.Meters queries latest where
  query := meets_query
  connect := fun _ _ => rfl
  prepare := queries_prepare
  setParameter := queries_setParameter
  registerOutput := queries_registerOutput
  executeBatch := queries_executeBatch
  generatedKeys := fun id => (Leaves.read _).bind fun _ =>
    (queries_setStatement id _).bind fun _ => Leaves.pure _
  closeStatement := leaves_closeStatement fun _ _ queries _ _ => queries
  dropStatement := fun _ _ => rfl
  latest_close := leaves_closeStatement fun _ _ _ script log => by simp only [latest, script, log]
  latest_drop := fun _ _ => rfl

end Recording

namespace Faulty

variable {τ : Type} {meter : τ → Nat} {latest : τ → ResultSet} {source : DataSource τ}

theorem meter_connect (meters : source.Meters meter latest) (autocommit : Bool) :
    Leaves (meter ∘ inner) (connect source autocommit) := by
  apply Leaves.get.bind
  intro faulty
  have rest := leaves_onInner (meters.connect autocommit)
  split
  · exact (Leaves.throw _).bind fun _ => rest
  · exact rest

theorem meter_prepare (meters : source.Meters meter latest) (c : ConnectionId) (sql : String)
    (options : PrepareOptions) : Leaves (meter ∘ inner) (prepare source c sql options) := by
  have noted : Leaves (meter ∘ inner) (modify (note (.prepare sql options))) :=
    Leaves.modify fun _ => rfl
  apply noted.bind
  intro _
  apply (leaves_before "prepare" (meters.prepare c sql options)).bind
  intro statement
  refine Leaves.bind (Leaves.modify fun faulty => ?_) fun _ => Leaves.pure _
  split <;> rfl

theorem leaves_after {ν : Type} {view : τ → ν} (name : String) {act : Action τ α}
    (leaves : Leaves view act) : Leaves (view ∘ inner) (after name act) :=
  (leaves_onInner leaves).bind fun _ => (leaves_strike name).bind fun _ => Leaves.pure _

theorem meets_query (meters : source.Meters meter latest) (st : StatementId) (n : Nat) :
    Meets ((meter ∘ inner) · = n) (before "query" (source.query st))
      (fun results state => (meter ∘ inner) state = n + 1 ∧ (latest ∘ inner) state = results)
      (fun _ => True) := by
  have struck : Meets ((meter ∘ inner) · = n) (strike (τ := τ) "query")
      (fun _ => ((meter ∘ inner) · = n)) (fun _ => True) :=
    (Meets.of_leaves (leaves_strike "query") fun _ _ => Eq.trans).weaken (fun _ => id)
      (fun _ _ => id) fun _ _ => trivial
  exact struck.bind fun _ faulty => meters.query st n faulty.inner

theorem meters_around (meters : source.Meters meter latest) :
    (around source).Meters (meter ∘ inner) (latest ∘ inner) where
  query := meets_query meters
  connect := meter_connect meters
  prepare := meter_prepare meters
  setParameter := fun st position value => leaves_before _ (meters.setParameter st position value)
  registerOutput := fun st position type =>
    leaves_registerOutput (meters.registerOutput st position type)
  executeBatch := fun st => leaves_before _ (meters.executeBatch st)
  generatedKeys := fun st => leaves_before _ (meters.generatedKeys st)
  closeStatement := fun st => leaves_after _ (meters.closeStatement st)
  dropStatement := fun st faulty => meters.dropStatement st faulty.inner
  latest_close := fun st => leaves_after _ (meters.latest_close st)
  latest_drop := fun st faulty => meters.latest_drop st faulty.inner

end Faulty

variable {σ : Type} {meter : σ → Nat} {latest : σ → ResultSet}

def Scene.metered (meter : σ → Nat) (scene : Scene σ) : Nat :=
  meter scene.source

def Work.Executes (meter : σ → Nat) (holds : α → σ → Prop) (act : Work σ α) : Prop :=
  ∀ n, Meets (Scene.metered meter · = n) act
    (fun a scene => scene.metered meter = n + 1 ∧ holds a scene.source) (fun _ => True)

namespace Work

open Scene (metered)

theorem metered_onSource {act : Action σ α} (leaves : Leaves meter act) :
    Leaves (metered meter) (onSource act) :=
  fun scene => leaves scene.source

theorem metered_setStrategy (strategy : Strategy) :
    Leaves (metered meter) (setStrategy strategy : Work σ Unit) :=
  fun _ => rfl

theorem Executes.after_leaves {β : Type} {first : Work σ α} {next : α → Work σ β}
    {holds : β → σ → Prop} (leaves : Leaves (metered meter) first)
    (executes : ∀ a, Executes meter holds (next a)) : Executes meter holds (first >>= next) := by
  intro n
  have before :
      Meets (metered meter · = n) first (fun _ => (metered meter · = n)) (fun _ => True) :=
    (Meets.of_leaves leaves fun _ _ => Eq.trans).weaken (fun _ => id) (fun _ _ => id)
      fun _ _ => trivial
  exact before.bind fun a => executes a n

end Work

open Scene (metered)

namespace DataSource.Meters

variable {source : DataSource σ} (meters : source.Meters meter latest)

include meters

theorem finishStatement (st : StatementId) : Leaves meter (source.finishStatement st) :=
  fun state => (meters.dropStatement st _).trans (meters.closeStatement st state)

theorem latest_finish (st : StatementId) : Leaves latest (source.finishStatement st) :=
  fun state => (meters.latest_drop st _).trans (meters.latest_close st state)

theorem obtain : Leaves (meter ∘ Prod.fst) (Transaction.obtain source) := by
  apply Leaves.get.bind
  rintro ⟨state, transaction⟩
  dsimp only
  split
  · exact Leaves.throw _
  · split
    · exact Leaves.pure _
    · have connected : Leaves (meter ∘ Prod.fst)
          ((source.connect transaction.autocommit).onFirst : Action (σ × Transaction) _) :=
        fun state => meters.connect transaction.autocommit state.1
      apply connected.bind
      intro c
      refine Leaves.bind (Leaves.modify ?_) fun _ => Leaves.pure _
      exact fun _ => rfl

end DataSource.Meters

namespace Handler

def Maps (handler : Handler) (latest : σ → ResultSet) (rows : List Value) (state : σ) : Prop :=
  (latest state).mapRows handler.statement.mapper handler.bounds = .ok rows

variable {pipeline : Pipeline σ} (handler : Handler) (meters : pipeline.source.Meters meter latest)

include meters

theorem metered_bindFrom (statement : StatementId) (position : Nat)
    (mappings : List ParameterMapping) :
    Leaves (metered meter) (handler.bindFrom pipeline statement position mappings) := by
  induction mappings generalizing position with
  | nil => exact Leaves.pure _
  | cons mapping rest ih =>
      have one : Leaves (metered meter) (handler.bindOne pipeline statement position mapping) := by
        apply (Leaves.lift _).bind
        intro value
        apply Leaves.inContext
        apply (Leaves.lift _).bind
        intro converted
        exact Work.metered_onSource (meters.setParameter _ _ _)
      unfold bindFrom
      split
      · exact one.bind fun _ => ih _
      · exact ih _

theorem metered_registerFrom (statement : StatementId) (position : Nat)
    (mappings : List ParameterMapping) :
    Leaves (metered meter) (handler.registerFrom pipeline statement position mappings) := by
  induction mappings generalizing position with
  | nil => exact Leaves.pure _
  | cons mapping rest ih =>
      unfold registerFrom
      split
      · apply (Leaves.lift _).bind
        intro type
        exact (Work.metered_onSource (meters.registerOutput _ _ _)).bind fun _ => ih _
      · exact ih _

variable (plain : pipeline.Plain)

include plain

theorem metered_prepareInTransaction :
    Leaves (metered meter) (handler.prepareInTransaction pipeline) := by
  apply (Leaves.read _).bind
  intro executor
  have obtained : Leaves (metered meter)
      (Work.onTransaction (Transaction.obtain pipeline.source)) :=
    fun scene => meters.obtain (scene.source, scene.executor.transaction)
  apply obtained.bind
  intro connection
  rw [prepare, plain.call_eq]
  exact (Work.metered_onSource (meters.prepare _ _ _)).inContext _

theorem metered_parameterize (statement : StatementId) :
    Leaves (metered meter) (handler.parameterize pipeline statement) := by
  have set : Leaves (metered meter) (handler.setParameters pipeline statement) := by
    rw [setParameters, plain.call_eq]
    exact metered_bindFrom handler meters statement 1 _
  rw [parameterize, plain.call_eq]
  dsimp only [supply]
  split
  · exact Leaves.pure _
  · exact set
  · exact (metered_registerFrom handler meters statement 1 _).bind fun _ => set

theorem executes_query (statement : StatementId) :
    Work.Executes meter (handler.Maps latest) (handler.query pipeline statement) := by
  rw [query, plain.call_eq]
  intro n
  have asked : Meets (metered meter · = n) (Work.onSource (pipeline.source.query statement))
      (fun results scene => scene.metered meter = n + 1 ∧ latest scene.source = results)
      (fun _ => True) :=
    fun scene => meters.query statement n scene.source
  apply asked.bind
  intro results
  rw [mapResults, plain.call_eq]
  refine Meets.ofResult ?_ fun _ _ => trivial
  rintro rows mapped scene ⟨metered, rfl⟩
  exact ⟨metered, mapped⟩

end Handler

namespace Strategy

variable {pipeline : Pipeline σ} (meters : pipeline.source.Meters meter latest)

include meters

theorem executes_withStatement (statement : StatementId) {use : Work σ α} {holds : α → σ → Prop}
    (stays : ∀ a state, holds a state → holds a (pipeline.source.finishStatement statement state).2)
    (executes : Work.Executes meter holds use) :
    Work.Executes meter holds (withStatement pipeline statement use) := by
  intro n
  apply (executes n).attempt.bind
  intro result
  cases result with
  | error e => exact fun scene _ => ⟨fun a no => (by cases no), fun _ _ => trivial⟩
  | ok a =>
      -- an answer is given only if closing the statement went through too
      have finished : Meets
          (fun scene : Scene σ => scene.metered meter = n + 1 ∧ holds a scene.source)
          (Work.onSource (pipeline.source.finishStatement statement)).attempt
          (fun _ scene => scene.metered meter = n + 1 ∧ holds a scene.source) (fun _ => True) := by
        rintro scene ⟨metered, held⟩
        exact ⟨fun _ _ => ⟨(meters.finishStatement statement scene.source).trans metered,
          stays a _ held⟩, fun _ _ => trivial⟩
      refine Meets.weaken (finished.bind fun closed => ?_) (fun _ went => went.1 a rfl)
        (fun _ _ => id) fun _ => id
      intro scene held
      refine ⟨fun b done => ?_, fun _ _ => trivial⟩
      cases closed with
      | error e => cases done
      | ok =>
          obtain rfl : a = b := Except.ok.inj done
          exact held

theorem metered_hold (sql : String) (statement : StatementId) :
    Leaves (metered meter) (hold pipeline sql statement) := by
  apply (Leaves.read _).bind
  intro executor
  dsimp only
  split
  · apply (Work.metered_onSource (Leaves.modify (meters.dropStatement _))).bind
    exact fun _ => Work.metered_setStrategy _
  · exact Work.metered_setStrategy _

theorem metered_discardAll (pending : List PendingBatch) :
    Leaves meter (PendingBatch.discardAll pipeline.source pending) := by
  induction pending with
  | nil => exact Leaves.pure _
  | cons batch rest ih => exact (meters.finishStatement batch.statement).quietly.bind fun _ => ih

theorem metered_execute (batch : PendingBatch) :
    Leaves meter (PendingBatch.execute pipeline.source batch) := by
  apply (meters.executeBatch _).bind
  intro counts
  split
  · apply (meters.generatedKeys _).bind
    intro keys
    exact (Leaves.lift _).bind fun _ => Leaves.pure _
  · exact Leaves.pure _

theorem metered_executeAll (done : Nat) (pending : List PendingBatch) :
    Leaves meter (PendingBatch.executeAll pipeline.source done pending) := by
  induction pending generalizing done with
  | nil => exact Leaves.pure _
  | cons batch rest ih =>
      apply (metered_execute meters batch).attempt.bind
      intro executed
      apply (meters.finishStatement batch.statement).quietly.bind
      intro _
      split
      · exact (ih _).bind fun _ => Leaves.pure _
      · exact (metered_discardAll meters rest).bind fun _ => Leaves.throw _

theorem metered_flushPending (givingUp : Bool) :
    Leaves (metered meter) (flushPending pipeline givingUp) := by
  apply (Leaves.read _).bind
  intro executor
  apply (Work.metered_setStrategy _).bind
  intro _
  split
  · exact (Work.metered_onSource (metered_discardAll meters _)).bind fun _ => Leaves.pure _
  · exact Work.metered_onSource (metered_executeAll meters 0 _)

variable (plain : pipeline.Plain) (handler : Handler)

include plain

theorem executes_queryOnce :
    Work.Executes meter (handler.Maps latest) (queryOnce pipeline handler) := by
  refine .after_leaves (handler.metered_prepareInTransaction meters plain) fun statement => ?_
  refine executes_withStatement meters statement (fun rows state => ?_) ?_
  · have same := meters.latest_finish statement state
    rw [Handler.Maps, Handler.Maps, same]
    exact id
  exact .after_leaves (handler.metered_parameterize meters plain statement) fun _ =>
    handler.executes_query meters plain statement

theorem metered_obtainHeld : Leaves (metered meter) (obtainHeld pipeline handler) := by
  apply (Leaves.read _).bind
  intro executor
  apply Leaves.get.bind
  intro scene
  dsimp only
  split
  · exact (handler.metered_parameterize meters plain _).bind fun _ => Leaves.pure _
  · apply (handler.metered_prepareInTransaction meters plain).bind
    intro statement
    apply (metered_hold meters _ _).bind
    intro _
    exact (handler.metered_parameterize meters plain _).bind fun _ => Leaves.pure _

/-- However statements are run, a query that goes through was executed once, and answers what that
execution was answered. -/
theorem executes_query :
    Work.Executes meter (handler.Maps latest) (query pipeline handler) := by
  refine .after_leaves (Leaves.read _) fun executor => ?_
  split
  · exact executes_queryOnce meters plain handler
  · exact .after_leaves (metered_obtainHeld meters plain handler) fun statement =>
      handler.executes_query meters plain statement
  · exact .after_leaves (metered_flushPending meters false) fun _ =>
      executes_queryOnce meters plain handler

end Strategy

end MappedSql
