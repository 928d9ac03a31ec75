import MappedSql.Proofs.Database.Tracing
import MappedSql.Proofs.Execution.Proceeding

namespace MappedSql

def serving : List (Option Method) :=
  [some .update, some .query, some .queryCursor]

def flushing : List (Option Method) :=
  [some .query, some .queryCursor, some .flush, some .commit]

def releasing : List (Option Method) :=
  [some .update, some .query, some .queryCursor, some .runCursor, some .flush, some .commit,
    some .rollback, none]

def ending : List (Option Method) :=
  [some .rollback, none]

namespace Operation

def under : Operation → Option Method → Bool
  | connect _, parent => serving.contains parent
  | commit _, parent => parent == some .commit
  | rollback _, parent => ending.contains parent
  | closeConnection _, parent => parent == none
  | prepare _ _ _, parent => parent == some .prepare
  | setParameter _ _ _, parent => parent == some .setParameters
  | registerOutput _ _ _, parent => parent == some .parameterize
  | output _ _, parent => parent == some .readOutputs
  | clearParameters _, _ => false
  | update _, parent => parent == some .runUpdate
  | query _, parent => parent == some .runQuery
  | openRows _, parent => parent == some .runCursor
  | addBatch _, parent => parent == some .addBatch
  | executeBatch _, parent => flushing.contains parent
  | generatedKeys _, parent => parent == some .runUpdate || flushing.contains parent
  | closeStatement _, parent => releasing.contains parent
  | nextRow _, parent => parent == none
  | closeRows _, parent => parent == none

def leadsTo : Operation → Option Method
  | query _ => some .mapResults
  | openRows _ => some .mapCursor
  | _ => none

def aside : Operation → Bool
  | connect _ | commit _ | rollback _ | closeConnection _ | prepare _ _ _ => false
  | _ => true

theorem begins_of_aside {operation : Operation} (aside : operation.aside = true) :
    operation.begins = false := by
  cases operation <;> first | rfl | cases aside

theorem settles_of_aside {operation : Operation} (aside : operation.aside = true) :
    operation.settles = false := by
  cases operation <;> first | rfl | cases aside

theorem stays_of_aside {operation : Operation} (aside : operation.aside = true) :
    operation.isCloseConnection = false := by
  cases operation <;> first | rfl | cases aside

end Operation

/-- Whether a method calls another one. What maps results is called only behind the operation that it
takes the answer of, and the methods of an executor are called by none. -/
def Method.under : Method → Option Method → Bool
  | update, _ | query, _ | keyedQuery, _ | queryCursor, _ | flush, _ | commit, _ | rollback, _ => false
  | prepare, parent | parameterize, parent => serving.contains parent
  | addBatch, parent | runUpdate, parent => parent == some .update
  | runQuery, parent => parent == some .query
  | runCursor, parent => parent == some .queryCursor
  | setParameters, parent => parent == some .parameterize
  | mapResults, _ | mapCursor, _ => false
  | readOutputs, parent => parent == some .runUpdate

theorem Operation.stage_of_leadsTo {operation : Operation} {method : Method}
    (leads : operation.leadsTo = some method) : method.stage ≠ .executor := by
  cases operation <;> cases leads <;> decide

theorem Operation.place_of_commit {operation : Operation} {place : Option Method}
    (is : operation.isCommit = true) (belongs : operation.under place = true) :
    place = some .commit := by
  cases operation <;> first | exact eq_of_beq belongs | cases is

theorem Operation.place_of_closeConnection {operation : Operation} {place : Option Method}
    (is : operation.isCloseConnection = true) (belongs : operation.under place = true) :
    place = none := by
  cases operation <;> first | exact eq_of_beq belongs | cases is

theorem Operation.place_of_connect {operation : Operation} {place : Option Method}
    (is : operation.isConnect = true) (belongs : operation.under place = true) :
    serving.contains place = true := by
  cases operation <;> first | exact belongs | cases is

theorem Method.stage_of_under {method : Method} {parent : Option Method}
    (belongs : method.under parent = true) : method.stage ≠ .executor := by
  cases method <;> first | cases belongs | decide

theorem releasing_of_flushing {parent : Option Method} (flushes : flushing.contains parent = true) :
    releasing.contains parent = true := by
  simp only [flushing, List.contains_iff_mem, List.mem_cons, List.not_mem_nil, or_false] at flushes
  rcases flushes with rfl | rfl | rfl | rfl <;> rfl

theorem releasing_of_ending {parent : Option Method} (ends : ending.contains parent = true) :
    releasing.contains parent = true := by
  simp only [ending, List.contains_iff_mem, List.mem_cons, List.not_mem_nil, or_false] at ends
  rcases ends with rfl | rfl <;> rfl

def Pipeline.under {σ : Type} (pipeline : Pipeline σ) (chain : Chain σ) : Pipeline σ :=
  { pipeline with
    configuration := { pipeline.configuration with chain := chain }
    extra := [] }

/-- A property of actions within a method, or within none, where any chain stands around the methods that
they call. -/
structure Discipline {σ : Type} (pipeline : Pipeline σ) where
  Keeps : Option Method → {α : Type} → (Chain σ → Work σ α) → Prop
  ofResult : ∀ {parent α} (result : Except Error α), Keeps parent fun _ => Action.ofResult result
  bind : ∀ {parent α β} {act : Chain σ → Work σ α} {next : Chain σ → α → Work σ β},
    Keeps parent act → (∀ a, Keeps parent fun chain => next chain a) →
      Keeps parent fun chain => act chain >>= next chain
  attempt : ∀ {parent α} {act : Chain σ → Work σ α}, Keeps parent act →
    Keeps parent fun chain => (act chain).attempt
  quietly : ∀ {parent α} {act : Chain σ → Work σ α}, Keeps parent act →
    Keeps parent fun chain => (act chain).quietly
  inContext : ∀ {parent α} {act : Chain σ → Work σ α} (context : String), Keeps parent act →
    Keeps parent fun chain => (act chain).inContext context
  executor : ∀ {parent}, Keeps parent fun _ => Work.executor
  parameter : ∀ {parent}, Keeps parent fun _ => Work.parameter
  setParameter : ∀ {parent} (value : Value), Keeps parent fun _ => Work.setParameter value
  changeExecutor : ∀ {parent} {change : Executor → Executor},
    (∀ executor, (change executor).transaction = executor.transaction) →
      (∀ executor, (change executor).closed = executor.closed) →
        Keeps parent fun _ => Work.changeExecutor change
  lookUp : ∀ {parent} (id : String) (key : CacheKey),
    Keeps parent fun _ => Executor.Shared.lookUp id key
  openAmong : ∀ {parent} (kept : Option StatementId), Keeps parent fun _ =>
    Action.read fun scene => kept.filter fun st => !pipeline.source.isClosed scene.source st
  publish : ∀ {parent}, Keeps parent fun _ => Executor.Shared.publish
  prepares : ∀ {parent} (handler : Handler), serving.contains parent = true →
    Keeps parent fun chain => handler.prepareInTransaction (pipeline.under chain)
  commits : Keeps (some .commit) fun _ =>
    Work.onTransaction (Transaction.commit pipeline.source)
  rollsBack : ∀ {parent}, ending.contains parent = true →
    Keeps parent fun _ => Work.onTransaction (Transaction.rollback pipeline.source)
  asks : ∀ {parent} (operation : Operation), operation.under parent = true →
    operation.aside = true → operation.leadsTo = none →
      Keeps parent fun _ => Work.onSource (pipeline.source.ask operation)
  drops : ∀ {parent} (st : StatementId),
    Keeps parent fun _ => Work.onSource (modify (pipeline.source.dropStatement st))
  attach : ∀ (cursor : Cursor) (st : StatementId), Keeps (some .runCursor) fun _ =>
    Work.onSource (Action.beside cursor (Cursor.attachStatement pipeline.source st))
  call : ∀ {parent α} {shape : Shape α} {method : Method} {args : Args}
    {target : Chain σ → Args → Work σ α}, method.under parent = true → shape.Faithful →
      args.fit method = true → Keeps (some method) (fun chain => target chain args) →
        Keeps parent fun chain => (pipeline.under chain).call shape method args (target chain)
  leads : ∀ {parent α} (operation : Operation) (shape : Shape α) (method : Method)
    (args : operation.Answer → Args) (target : Chain σ → Args → Work σ α),
      operation.under parent = true → operation.leadsTo = some method → shape.Faithful →
        (∀ a, (args a).fit method = true) →
          (∀ a, Keeps (some method) fun chain => target chain (args a)) →
            Keeps parent fun chain => Work.onSource (pipeline.source.ask operation) >>= fun a =>
              (pipeline.under chain).call shape method (args a) (target chain)

namespace Discipline

variable {σ α β : Type} {pipeline : Pipeline σ} (discipline : Discipline pipeline)
  {parent : Option Method}

theorem pure (a : α) : discipline.Keeps parent fun _ => Pure.pure a :=
  discipline.ofResult (.ok a)

theorem throw (e : Error) : discipline.Keeps (α := α) parent fun _ => MonadExcept.throw e :=
  discipline.ofResult (.error e)

theorem lift (result : Except Error α) : discipline.Keeps parent fun _ => liftM result :=
  discipline.ofResult result

theorem setStrategy (strategy : Strategy) :
    discipline.Keeps parent fun _ => Work.setStrategy strategy :=
  discipline.changeExecutor (fun _ => rfl) fun _ => rfl

variable (handler : Handler) (statement : StatementId)

theorem keeps_bindOne (position : Nat) (mapping : ParameterMapping) :
    discipline.Keeps (some .setParameters) fun chain =>
      handler.bindOne (pipeline.under chain) statement position mapping := by
  refine discipline.bind (discipline.lift _) fun value => discipline.inContext _ ?_
  refine discipline.bind (discipline.lift _) fun converted => ?_
  exact discipline.asks (.setParameter statement position converted) rfl rfl rfl

theorem keeps_bindFrom (position : Nat) (mappings : List ParameterMapping) :
    discipline.Keeps (some .setParameters) fun chain =>
      handler.bindFrom (pipeline.under chain) statement position mappings := by
  induction mappings generalizing position with
  | nil => exact discipline.pure ()
  | cons mapping rest ih =>
      unfold Handler.bindFrom
      split
      · exact discipline.bind (discipline.keeps_bindOne handler statement position mapping)
          fun _ => ih _
      · exact ih _

theorem keeps_setParameters :
    discipline.Keeps (some .parameterize) fun chain =>
      handler.setParameters (pipeline.under chain) statement :=
  discipline.call rfl Shape.faithful_unit rfl
    (discipline.keeps_bindFrom handler statement 1 handler.bound.mappings)

theorem keeps_registerFrom (position : Nat) (mappings : List ParameterMapping) :
    discipline.Keeps (some .parameterize) fun chain =>
      handler.registerFrom (pipeline.under chain) statement position mappings := by
  induction mappings generalizing position with
  | nil => exact discipline.pure ()
  | cons mapping rest ih =>
      unfold Handler.registerFrom
      split
      · refine discipline.bind (discipline.lift _) fun type => ?_
        exact discipline.bind
          (discipline.asks (.registerOutput statement position (some type)) rfl rfl rfl) fun _ => ih _
      · exact ih _

theorem keeps_supply :
    discipline.Keeps (some .parameterize) fun chain =>
      handler.supply (pipeline.under chain) statement := by
  unfold Handler.supply
  split
  · exact discipline.pure ()
  · exact discipline.keeps_setParameters handler statement
  · exact discipline.bind (discipline.keeps_registerFrom handler statement 1 _) fun _ =>
      discipline.keeps_setParameters handler statement

theorem keeps_parameterize (serves : serving.contains parent = true) :
    discipline.Keeps parent fun chain => handler.parameterize (pipeline.under chain) statement :=
  discipline.call serves Shape.faithful_unit rfl (discipline.keeps_supply handler statement)

theorem keeps_addBatch :
    discipline.Keeps (some .update) fun chain =>
      Handler.addBatch (pipeline.under chain) statement :=
  discipline.call rfl Shape.faithful_unit rfl
    (discipline.asks (.addBatch statement) rfl rfl rfl)

theorem keeps_readFrom (position : Nat) (mappings : List ParameterMapping) :
    discipline.Keeps (some .readOutputs) fun chain =>
      Handler.readFrom (pipeline.under chain) statement position mappings := by
  induction mappings generalizing position with
  | nil => exact discipline.pure ()
  | cons mapping rest ih =>
      unfold Handler.readFrom
      split
      · refine discipline.bind
          (discipline.asks (.output statement position) rfl rfl rfl) fun value => ?_
        refine discipline.bind discipline.parameter fun parameter => ?_
        exact discipline.bind (discipline.lift _) fun written =>
          discipline.bind (discipline.setParameter written) fun _ => ih _
      · exact ih _

theorem keeps_readOutputs :
    discipline.Keeps (some .runUpdate) fun chain =>
      handler.readOutputs (pipeline.under chain) statement :=
  discipline.call rfl Shape.faithful_unit rfl
    (discipline.keeps_readFrom statement 1 handler.bound.mappings)

theorem keeps_assignKeys :
    discipline.Keeps (some .runUpdate) fun chain =>
      handler.assignKeys (pipeline.under chain) statement := by
  unfold Handler.assignKeys
  split
  · refine discipline.bind
      (discipline.asks (.generatedKeys statement) rfl rfl rfl) fun keys => ?_
    refine discipline.bind discipline.parameter fun parameter => ?_
    exact discipline.bind (discipline.setParameter _) fun _ => discipline.lift _
  · exact discipline.pure ()

theorem keeps_update :
    discipline.Keeps (some .update) fun chain =>
      handler.update (pipeline.under chain) statement := by
  refine discipline.call rfl Shape.faithful_count rfl ?_
  refine discipline.bind (discipline.asks (.update statement) rfl rfl rfl) fun count => ?_
  refine discipline.bind (discipline.keeps_assignKeys handler statement) fun _ => ?_
  split
  · exact discipline.bind (discipline.keeps_readOutputs handler statement) fun _ =>
      discipline.pure _
  · exact discipline.pure _

theorem keeps_query :
    discipline.Keeps (some .query) fun chain =>
      handler.query (pipeline.under chain) statement := by
  refine discipline.call rfl Shape.faithful_rows rfl ?_
  exact discipline.leads (.query statement) .rows .mapResults .resultSet _ rfl rfl Shape.faithful_rows
    (fun _ => rfl) fun results => discipline.lift _

variable {statement} in
theorem keeps_finish (releases : releasing.contains parent = true) :
    discipline.Keeps parent fun _ =>
      Work.onSource (pipeline.source.finishStatement statement) := by
  have closed := discipline.asks (.closeStatement statement) releases rfl rfl
  have finish : Work.onSource (pipeline.source.finishStatement statement) = (do
      let closed ← (Work.onSource (pipeline.source.closeStatement statement)).attempt
      Work.onSource (modify (pipeline.source.dropStatement statement))
      liftM closed : Work σ Unit) := rfl
  rw [finish]
  exact discipline.bind (discipline.attempt closed) fun _ =>
    discipline.bind (discipline.drops statement) fun _ => discipline.lift _

theorem keeps_queryCursor :
    discipline.Keeps (some .queryCursor) fun chain =>
      handler.queryCursor (pipeline.under chain) statement := by
  refine discipline.call rfl Shape.faithful_cursor rfl ?_
  have opened : discipline.Keeps (some .runCursor) fun chain =>
      Work.onSource (pipeline.source.openRows statement) >>= fun rows =>
        handler.mapCursor (pipeline.under chain) rows :=
    discipline.leads (.openRows statement) .cursor .mapCursor .rowSource _ rfl rfl
      Shape.faithful_cursor (fun _ => rfl) fun rows => discipline.pure _
  refine discipline.bind (discipline.attempt opened) fun
    | .ok cursor => ?_
    | .error e => ?_
  · exact discipline.bind (discipline.attach cursor statement) fun _ => discipline.pure _
  · exact discipline.bind (discipline.quietly (discipline.keeps_finish rfl)) fun _ =>
      discipline.throw e

theorem keeps_closeQuietly (releases : releasing.contains parent = true) :
    discipline.Keeps parent fun chain =>
      Strategy.closeQuietly (pipeline.under chain) statement :=
  discipline.quietly (discipline.keeps_finish releases)

variable {statement} in
theorem keeps_withStatement (releases : releasing.contains parent = true)
    {use : Chain σ → Work σ α} (used : discipline.Keeps parent use) :
    discipline.Keeps parent fun chain =>
      Strategy.withStatement (pipeline.under chain) statement (use chain) :=
  discipline.bind (discipline.attempt used) fun _ =>
    discipline.bind (discipline.attempt (discipline.keeps_finish releases)) fun _ =>
      discipline.bind (discipline.lift _) fun _ =>
        discipline.bind (discipline.lift _) fun _ => discipline.pure _

theorem keeps_updateOnce :
    discipline.Keeps (some .update) fun chain =>
      Strategy.updateOnce (pipeline.under chain) handler :=
  discipline.bind (discipline.prepares handler rfl) fun statement =>
    discipline.keeps_withStatement rfl
      (discipline.bind (discipline.keeps_parameterize handler statement rfl) fun _ =>
        discipline.keeps_update handler statement)

theorem keeps_queryOnce :
    discipline.Keeps (some .query) fun chain =>
      Strategy.queryOnce (pipeline.under chain) handler :=
  discipline.bind (discipline.prepares handler rfl) fun statement =>
    discipline.keeps_withStatement rfl
      (discipline.bind (discipline.keeps_parameterize handler statement rfl) fun _ =>
        discipline.keeps_query handler statement)

theorem keeps_openOnce :
    discipline.Keeps (some .queryCursor) fun chain =>
      Strategy.openOnce (pipeline.under chain) handler := by
  refine discipline.bind (discipline.prepares handler rfl) fun statement => ?_
  refine discipline.bind
    (discipline.attempt (discipline.keeps_parameterize handler statement rfl)) fun
    | .ok () => discipline.keeps_queryCursor handler statement
    | .error e => ?_
  exact discipline.bind (discipline.keeps_closeQuietly statement rfl) fun _ => discipline.throw e

theorem keeps_hold (sql : String) :
    discipline.Keeps parent fun chain =>
      Strategy.hold (pipeline.under chain) sql statement := by
  refine discipline.bind discipline.executor fun executor => ?_
  dsimp only
  split
  · exact discipline.bind (discipline.drops _) fun _ => discipline.setStrategy _
  · exact discipline.setStrategy _

theorem obtainHeld_eq :
    Strategy.obtainHeld pipeline handler = (do
      let executor ← Work.executor
      let kept ← Action.read fun scene : Scene σ =>
        (executor.strategy.held.lookup handler.bound.sql).filter fun st =>
          !pipeline.source.isClosed scene.source st
      match kept with
      | some statement =>
          handler.parameterize pipeline statement
          return statement
      | none =>
          let statement ← handler.prepareInTransaction pipeline
          Strategy.hold pipeline handler.bound.sql statement
          handler.parameterize pipeline statement
          return statement) :=
  rfl

theorem keeps_obtainHeld (serves : serving.contains parent = true) :
    discipline.Keeps parent fun chain =>
      Strategy.obtainHeld (pipeline.under chain) handler := by
  simp only [obtainHeld_eq]
  refine discipline.bind discipline.executor fun executor => ?_
  refine discipline.bind (discipline.openAmong _) fun
    | some statement => ?_
    | none => ?_
  · exact discipline.bind (discipline.keeps_parameterize handler statement serves) fun _ =>
      discipline.pure _
  · exact discipline.bind (discipline.prepares handler serves) fun statement =>
      discipline.bind (discipline.keeps_hold statement _) fun _ =>
        discipline.bind (discipline.keeps_parameterize handler statement serves) fun _ =>
          discipline.pure _

theorem keeps_openHeld :
    discipline.Keeps (some .queryCursor) fun chain =>
      Strategy.openHeld (pipeline.under chain) handler :=
  discipline.bind (discipline.keeps_obtainHeld handler rfl) fun statement =>
    discipline.bind discipline.executor fun _ =>
      discipline.bind (discipline.setStrategy _) fun _ =>
        discipline.keeps_queryCursor handler statement

theorem keeps_closeHeld (releases : releasing.contains parent = true)
    (held : List (String × StatementId)) :
    discipline.Keeps parent fun chain => Strategy.closeHeld (pipeline.under chain) held := by
  induction held with
  | nil => exact discipline.pure ()
  | cons link rest ih =>
      exact discipline.bind (discipline.keeps_closeQuietly link.2 releases) fun _ => ih

theorem keeps_appendUpdate (earlier : List PendingBatch) (last : PendingBatch)
    (target : String × String) :
    discipline.Keeps (some .update) fun chain =>
      Strategy.appendUpdate (pipeline.under chain) handler earlier last target :=
  discipline.bind (discipline.keeps_parameterize handler last.statement rfl) fun _ =>
    discipline.bind (discipline.keeps_addBatch last.statement) fun _ =>
      discipline.bind discipline.parameter fun _ => discipline.setStrategy _

theorem keeps_startBatch (pending : List PendingBatch) (target : String × String) :
    discipline.Keeps (some .update) fun chain =>
      Strategy.startBatch (pipeline.under chain) handler pending target := by
  refine discipline.bind (discipline.prepares handler rfl) fun statement => ?_
  have queued := discipline.bind (discipline.keeps_parameterize handler statement rfl) fun _ =>
    discipline.keeps_addBatch statement
  refine discipline.bind (discipline.attempt queued) fun
    | .error e => ?_
    | .ok () => ?_
  · exact discipline.bind (discipline.keeps_closeQuietly statement rfl) fun _ =>
      discipline.throw e
  · exact discipline.bind discipline.parameter fun _ => discipline.setStrategy _

theorem keeps_queueUpdate :
    discipline.Keeps (some .update) fun chain =>
      Strategy.queueUpdate (pipeline.under chain) handler := by
  refine discipline.bind discipline.executor fun executor => ?_
  dsimp only
  split
  · split
    · exact discipline.bind (discipline.keeps_appendUpdate handler _ _ _) fun _ =>
        discipline.pure _
    · exact discipline.bind (discipline.keeps_startBatch handler _ _) fun _ => discipline.pure _
  · exact discipline.bind (discipline.keeps_startBatch handler _ _) fun _ => discipline.pure _

theorem keeps_discardAll (releases : releasing.contains parent = true)
    (pending : List PendingBatch) :
    discipline.Keeps parent fun _ =>
      Work.onSource (PendingBatch.discardAll pipeline.source pending) := by
  induction pending with
  | nil => exact discipline.pure ()
  | cons batch rest ih =>
      unfold PendingBatch.discardAll
      rw [Work.onSource_bind]
      exact discipline.bind (discipline.quietly (discipline.keeps_finish releases)) fun _ => ih

theorem keeps_execute (flushes : flushing.contains parent = true) (batch : PendingBatch) :
    discipline.Keeps parent fun _ =>
      Work.onSource (PendingBatch.execute pipeline.source batch) := by
  unfold PendingBatch.execute
  rw [Work.onSource_bind]
  refine discipline.bind
    (discipline.asks (.executeBatch batch.statement) flushes rfl rfl) fun counts => ?_
  split
  · have keyed : (Operation.generatedKeys batch.statement).under parent = true := by
      simp only [Operation.under, flushes, Bool.or_true]
    rw [Work.onSource_bind]
    refine discipline.bind (discipline.asks _ keyed rfl rfl) fun keys => ?_
    rw [Work.onSource_bind]
    exact discipline.bind (discipline.lift _) fun _ => discipline.pure _
  · exact discipline.pure _

theorem keeps_executeAll (flushes : flushing.contains parent = true) (done : Nat)
    (pending : List PendingBatch) :
    discipline.Keeps parent fun _ =>
      Work.onSource (PendingBatch.executeAll pipeline.source done pending) := by
  have releases := releasing_of_flushing flushes
  induction pending generalizing done with
  | nil => exact discipline.pure []
  | cons batch rest ih =>
      unfold PendingBatch.executeAll
      rw [Work.onSource_bind]
      refine discipline.bind (discipline.attempt (discipline.keeps_execute flushes batch))
        fun executed => ?_
      rw [Work.onSource_bind]
      refine discipline.bind (discipline.quietly (discipline.keeps_finish releases)) fun _ => ?_
      cases executed with
      | ok result =>
          dsimp only
          rw [Work.onSource_bind]
          exact discipline.bind (ih (done + 1)) fun _ => discipline.pure _
      | error e =>
          dsimp only
          rw [Work.onSource_bind]
          exact discipline.bind (discipline.keeps_discardAll releases rest) fun _ =>
            discipline.throw _

theorem keeps_executePending (flushes : flushing.contains parent = true) :
    discipline.Keeps parent fun chain => Strategy.flushPending (pipeline.under chain) false :=
  discipline.bind discipline.executor fun _ => discipline.bind (discipline.setStrategy _) fun _ =>
    discipline.keeps_executeAll flushes 0 _

theorem keeps_flush (flushes : flushing.contains parent = true) :
    discipline.Keeps parent fun chain => Strategy.flush (pipeline.under chain) false := by
  have releases := releasing_of_flushing flushes
  refine discipline.bind discipline.executor fun executor => ?_
  split
  · exact discipline.pure _
  · exact discipline.bind (discipline.setStrategy _) fun _ =>
      discipline.bind (discipline.keeps_closeHeld releases _) fun _ => discipline.pure _
  · exact discipline.keeps_executePending flushes

theorem keeps_giveUp (releases : releasing.contains parent = true) :
    discipline.Keeps parent fun chain => Strategy.flush (pipeline.under chain) true := by
  refine discipline.bind discipline.executor fun executor => ?_
  split
  · exact discipline.pure _
  · exact discipline.bind (discipline.setStrategy _) fun _ =>
      discipline.bind (discipline.keeps_closeHeld releases _) fun _ => discipline.pure _
  · exact discipline.bind discipline.executor fun _ =>
      discipline.bind (discipline.setStrategy _) fun _ =>
        discipline.bind (discipline.keeps_discardAll releases _) fun _ => discipline.pure _

theorem keeps_runUpdate (statement : MappedStatement) :
    discipline.Keeps (some .update) fun chain =>
      Strategy.update (pipeline.under chain) statement := by
  refine discipline.bind (discipline.bind discipline.parameter fun parameter =>
    discipline.bind (discipline.lift (statement.boundSql parameter pipeline.setting)) fun _ =>
      discipline.pure _) fun handler => ?_
  refine discipline.bind discipline.executor fun executor => ?_
  split
  · exact discipline.keeps_updateOnce handler
  · exact discipline.bind (discipline.keeps_obtainHeld handler rfl) fun statement =>
      discipline.keeps_update handler statement
  · exact discipline.keeps_queueUpdate handler

theorem keeps_runQuery :
    discipline.Keeps (some .query) fun chain =>
      Strategy.query (pipeline.under chain) handler := by
  refine discipline.bind discipline.executor fun executor => ?_
  split
  · exact discipline.keeps_queryOnce handler
  · exact discipline.bind (discipline.keeps_obtainHeld handler rfl) fun statement =>
      discipline.keeps_query handler statement
  · exact discipline.bind (discipline.keeps_executePending rfl) fun _ =>
      discipline.keeps_queryOnce handler

theorem keeps_openCursor :
    discipline.Keeps (some .queryCursor) fun chain =>
      Strategy.openCursor (pipeline.under chain) handler := by
  refine discipline.bind discipline.executor fun executor => ?_
  split
  · exact discipline.keeps_openOnce handler
  · exact discipline.keeps_openHeld handler
  · exact discipline.bind (discipline.keeps_executePending rfl) fun _ =>
      discipline.keeps_openOnce handler

theorem ensureOpen : discipline.Keeps parent fun _ => Executor.ensureOpen := by
  refine discipline.bind discipline.executor fun executor => ?_
  split
  · exact discipline.throw _
  · exact discipline.pure _

theorem clearLocal : discipline.Keeps parent fun _ => Executor.clearLocal :=
  discipline.changeExecutor (fun executor => by split <;> rfl) fun executor => by split <;> rfl

theorem setStaging (staging : Staging) :
    discipline.Keeps parent fun _ => Executor.Shared.setStaging staging :=
  discipline.changeExecutor (fun _ => rfl) fun _ => rfl

theorem flushIfRequired (statement : MappedStatement) :
    discipline.Keeps parent fun _ => Executor.Shared.flushIfRequired statement := by
  unfold Executor.Shared.flushIfRequired
  split
  · split
    · exact discipline.bind discipline.executor fun _ => discipline.setStaging _
    · exact discipline.pure ()
  · exact discipline.pure ()

theorem choose {shared unshared : Chain σ → Work σ α} (left : discipline.Keeps parent shared)
    (right : discipline.Keeps parent unshared) :
    discipline.Keeps parent fun chain =>
      Executor.choose (pipeline.under chain) (shared chain) (unshared chain) := by
  cases cached : pipeline.configuration.settings.cacheEnabled with
  | true =>
      have chosen : ∀ chain, Executor.choose (pipeline.under chain) (shared chain)
          (unshared chain) = shared chain := fun chain => if_pos cached
      simpa only [chosen] using left
  | false =>
      have chosen : ∀ chain, Executor.choose (pipeline.under chain) (shared chain)
          (unshared chain) = unshared chain := fun chain => if_neg (by simp [Pipeline.under, cached])
      simpa only [chosen] using right

theorem keeps_localUpdate (statement : MappedStatement) :
    discipline.Keeps (some .update) fun chain =>
      Executor.Local.update (pipeline.under chain) statement :=
  discipline.bind discipline.ensureOpen fun _ =>
    discipline.bind discipline.clearLocal fun _ => discipline.keeps_runUpdate statement

theorem keeps_answerUpdate (statement : MappedStatement) :
    discipline.Keeps (some .update) fun chain =>
      Executor.choose (pipeline.under chain) (Executor.Shared.update (pipeline.under chain) statement)
        (Executor.Local.update (pipeline.under chain) statement) :=
  discipline.choose (discipline.bind (discipline.flushIfRequired statement) fun _ =>
    discipline.keeps_localUpdate statement) (discipline.keeps_localUpdate statement)

theorem keeps_localRows (statement : MappedStatement) (bounds : RowBounds) (key : CacheKey)
    (bound : BoundSql) :
    discipline.Keeps (some .query) fun chain =>
      Executor.Local.rowsFor (pipeline.under chain) statement bounds key bound := by
  refine discipline.bind discipline.executor fun executor => ?_
  split
  · exact discipline.pure _
  · refine discipline.bind (discipline.keeps_runQuery _) fun rows => ?_
    exact discipline.bind (discipline.changeExecutor (fun _ => rfl) fun _ => rfl) fun _ =>
      discipline.pure _

theorem keeps_localQuery (statement : MappedStatement) (bounds : RowBounds) (key : CacheKey)
    (bound : BoundSql) :
    discipline.Keeps (some .query) fun chain =>
      Executor.Local.keyedQuery (pipeline.under chain) statement bounds key bound := by
  have answered : discipline.Keeps (some .query) fun chain => (do
      let result ← (Executor.Local.rowsFor (pipeline.under chain) statement bounds key bound).attempt
      if pipeline.configuration.settings.localScope = .statement then Executor.clearLocal
      liftM result : Work σ (List Value)) := by
    refine discipline.bind
      (discipline.attempt (discipline.keeps_localRows statement bounds key bound)) fun result => ?_
    split
    · exact discipline.bind discipline.clearLocal fun _ => discipline.lift _
    · exact discipline.lift _
  refine discipline.bind discipline.ensureOpen fun _ => ?_
  split
  · exact discipline.bind discipline.clearLocal fun _ => answered
  · exact answered

theorem keeps_sharedRows (statement : MappedStatement) (bounds : RowBounds) (key : CacheKey)
    (bound : BoundSql) (id : String) :
    discipline.Keeps (some .query) fun chain =>
      Executor.Shared.rowsFor (pipeline.under chain) statement bounds key bound id := by
  refine discipline.bind (discipline.lookUp id key) fun found => ?_
  split
  · exact discipline.pure _
  · exact discipline.bind (discipline.keeps_localQuery statement bounds key bound) fun _ =>
      discipline.bind discipline.executor fun _ =>
        discipline.bind (discipline.setStaging _) fun _ => discipline.pure _

theorem keeps_sharedQuery (statement : MappedStatement) (bounds : RowBounds) (key : CacheKey)
    (bound : BoundSql) :
    discipline.Keeps (some .query) fun chain =>
      Executor.Shared.keyedQuery (pipeline.under chain) statement bounds key bound := by
  unfold Executor.Shared.keyedQuery
  split
  · exact discipline.keeps_localQuery statement bounds key bound
  · next id _ =>
      have flushed : discipline.Keeps (some .query) fun _ =>
          Executor.Shared.flushIfRequired statement :=
        discipline.flushIfRequired statement
      split
      · exact discipline.bind (discipline.lift _) fun _ => discipline.bind flushed fun _ =>
          discipline.keeps_sharedRows statement bounds key bound id
      · exact discipline.bind flushed fun _ =>
          discipline.keeps_localQuery statement bounds key bound

theorem keeps_answerQuery (statement : MappedStatement) (parameter : Value)
    (bounds : RowBounds) :
    discipline.Keeps (some .query) fun chain => (do
      let bound ← statement.boundSql parameter (pipeline.under chain).setting
      let key ← Executor.cacheKey (pipeline.under chain) statement bounds bound
      Executor.answerKeyed (pipeline.under chain) statement bounds key bound : Work σ _) := by
  refine discipline.bind
    (discipline.lift (statement.boundSql parameter pipeline.setting)) fun bound => ?_
  refine discipline.bind (discipline.bind discipline.ensureOpen fun _ =>
    discipline.lift (Executor.keyOf pipeline.configuration.databaseId statement bounds bound))
    fun key => ?_
  exact discipline.choose (discipline.keeps_sharedQuery statement bounds key bound)
    (discipline.keeps_localQuery statement bounds key bound)

theorem keeps_localCursor (statement : MappedStatement) (parameter : Value)
    (bounds : RowBounds) :
    discipline.Keeps (some .queryCursor) fun chain =>
      Executor.Local.queryCursor (pipeline.under chain) statement parameter bounds :=
  discipline.bind discipline.ensureOpen fun _ =>
    discipline.bind (discipline.lift (statement.boundSql parameter pipeline.setting)) fun _ =>
      discipline.keeps_openCursor _

theorem keeps_answerCursor (statement : MappedStatement) (parameter : Value)
    (bounds : RowBounds) :
    discipline.Keeps (some .queryCursor) fun chain =>
      Executor.choose (pipeline.under chain)
        (Executor.Shared.queryCursor (pipeline.under chain) statement parameter bounds)
        (Executor.Local.queryCursor (pipeline.under chain) statement parameter bounds) :=
  discipline.choose (discipline.bind (discipline.flushIfRequired statement) fun _ =>
    discipline.keeps_localCursor statement parameter bounds)
    (discipline.keeps_localCursor statement parameter bounds)

theorem keeps_localFlush (flushes : flushing.contains parent = true) :
    discipline.Keeps parent fun chain => Executor.Local.flush (pipeline.under chain) :=
  discipline.bind discipline.ensureOpen fun _ => discipline.keeps_flush flushes

theorem keeps_localSettle (flushes : flushing.contains parent = true) :
    discipline.Keeps parent fun chain => Executor.Local.commit (pipeline.under chain) false := by
  refine discipline.bind discipline.executor fun executor => ?_
  have flushed := discipline.bind discipline.clearLocal fun _ =>
    discipline.bind (discipline.keeps_localFlush flushes) fun _ => discipline.pure ()
  dsimp only
  split
  · exact discipline.bind (discipline.throw _) fun _ => flushed
  · exact flushed

theorem keeps_localCommit (required : Bool) :
    discipline.Keeps (some .commit) fun chain =>
      Executor.Local.commit (pipeline.under chain) required := by
  cases required with
  | false => exact discipline.keeps_localSettle rfl
  | true =>
      refine discipline.bind discipline.executor fun executor => ?_
      have committed := discipline.bind discipline.clearLocal fun _ =>
        discipline.bind (discipline.keeps_localFlush rfl) fun _ => discipline.commits
      dsimp only
      split
      · exact discipline.bind (discipline.throw _) fun _ => committed
      · exact committed

theorem keeps_answerSettle :
    discipline.Keeps (some .flush) fun chain =>
      Executor.choose (pipeline.under chain) (Executor.Shared.commit (pipeline.under chain) false)
        (Executor.Local.commit (pipeline.under chain) false) :=
  discipline.choose (discipline.bind (discipline.keeps_localSettle rfl) fun _ =>
    discipline.publish) (discipline.keeps_localSettle rfl)

theorem keeps_answerCommit (required : Bool) :
    discipline.Keeps (some .commit) fun chain =>
      Executor.choose (pipeline.under chain)
        (Executor.Shared.commit (pipeline.under chain) required)
        (Executor.Local.commit (pipeline.under chain) required) :=
  discipline.choose (discipline.bind (discipline.keeps_localCommit required) fun _ =>
    discipline.publish) (discipline.keeps_localCommit required)

theorem keeps_localRollback (ends : ending.contains parent = true) (required : Bool) :
    discipline.Keeps parent fun chain =>
      Executor.Local.rollback (pipeline.under chain) required := by
  have releases := releasing_of_ending ends
  refine discipline.bind discipline.executor fun executor => ?_
  split
  · exact discipline.pure ()
  · refine discipline.bind discipline.clearLocal fun _ => ?_
    refine discipline.bind (discipline.attempt (discipline.keeps_giveUp releases)) fun flushed => ?_
    have answered : discipline.Keeps parent fun _ => (do let _ ← flushed : Work σ Unit) :=
      discipline.bind (discipline.lift _) fun _ => discipline.pure ()
    split
    · exact discipline.bind (discipline.rollsBack ends) fun _ => answered
    · exact answered

theorem keeps_answerRollback (required : Bool) :
    discipline.Keeps (some .rollback) fun chain =>
      Executor.choose (pipeline.under chain)
        (Executor.Shared.rollback (pipeline.under chain) required)
        (Executor.Local.rollback (pipeline.under chain) required) := by
  have locally : discipline.Keeps (some .rollback) fun chain =>
      Executor.Local.rollback (pipeline.under chain) required :=
    discipline.keeps_localRollback rfl required
  exact discipline.choose (discipline.bind (discipline.attempt locally) fun _ =>
    discipline.bind (discipline.setStaging []) fun _ => discipline.lift _) locally

end Discipline

end MappedSql
