import MappedSql.Execution.Executor
import MappedSql.Proofs.Triple

namespace MappedSql

variable {σ α β : Type}

theorem Work.lift_apply (result : Except Error α) (scene : Scene σ) :
    (liftM result : Work σ α) scene = (result, scene) :=
  rfl

theorem Work.executor_apply (scene : Scene σ) :
    Work.executor scene = (.ok scene.executor, scene) :=
  rfl

theorem Work.onSource_bind (act : Action σ α) (next : α → Action σ β) :
    Work.onSource (act >>= next) = Work.onSource act >>= fun a => Work.onSource (next a) := by
  funext scene
  rw [Action.bind_apply]
  unfold Work.onSource Action.within
  rw [Action.bind_apply]
  rcases act scene.source with ⟨e | a, after⟩ <;> rfl

structure Scene.SameCaches (before after : Scene σ) : Prop where
  shared : after.shared = before.shared
  staging : after.executor.staging = before.executor.staging
  localCache : after.executor.localCache = before.executor.localCache
  closed : after.executor.closed = before.executor.closed

theorem Scene.SameCaches.refl (scene : Scene σ) : scene.SameCaches scene :=
  ⟨rfl, rfl, rfl, rfl⟩

theorem Scene.SameCaches.trans {first second third : Scene σ} (left : first.SameCaches second)
    (right : second.SameCaches third) : first.SameCaches third :=
  ⟨right.shared.trans left.shared, right.staging.trans left.staging,
    right.localCache.trans left.localCache, right.closed.trans left.closed⟩

def Work.Frames (act : Work σ α) : Prop :=
  ∀ scene : Scene σ, scene.SameCaches (act scene).2

namespace Work.Frames

theorem bind {act : Work σ α} {next : α → Work σ β} (first : Frames act)
    (second : ∀ a, Frames (next a)) : Frames (act >>= next) :=
  Action.related_bind Scene.SameCaches Scene.SameCaches.trans first second

theorem pure (a : α) : Frames (Pure.pure a : Work σ α) :=
  Scene.SameCaches.refl

theorem throw (e : Error) : Frames (MonadExcept.throw e : Work σ α) :=
  Scene.SameCaches.refl

theorem ofResult (result : Except Error α) : Frames (liftM result : Work σ α) :=
  Scene.SameCaches.refl

theorem get : Frames (MonadState.get : Work σ (Scene σ)) :=
  Scene.SameCaches.refl

theorem executor : Frames (Work.executor : Work σ Executor) :=
  Scene.SameCaches.refl

theorem parameter : Frames (Work.parameter : Work σ Value) :=
  Scene.SameCaches.refl

theorem setParameter (value : Value) : Frames (Work.setParameter value : Work σ Unit) :=
  fun _ => ⟨rfl, rfl, rfl, rfl⟩

theorem setStrategy (strategy : Strategy) : Frames (Work.setStrategy strategy : Work σ Unit) :=
  fun _ => ⟨rfl, rfl, rfl, rfl⟩

theorem map {act : Work σ α} (frames : Frames act) (f : α → β) : Frames (f <$> act) :=
  frames.bind fun a => pure (f a)

theorem onSource (act : Action σ α) : Frames (Work.onSource act) :=
  fun _ => ⟨rfl, rfl, rfl, rfl⟩

theorem onTransaction (act : Action (σ × Transaction) α) : Frames (Work.onTransaction act) :=
  fun _ => ⟨rfl, rfl, rfl, rfl⟩

theorem attempt {act : Work σ α} (frames : Frames act) : Frames act.attempt :=
  frames

theorem quietly {act : Work σ α} (frames : Frames act) : Frames act.quietly :=
  frames

theorem inContext {act : Work σ α} (frames : Frames act) (context : String) :
    Frames (act.inContext context) :=
  frames

end Work.Frames

open Work (Frames)

/-- Between being called and answering, the interceptor reaches the caches only by proceeding. -/
def Interceptor.Framed (interceptor : Interceptor σ) : Prop :=
  ∀ (method : Method) (args : Args) (proceed : Args → Work σ Outcome),
    (∀ args, Frames (proceed args)) → Frames (interceptor.intercept method args proceed)

namespace Chain

variable {source : DataSource σ} {shape : Shape α} {method : Method} {target : Args → Work σ α}

theorem frames_refuse (method : Method) (args : Args) :
    Frames (refuse source method args : Work σ α) :=
  (Frames.onSource _).bind fun _ => Frames.throw _

theorem frames_accept (outcome : Outcome) : Frames (accept source shape outcome) := by
  unfold accept
  split
  · exact Frames.pure _
  · exact (Frames.onSource _).bind fun _ => Frames.throw _

theorem frames_wrap {registration : Registration σ} (framed : registration.interceptor.Framed)
    (frames : ∀ args, Frames (target args)) (args : Args) :
    Frames (wrap source shape method target registration args) := by
  unfold wrap
  split
  · refine (framed method args _ fun args => ?_).bind fun outcome => frames_accept outcome
    unfold proceed
    split
    · exact (frames args).map _
    · exact frames_refuse method args
  · exact frames args

theorem frames_around {chain : Chain σ}
    (framed : ∀ registration ∈ chain, registration.interceptor.Framed)
    (frames : ∀ args, Frames (target args)) (args : Args) :
    Frames (around source chain shape method target args) := by
  induction chain generalizing target with
  | nil => exact frames args
  | cons registration rest ih =>
      exact ih (fun other mem => framed other (List.mem_cons_of_mem _ mem))
        (frames_wrap (framed registration List.mem_cons_self) frames)

end Chain

/-- All interceptors around the calls of a unit of work are framed. -/
structure Pipeline.Framed (pipeline : Pipeline σ) : Prop where
  chain : ∀ registration ∈ pipeline.configuration.chain, registration.interceptor.Framed
  extra : ∀ registration ∈ pipeline.extra, registration.interceptor.Framed

theorem Pipeline.Framed.call {pipeline : Pipeline σ} (framed : pipeline.Framed) {shape : Shape α}
    {method : Method} {args : Args} {target : Args → Work σ α}
    (frames : ∀ args, Frames (target args)) : Frames (pipeline.call shape method args target) := by
  refine Chain.frames_around (fun registration mem => ?_) frames args
  unfold Pipeline.chain at mem
  split at mem
  · exact (List.mem_append.1 mem).elim (framed.chain registration) (framed.extra registration)
  · exact framed.chain registration mem

/-- No interceptors stand around the calls of a unit of work. -/
structure Pipeline.Plain (pipeline : Pipeline σ) : Prop where
  chain : pipeline.configuration.chain = []
  extra : pipeline.extra = []

theorem Pipeline.Plain.call_eq {pipeline : Pipeline σ} (plain : pipeline.Plain) (shape : Shape α)
    (method : Method) (args : Args) (target : Args → Work σ α) :
    pipeline.call shape method args target = target args := by
  have none : pipeline.chain method.stage = [] := by
    unfold Pipeline.chain
    split <;> simp [plain.chain, plain.extra]
  rw [Pipeline.call, none]
  rfl

theorem Pipeline.Plain.framed {pipeline : Pipeline σ} (plain : pipeline.Plain) :
    pipeline.Framed where
  chain := by simp [plain.chain]
  extra := by simp [plain.extra]

namespace Handler

variable {pipeline : Pipeline σ} (handler : Handler)

theorem frames_bindOne (statement : StatementId) (position : Nat) (mapping : ParameterMapping) :
    Frames (handler.bindOne pipeline statement position mapping) := by
  unfold bindOne
  refine (Frames.ofResult _).bind fun value => Frames.inContext ?_ _
  exact (Frames.ofResult _).bind fun converted => Frames.onSource _

theorem frames_bindFrom (statement : StatementId) (position : Nat)
    (mappings : List ParameterMapping) :
    Frames (handler.bindFrom pipeline statement position mappings) := by
  induction mappings generalizing position with
  | nil => exact Frames.pure ()
  | cons mapping rest ih =>
      unfold bindFrom
      split
      · exact (frames_bindOne handler _ _ _).bind fun _ => ih _
      · exact ih _

theorem frames_registerFrom (statement : StatementId) (position : Nat)
    (mappings : List ParameterMapping) :
    Frames (handler.registerFrom pipeline statement position mappings) := by
  induction mappings generalizing position with
  | nil => exact Frames.pure ()
  | cons mapping rest ih =>
      unfold registerFrom
      split
      · refine (Frames.ofResult _).bind fun type => ?_
        exact (Frames.onSource _).bind fun _ => ih _
      · exact ih _

theorem frames_readFrom (statement : StatementId) (position : Nat)
    (mappings : List ParameterMapping) :
    Frames (readFrom pipeline statement position mappings) := by
  induction mappings generalizing position with
  | nil => exact Frames.pure ()
  | cons mapping rest ih =>
      unfold readFrom
      split
      · refine (Frames.onSource _).bind fun value => ?_
        refine Frames.parameter.bind fun current => (Frames.ofResult _).bind fun changed => ?_
        exact (Frames.setParameter _).bind fun _ => ih _
      · exact ih _

theorem frames_assignKeys (statement : StatementId) :
    Frames (handler.assignKeys pipeline statement) := by
  unfold assignKeys
  split
  · refine (Frames.onSource _).bind fun keys => Frames.parameter.bind fun current => ?_
    exact (Frames.setParameter _).bind fun _ => Frames.ofResult _
  · exact Frames.pure ()

variable (framed : pipeline.Framed)

include framed

theorem frames_prepareInTransaction : Frames (handler.prepareInTransaction pipeline) := by
  refine Frames.executor.bind fun current => (Frames.onTransaction _).bind fun connection => ?_
  refine framed.call fun args => ?_
  split
  · exact (Frames.onSource _).inContext _
  · exact Chain.frames_refuse _ _

theorem frames_setParameters (statement : StatementId) :
    Frames (handler.setParameters pipeline statement) := by
  refine framed.call fun args => ?_
  split
  · exact frames_bindFrom handler _ _ _
  · exact Chain.frames_refuse _ _

theorem frames_supply (statement : StatementId) : Frames (handler.supply pipeline statement) := by
  unfold supply
  split
  · exact Frames.pure ()
  · exact frames_setParameters handler framed statement
  · exact (frames_registerFrom handler _ _ _).bind fun _ =>
      frames_setParameters handler framed statement

theorem frames_parameterize (statement : StatementId) :
    Frames (handler.parameterize pipeline statement) := by
  refine framed.call fun args => ?_
  split
  · exact frames_supply handler framed _
  · exact Chain.frames_refuse _ _

theorem frames_addBatch (statement : StatementId) : Frames (addBatch pipeline statement) := by
  refine framed.call fun args => ?_
  split
  · exact Frames.onSource _
  · exact Chain.frames_refuse _ _

theorem frames_readOutputs (statement : StatementId) :
    Frames (handler.readOutputs pipeline statement) := by
  refine framed.call fun args => ?_
  split
  · exact frames_readFrom _ _ _
  · exact Chain.frames_refuse _ _

theorem frames_executeUpdate (statement : StatementId) :
    Frames (handler.executeUpdate pipeline statement) := by
  refine (Frames.onSource _).bind fun count => (frames_assignKeys handler statement).bind fun _ => ?_
  split
  · exact (frames_readOutputs handler framed statement).bind fun _ => Frames.pure _
  · exact Frames.pure _

theorem frames_update (statement : StatementId) : Frames (handler.update pipeline statement) := by
  refine framed.call fun args => ?_
  split
  · exact frames_executeUpdate handler framed _
  · exact Chain.frames_refuse _ _

theorem frames_mapResults (results : ResultSet) :
    Frames (handler.mapResults pipeline results) := by
  refine framed.call fun args => ?_
  split
  · exact Frames.ofResult _
  · exact Chain.frames_refuse _ _

theorem frames_query (statement : StatementId) : Frames (handler.query pipeline statement) := by
  refine framed.call fun args => ?_
  split
  · exact (Frames.onSource _).bind fun results => frames_mapResults handler framed results
  · exact Chain.frames_refuse _ _

theorem frames_mapCursor (rows : RowsId) : Frames (handler.mapCursor pipeline rows) := by
  refine framed.call fun args => ?_
  split
  · exact Frames.pure _
  · exact Chain.frames_refuse _ _

theorem frames_openCursor (statement : StatementId) :
    Frames (handler.openCursor pipeline statement) := by
  refine Frames.bind (Frames.attempt ((Frames.onSource _).bind fun rows =>
    frames_mapCursor handler framed rows)) fun opened => ?_
  split
  · exact (Frames.onSource _).bind fun _ => Frames.pure _
  · exact Frames.bind (Frames.quietly (Frames.onSource _)) fun _ => Frames.throw _

theorem frames_queryCursor (statement : StatementId) :
    Frames (handler.queryCursor pipeline statement) := by
  refine framed.call fun args => ?_
  split
  · exact frames_openCursor handler framed _
  · exact Chain.frames_refuse _ _

end Handler

namespace Strategy

variable {pipeline : Pipeline σ} (handler : Handler)

theorem frames_withStatement (statement : StatementId) {use : Work σ α} (frames : Frames use) :
    Frames (withStatement pipeline statement use) := by
  unfold withStatement
  refine Frames.bind frames.attempt fun result => ?_
  refine Frames.bind (Frames.attempt (Frames.onSource _)) fun closed => ?_
  exact (Frames.ofResult _).bind fun answer => (Frames.ofResult _).bind fun _ => Frames.pure _

theorem frames_closeQuietly (statement : StatementId) : Frames (closeQuietly pipeline statement) :=
  Frames.quietly (Frames.onSource _)

theorem frames_hold (sql : String) (statement : StatementId) :
    Frames (hold pipeline sql statement) := by
  unfold hold
  refine Frames.executor.bind fun current => ?_
  dsimp only
  split
  · exact (Frames.onSource _).bind fun _ => Frames.setStrategy _
  · exact Frames.setStrategy _

theorem frames_closeHeld (held : List (String × StatementId)) :
    Frames (closeHeld pipeline held) := by
  induction held with
  | nil => exact Frames.pure ()
  | cons entry rest ih => exact (frames_closeQuietly _).bind fun _ => ih

theorem frames_flushPending (givingUp : Bool) : Frames (flushPending pipeline givingUp) := by
  unfold flushPending
  refine Frames.executor.bind fun current => (Frames.setStrategy _).bind fun _ => ?_
  split
  · exact (Frames.onSource _).bind fun _ => Frames.pure _
  · exact Frames.onSource _

theorem frames_flush (givingUp : Bool) : Frames (flush pipeline givingUp) := by
  unfold flush
  refine Frames.executor.bind fun current => ?_
  split
  · exact Frames.pure _
  · exact (Frames.setStrategy _).bind fun _ => (frames_closeHeld _).bind fun _ => Frames.pure _
  · exact frames_flushPending givingUp

variable (framed : pipeline.Framed)

include framed

theorem frames_updateOnce : Frames (updateOnce pipeline handler) := by
  refine (handler.frames_prepareInTransaction framed).bind fun statement => ?_
  exact frames_withStatement _ ((handler.frames_parameterize framed _).bind fun _ =>
    handler.frames_update framed _)

theorem frames_queryOnce : Frames (queryOnce pipeline handler) := by
  refine (handler.frames_prepareInTransaction framed).bind fun statement => ?_
  exact frames_withStatement _ ((handler.frames_parameterize framed _).bind fun _ =>
    handler.frames_query framed _)

theorem frames_openOnce : Frames (openOnce pipeline handler) := by
  refine (handler.frames_prepareInTransaction framed).bind fun statement => ?_
  refine Frames.bind (handler.frames_parameterize framed _).attempt fun result => ?_
  split
  · exact handler.frames_queryCursor framed _
  · exact (frames_closeQuietly _).bind fun _ => Frames.throw _

theorem frames_obtainHeld : Frames (obtainHeld pipeline handler) := by
  unfold obtainHeld
  refine Frames.executor.bind fun current => Frames.get.bind fun scene => ?_
  dsimp only
  split
  · exact (handler.frames_parameterize framed _).bind fun _ => Frames.pure _
  · refine (handler.frames_prepareInTransaction framed).bind fun statement => ?_
    refine (frames_hold _ _).bind fun _ => ?_
    exact (handler.frames_parameterize framed _).bind fun _ => Frames.pure _

theorem frames_appendUpdate (earlier : List PendingBatch) (last : PendingBatch)
    (target : String × String) : Frames (appendUpdate pipeline handler earlier last target) := by
  refine (handler.frames_parameterize framed _).bind fun _ => ?_
  refine (Handler.frames_addBatch framed _).bind fun _ => Frames.parameter.bind fun current => ?_
  exact Frames.setStrategy _

theorem frames_startBatch (pending : List PendingBatch) (target : String × String) :
    Frames (startBatch pipeline handler pending target) := by
  refine (handler.frames_prepareInTransaction framed).bind fun statement => ?_
  refine Frames.bind (Frames.attempt ((handler.frames_parameterize framed _).bind fun _ =>
    Handler.frames_addBatch framed _)) fun result => ?_
  split
  · exact (frames_closeQuietly _).bind fun _ => Frames.throw _
  · exact Frames.parameter.bind fun current => Frames.setStrategy _

theorem frames_queueUpdate : Frames (queueUpdate pipeline handler) := by
  unfold queueUpdate
  refine Frames.executor.bind fun current => ?_
  dsimp only
  split
  · split
    · exact (frames_appendUpdate handler framed _ _ _).bind fun _ => Frames.pure _
    · exact (frames_startBatch handler framed _ _).bind fun _ => Frames.pure _
  · exact (frames_startBatch handler framed _ _).bind fun _ => Frames.pure _

theorem frames_update (statement : MappedStatement) : Frames (update pipeline statement) := by
  unfold update Handler.forParameter
  refine Frames.bind (Frames.parameter.bind fun current => (Frames.ofResult _).bind fun bound =>
    Frames.pure _) fun handler => Frames.executor.bind fun current => ?_
  split
  · exact frames_updateOnce handler framed
  · exact (frames_obtainHeld handler framed).bind fun _ => handler.frames_update framed _
  · exact frames_queueUpdate handler framed

theorem frames_query : Frames (query pipeline handler) := by
  unfold query
  refine Frames.executor.bind fun current => ?_
  split
  · exact frames_queryOnce handler framed
  · exact (frames_obtainHeld handler framed).bind fun _ => handler.frames_query framed _
  · exact (frames_flushPending _).bind fun _ => frames_queryOnce handler framed

theorem frames_openCursor : Frames (openCursor pipeline handler) := by
  unfold openCursor
  refine Frames.executor.bind fun current => ?_
  split
  · exact frames_openOnce handler framed
  · refine (frames_obtainHeld handler framed).bind fun statement => ?_
    refine Frames.executor.bind fun current => (Frames.setStrategy _).bind fun _ => ?_
    exact handler.frames_queryCursor framed _
  · exact (frames_flushPending _).bind fun _ => frames_openOnce handler framed

end Strategy

end MappedSql
