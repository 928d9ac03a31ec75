import MappedSql.Proofs.Execution.Frames

namespace MappedSql

variable {σ α β : Type}

/-- Around a method the interceptor does nothing but proceed with the arguments that it was given. -/
def Interceptor.ProceedsAt (interceptor : Interceptor σ) (method : Method) : Prop :=
  ∀ (args : Args) (proceed : Args → Work σ Outcome),
    interceptor.intercept method args proceed = proceed args

/-- The interceptor does nothing but proceed with the arguments that it was given. -/
def Interceptor.ProceedsOnly (interceptor : Interceptor σ) : Prop :=
  ∀ (method : Method) (args : Args) (proceed : Args → Work σ Outcome),
    interceptor.intercept method args proceed = proceed args

def Interceptor.passing (name : String) (methods : List Method) : Interceptor σ where
  name := name
  signatures := methods.map Method.signature
  intercept := fun _ args proceed => proceed args

theorem Interceptor.proceedsOnly_passing (name : String) (methods : List Method) :
    (passing name methods : Interceptor σ).ProceedsOnly :=
  fun _ _ _ => rfl

def Shape.Faithful (shape : Shape α) : Prop :=
  ∀ a, shape.unwrap? (shape.wrap a) = some a

namespace Chain

variable {source : DataSource σ} {shape : Shape α} {method : Method} {args : Args}
  {target : Args → Work σ α}

theorem accept_wrap (faithful : shape.Faithful) (a : α) :
    (accept source shape (shape.wrap a) : Work σ α) = pure a := by
  rw [accept, faithful a]

theorem accept_map (faithful : shape.Faithful) (act : Work σ α) :
    (shape.wrap <$> act >>= fun outcome => accept source shape outcome) = act := by
  funext scene
  have mapped : shape.wrap <$> act = act >>= fun a => pure (shape.wrap a) := rfl
  rw [mapped, Action.bind_apply, Action.bind_apply]
  rcases act scene with ⟨e | a, after⟩
  · rfl
  · exact congrFun (accept_wrap faithful a) after

theorem wrap_eq {registration : Registration σ}
    (proceeds : method ∈ registration.methods → registration.interceptor.ProceedsAt method)
    (faithful : shape.Faithful) (fits : args.fit method = true) :
    wrap source shape method target registration args = target args := by
  unfold wrap
  split
  next declared =>
    show (registration.interceptor.intercept method args (proceed source shape method target) >>=
      fun outcome => accept source shape outcome) = _
    rw [proceeds (by simpa using declared), proceed, if_pos fits, accept_map faithful]
  next => rfl

theorem around_eq {chain : Chain σ}
    (proceeds : ∀ registration ∈ chain, method ∈ registration.methods →
      registration.interceptor.ProceedsAt method)
    (faithful : shape.Faithful) (fits : args.fit method = true) :
    around source chain shape method target args = target args := by
  -- the rest of the chain stands around the target as the first interceptor wraps it
  induction chain generalizing target with
  | nil => rfl
  | cons registration rest ih =>
      refine (ih fun other mem => ?_).trans
        (wrap_eq (proceeds registration List.mem_cons_self) faithful fits)
      exact proceeds other (List.mem_cons_of_mem _ mem)

end Chain

namespace Pipeline

variable (pipeline : Pipeline σ)

def bare : Pipeline σ :=
  { pipeline with
    configuration := { pipeline.configuration with chain := [] }
    extra := [] }

/-- All interceptors around the calls of a unit of work only proceed. -/
def Unobtrusive : Prop :=
  ∀ stage, ∀ registration ∈ pipeline.chain stage, registration.interceptor.ProceedsOnly

@[simp] theorem bare_source : pipeline.bare.source = pipeline.source :=
  rfl

@[simp] theorem bare_setting : pipeline.bare.setting = pipeline.setting :=
  rfl

@[simp] theorem bare_statement (id : String) :
    pipeline.bare.configuration.statement id = pipeline.configuration.statement id :=
  rfl

theorem plain_bare : pipeline.bare.Plain :=
  ⟨rfl, rfl⟩

variable {pipeline}

theorem Unobtrusive.call_eq (unobtrusive : pipeline.Unobtrusive) {shape : Shape α}
    (faithful : shape.Faithful) {method : Method} {args : Args} (fits : args.fit method = true)
    {target bareTarget : Args → Work σ α} (same : target args = bareTarget args) :
    pipeline.call shape method args target = pipeline.bare.call shape method args bareTarget := by
  rw [pipeline.plain_bare.call_eq, ← same]
  exact Chain.around_eq (fun registration mem _ => unobtrusive _ registration mem method) faithful fits

/-- Interceptors only proceed around the calls of an executor, and elsewhere they are framed. -/
structure Direct (pipeline : Pipeline σ) : Prop where
  framed : pipeline.Framed
  outside : ∀ registration ∈ pipeline.chain .executor, ∀ method ∈ registration.methods,
    method.stage = .executor → registration.interceptor.ProceedsAt method

theorem Direct.call_eq (direct : pipeline.Direct) {method : Method}
    (executor : method.stage = .executor) {shape : Shape α} (faithful : shape.Faithful) {args : Args}
    (fits : args.fit method = true) (target : Args → Work σ α) :
    pipeline.call shape method args target = target args := by
  rw [Pipeline.call, executor]
  exact Chain.around_eq (fun registration mem declared =>
    direct.outside registration mem method declared executor) faithful fits

theorem Plain.direct (plain : pipeline.Plain) : pipeline.Direct where
  framed := plain.framed
  outside := by simp [Pipeline.chain, plain.chain, plain.extra]

theorem Unobtrusive.framed (unobtrusive : pipeline.Unobtrusive) : pipeline.Framed where
  chain := fun registration mem method args proceed frames => by
    rw [unobtrusive .executor registration (List.mem_append_left _ mem) method args proceed]
    exact frames args
  extra := fun registration mem method args proceed frames => by
    rw [unobtrusive .executor registration (List.mem_append_right _ mem) method args proceed]
    exact frames args

theorem Unobtrusive.direct (unobtrusive : pipeline.Unobtrusive) : pipeline.Direct :=
  ⟨unobtrusive.framed, fun registration mem method _ _ => unobtrusive _ registration mem method⟩

end Pipeline

namespace Shape

theorem faithful_unit : unit.Faithful :=
  fun _ => rfl

theorem faithful_count : count.Faithful :=
  fun _ => rfl

theorem faithful_rows : rows.Faithful :=
  fun _ => rfl

theorem faithful_batches : batches.Faithful :=
  fun _ => rfl

theorem faithful_statement : statement.Faithful :=
  fun _ => rfl

theorem faithful_cursor : cursor.Faithful :=
  fun _ => rfl

end Shape

namespace Handler

variable (pipeline : Pipeline σ) (handler : Handler)

theorem bindFrom_bare (statement : StatementId) (position : Nat)
    (mappings : List ParameterMapping) :
    handler.bindFrom pipeline statement position mappings =
      handler.bindFrom pipeline.bare statement position mappings := by
  induction mappings generalizing position with
  | nil => rfl
  | cons mapping rest ih =>
      simp only [bindFrom, ih]
      rfl

theorem registerFrom_bare (statement : StatementId) (position : Nat)
    (mappings : List ParameterMapping) :
    handler.registerFrom pipeline statement position mappings =
      handler.registerFrom pipeline.bare statement position mappings := by
  induction mappings generalizing position with
  | nil => rfl
  | cons mapping rest ih =>
      simp only [registerFrom, ih]
      rfl

theorem readFrom_bare (statement : StatementId) (position : Nat)
    (mappings : List ParameterMapping) :
    readFrom pipeline statement position mappings =
      readFrom pipeline.bare statement position mappings := by
  induction mappings generalizing position with
  | nil => rfl
  | cons mapping rest ih =>
      simp only [readFrom, ih]
      rfl

variable {pipeline} (unobtrusive : pipeline.Unobtrusive)

include unobtrusive

theorem prepare_bare (connection : ConnectionId) (timeout : Option Nat) :
    handler.prepare pipeline connection timeout =
      handler.prepare pipeline.bare connection timeout :=
  unobtrusive.call_eq Shape.faithful_statement rfl rfl

theorem prepareInTransaction_bare :
    handler.prepareInTransaction pipeline = handler.prepareInTransaction pipeline.bare := by
  simp only [prepareInTransaction, handler.prepare_bare unobtrusive, Pipeline.bare_source]

theorem setParameters_bare (statement : StatementId) :
    handler.setParameters pipeline statement = handler.setParameters pipeline.bare statement :=
  unobtrusive.call_eq Shape.faithful_unit rfl (handler.bindFrom_bare pipeline statement 1 _)

theorem supply_bare (statement : StatementId) :
    handler.supply pipeline statement = handler.supply pipeline.bare statement := by
  simp only [supply, handler.setParameters_bare unobtrusive, handler.registerFrom_bare pipeline]

theorem parameterize_bare (statement : StatementId) :
    handler.parameterize pipeline statement = handler.parameterize pipeline.bare statement :=
  unobtrusive.call_eq Shape.faithful_unit rfl (handler.supply_bare unobtrusive statement)

theorem addBatch_bare (statement : StatementId) :
    addBatch pipeline statement = addBatch pipeline.bare statement :=
  unobtrusive.call_eq Shape.faithful_unit rfl rfl

theorem mapResults_bare (results : ResultSet) :
    handler.mapResults pipeline results = handler.mapResults pipeline.bare results :=
  unobtrusive.call_eq Shape.faithful_rows rfl rfl

theorem mapCursor_bare (rows : RowsId) :
    handler.mapCursor pipeline rows = handler.mapCursor pipeline.bare rows :=
  unobtrusive.call_eq Shape.faithful_cursor rfl rfl

theorem readOutputs_bare (statement : StatementId) :
    handler.readOutputs pipeline statement = handler.readOutputs pipeline.bare statement :=
  unobtrusive.call_eq Shape.faithful_unit rfl (readFrom_bare pipeline statement 1 _)

theorem executeUpdate_bare (statement : StatementId) :
    handler.executeUpdate pipeline statement = handler.executeUpdate pipeline.bare statement := by
  simp only [executeUpdate, handler.readOutputs_bare unobtrusive]
  rfl

theorem update_bare (statement : StatementId) :
    handler.update pipeline statement = handler.update pipeline.bare statement :=
  unobtrusive.call_eq Shape.faithful_count rfl (handler.executeUpdate_bare unobtrusive statement)

theorem query_bare (statement : StatementId) :
    handler.query pipeline statement = handler.query pipeline.bare statement := by
  refine unobtrusive.call_eq Shape.faithful_rows rfl ?_
  simp only [handler.mapResults_bare unobtrusive, Pipeline.bare_source]

theorem openCursor_bare (statement : StatementId) :
    handler.openCursor pipeline statement = handler.openCursor pipeline.bare statement := by
  simp only [openCursor, handler.mapCursor_bare unobtrusive, Pipeline.bare_source]

theorem queryCursor_bare (statement : StatementId) :
    handler.queryCursor pipeline statement = handler.queryCursor pipeline.bare statement :=
  unobtrusive.call_eq Shape.faithful_cursor rfl (handler.openCursor_bare unobtrusive statement)

end Handler

namespace Strategy

theorem forParameter_bare (pipeline : Pipeline σ) (statement : MappedStatement) :
    Handler.forParameter pipeline statement = Handler.forParameter pipeline.bare statement :=
  rfl

theorem closeHeld_bare (pipeline : Pipeline σ) (held : List (String × StatementId)) :
    closeHeld pipeline held = closeHeld pipeline.bare held := by
  induction held with
  | nil => rfl
  | cons first rest ih =>
      simp only [closeHeld, ih]
      rfl

theorem flush_bare (pipeline : Pipeline σ) (givingUp : Bool) :
    flush pipeline givingUp = flush pipeline.bare givingUp := by
  simp only [flush, closeHeld_bare pipeline]
  rfl

variable {pipeline : Pipeline σ} (unobtrusive : pipeline.Unobtrusive)

include unobtrusive

theorem updateOnce_bare (handler : Handler) :
    updateOnce pipeline handler = updateOnce pipeline.bare handler := by
  simp only [updateOnce, handler.prepareInTransaction_bare unobtrusive,
    handler.parameterize_bare unobtrusive, handler.update_bare unobtrusive]
  rfl

theorem queryOnce_bare (handler : Handler) :
    queryOnce pipeline handler = queryOnce pipeline.bare handler := by
  simp only [queryOnce, handler.prepareInTransaction_bare unobtrusive,
    handler.parameterize_bare unobtrusive, handler.query_bare unobtrusive]
  rfl

theorem openOnce_bare (handler : Handler) :
    openOnce pipeline handler = openOnce pipeline.bare handler := by
  simp only [openOnce, handler.prepareInTransaction_bare unobtrusive,
    handler.parameterize_bare unobtrusive, handler.queryCursor_bare unobtrusive]
  rfl

theorem obtainHeld_bare (handler : Handler) :
    obtainHeld pipeline handler = obtainHeld pipeline.bare handler := by
  simp only [obtainHeld, handler.prepareInTransaction_bare unobtrusive,
    handler.parameterize_bare unobtrusive]
  rfl

theorem updateHeld_bare (handler : Handler) :
    updateHeld pipeline handler = updateHeld pipeline.bare handler := by
  simp only [updateHeld, obtainHeld_bare unobtrusive, handler.update_bare unobtrusive]

theorem queryHeld_bare (handler : Handler) :
    queryHeld pipeline handler = queryHeld pipeline.bare handler := by
  simp only [queryHeld, obtainHeld_bare unobtrusive, handler.query_bare unobtrusive]

theorem openHeld_bare (handler : Handler) :
    openHeld pipeline handler = openHeld pipeline.bare handler := by
  simp only [openHeld, obtainHeld_bare unobtrusive, handler.queryCursor_bare unobtrusive]

theorem appendUpdate_bare (handler : Handler) (earlier : List PendingBatch) (last : PendingBatch)
    (target : String × String) :
    appendUpdate pipeline handler earlier last target =
      appendUpdate pipeline.bare handler earlier last target := by
  simp only [appendUpdate, handler.parameterize_bare unobtrusive,
    Handler.addBatch_bare unobtrusive]

theorem startBatch_bare (handler : Handler) (pending : List PendingBatch)
    (target : String × String) :
    startBatch pipeline handler pending target =
      startBatch pipeline.bare handler pending target := by
  simp only [startBatch, handler.prepareInTransaction_bare unobtrusive,
    handler.parameterize_bare unobtrusive, Handler.addBatch_bare unobtrusive]
  rfl

theorem queueUpdate_bare (handler : Handler) :
    queueUpdate pipeline handler = queueUpdate pipeline.bare handler := by
  simp only [queueUpdate, appendUpdate_bare unobtrusive, startBatch_bare unobtrusive]

theorem update_bare (statement : MappedStatement) :
    update pipeline statement = update pipeline.bare statement := by
  simp only [update, forParameter_bare pipeline, updateOnce_bare unobtrusive,
    updateHeld_bare unobtrusive, queueUpdate_bare unobtrusive]

theorem query_bare (handler : Handler) :
    query pipeline handler = query pipeline.bare handler := by
  simp only [query, queryOnce_bare unobtrusive, queryHeld_bare unobtrusive]
  rfl

theorem openCursor_bare (handler : Handler) :
    openCursor pipeline handler = openCursor pipeline.bare handler := by
  simp only [openCursor, openOnce_bare unobtrusive, openHeld_bare unobtrusive]
  rfl

end Strategy

namespace Executor

theorem cacheKey_bare (pipeline : Pipeline σ) (statement : MappedStatement) (bounds : RowBounds)
    (bound : BoundSql) :
    cacheKey pipeline statement bounds bound = cacheKey pipeline.bare statement bounds bound :=
  rfl

namespace Local

theorem flush_bare (pipeline : Pipeline σ) : flush pipeline = flush pipeline.bare := by
  simp only [flush, Strategy.flush_bare pipeline]

theorem commit_bare (pipeline : Pipeline σ) (required : Bool) :
    commit pipeline required = commit pipeline.bare required := by
  simp only [commit, flush_bare pipeline, Pipeline.bare_source]

theorem rollback_bare (pipeline : Pipeline σ) (required : Bool) :
    rollback pipeline required = rollback pipeline.bare required := by
  simp only [rollback, Strategy.flush_bare pipeline, Pipeline.bare_source]

theorem close_bare (pipeline : Pipeline σ) (required : Bool) :
    close pipeline required = close pipeline.bare required := by
  simp only [close, rollback_bare pipeline, Pipeline.bare_source]

variable {pipeline : Pipeline σ} (unobtrusive : pipeline.Unobtrusive)

include unobtrusive

theorem update_bare (statement : MappedStatement) :
    update pipeline statement = update pipeline.bare statement := by
  simp only [update, Strategy.update_bare unobtrusive]

theorem rowsFor_bare (statement : MappedStatement) (bounds : RowBounds) (key : CacheKey)
    (bound : BoundSql) :
    rowsFor pipeline statement bounds key bound =
      rowsFor pipeline.bare statement bounds key bound := by
  simp only [rowsFor, Strategy.query_bare unobtrusive]

theorem keyedQuery_bare (statement : MappedStatement) (bounds : RowBounds) (key : CacheKey)
    (bound : BoundSql) :
    keyedQuery pipeline statement bounds key bound =
      keyedQuery pipeline.bare statement bounds key bound := by
  simp only [keyedQuery, rowsFor_bare unobtrusive]
  rfl

theorem queryCursor_bare (statement : MappedStatement) (parameter : Value) (bounds : RowBounds) :
    queryCursor pipeline statement parameter bounds =
      queryCursor pipeline.bare statement parameter bounds := by
  simp only [queryCursor, Strategy.openCursor_bare unobtrusive, Pipeline.bare_setting]

end Local

namespace Shared

theorem commit_bare (pipeline : Pipeline σ) (required : Bool) :
    commit pipeline required = commit pipeline.bare required := by
  simp only [commit, Local.commit_bare pipeline]

theorem rollback_bare (pipeline : Pipeline σ) (required : Bool) :
    rollback pipeline required = rollback pipeline.bare required := by
  simp only [rollback, Local.rollback_bare pipeline]

theorem close_bare (pipeline : Pipeline σ) (required : Bool) :
    close pipeline required = close pipeline.bare required := by
  simp only [close, Local.close_bare pipeline]

variable {pipeline : Pipeline σ} (unobtrusive : pipeline.Unobtrusive)

include unobtrusive

theorem update_bare (statement : MappedStatement) :
    update pipeline statement = update pipeline.bare statement := by
  simp only [update, Local.update_bare unobtrusive]

theorem keyedQuery_bare (statement : MappedStatement) (bounds : RowBounds) (key : CacheKey)
    (bound : BoundSql) :
    keyedQuery pipeline statement bounds key bound =
      keyedQuery pipeline.bare statement bounds key bound := by
  simp only [keyedQuery, rowsFor, Local.keyedQuery_bare unobtrusive]

theorem queryCursor_bare (statement : MappedStatement) (parameter : Value) (bounds : RowBounds) :
    queryCursor pipeline statement parameter bounds =
      queryCursor pipeline.bare statement parameter bounds := by
  simp only [queryCursor, Local.queryCursor_bare unobtrusive]

end Shared

theorem choose_bare (pipeline : Pipeline σ) (shared unshared : Work σ α) :
    choose pipeline shared unshared = choose pipeline.bare shared unshared :=
  rfl

theorem close_bare (pipeline : Pipeline σ) (required : Bool) :
    close pipeline required = close pipeline.bare required := by
  simp only [close, choose_bare pipeline, Shared.close_bare pipeline, Local.close_bare pipeline]

variable {pipeline : Pipeline σ} (unobtrusive : pipeline.Unobtrusive)

include unobtrusive

theorem update_bare (statement : MappedStatement) :
    update pipeline statement = update pipeline.bare statement := by
  refine unobtrusive.call_eq Shape.faithful_count rfl ?_
  simp only [choose_bare pipeline, Shared.update_bare unobtrusive, Local.update_bare unobtrusive]

theorem answerKeyed_bare (statement : MappedStatement) (bounds : RowBounds) (key : CacheKey)
    (bound : BoundSql) :
    answerKeyed pipeline statement bounds key bound =
      answerKeyed pipeline.bare statement bounds key bound := by
  simp only [answerKeyed, choose_bare pipeline, Shared.keyedQuery_bare unobtrusive,
    Local.keyedQuery_bare unobtrusive]

theorem query_bare (statement : MappedStatement) (parameter : Value) (bounds : RowBounds) :
    query pipeline statement parameter bounds =
      query pipeline.bare statement parameter bounds := by
  refine unobtrusive.call_eq Shape.faithful_rows rfl ?_
  simp only [answerKeyed_bare unobtrusive, cacheKey_bare pipeline, Pipeline.bare_setting]

theorem keyedQuery_bare (statement : MappedStatement) (parameter : Value) (bounds : RowBounds)
    (key : CacheKey) (bound : BoundSql) :
    keyedQuery pipeline statement parameter bounds key bound =
      keyedQuery pipeline.bare statement parameter bounds key bound :=
  unobtrusive.call_eq Shape.faithful_rows rfl (answerKeyed_bare unobtrusive _ _ _ _)

theorem queryCursor_bare (statement : MappedStatement) (parameter : Value) (bounds : RowBounds) :
    queryCursor pipeline statement parameter bounds =
      queryCursor pipeline.bare statement parameter bounds := by
  refine unobtrusive.call_eq Shape.faithful_cursor rfl ?_
  simp only [choose_bare pipeline, Shared.queryCursor_bare unobtrusive,
    Local.queryCursor_bare unobtrusive]

theorem flush_bare : flush pipeline = flush pipeline.bare :=
  unobtrusive.call_eq Shape.faithful_batches rfl (Local.flush_bare pipeline)

theorem commit_bare (required : Bool) :
    commit pipeline required = commit pipeline.bare required := by
  refine unobtrusive.call_eq Shape.faithful_unit rfl ?_
  simp only [choose_bare pipeline, Shared.commit_bare pipeline, Local.commit_bare pipeline]

theorem rollback_bare (required : Bool) :
    rollback pipeline required = rollback pipeline.bare required := by
  refine unobtrusive.call_eq Shape.faithful_unit rfl ?_
  simp only [choose_bare pipeline, Shared.rollback_bare pipeline, Local.rollback_bare pipeline]

end Executor

end MappedSql
