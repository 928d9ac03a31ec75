import MappedSql.Proofs.Database.Executions
import MappedSql.Proofs.Execution.Steps

namespace MappedSql

open Recording (Executed keysFrom rowsOf)

variable {α : Type}

theorem Work.onSource_apply (act : Action Recording α) (scene : Scene Recording) :
    Work.onSource act scene =
      ((act scene.source).1, scene.withSource (act scene.source).2) :=
  rfl

def BoundSql.readFrom : Nat → List ParameterMapping → List Nat
  | _, [] => []
  | position, mapping :: rest =>
      if mapping.direction.isOutput then position :: readFrom (position + 1) rest
      else readFrom (position + 1) rest

theorem BoundSql.lt_of_sentFrom {position : Nat} {mappings : List ParameterMapping} :
    ∀ sent ∈ BoundSql.sentFrom position mappings, position ≤ sent := by
  induction mappings generalizing position with
  | nil => intro sent mem; cases mem
  | cons mapping rest ih =>
      intro sent mem
      unfold sentFrom at mem
      split at mem
      · cases mem with
        | head => exact Nat.le_refl position
        | tail _ mem => exact Nat.le_of_succ_le (ih sent mem)
      · exact Nat.le_of_succ_le (ih sent mem)

structure Filling where
  registered : List Nat := []
  placed : List (Nat × Value) := []

namespace Filling

def fill (filling : Filling) (statement : RecordedStatement) : RecordedStatement :=
  { statement with
    registered := filling.registered ++ statement.registered
    parameters := placeAll statement.parameters filling.placed }

def andThen (first second : Filling) : Filling :=
  ⟨second.registered ++ first.registered, first.placed ++ second.placed⟩

theorem fill_andThen (first second : Filling) :
    (first.andThen second).fill = second.fill ∘ first.fill := by
  funext statement
  simp only [fill, andThen, Function.comp, placeAll_append, List.append_assoc]

end Filling

namespace Handler

variable {pipeline : Pipeline Recording} (handler : Handler)

/-- On open statements an action only places values, at most at the given positions, and registers
outputs. If it goes through it has placed one at each, and registered all of the outputs. Whether it goes
through does not depend on the statement. -/
def Fills (positions outputs : List Nat) (callable : Bool) (act : StatementId → Work Recording Unit) :
    Prop :=
  ∃ (result : Except Error Unit) (filling : Filling),
    (∀ entry ∈ filling.placed, entry.1 ∈ positions) ∧
    (result = .ok () →
      filling.placed.map Prod.fst = positions ∧ ∀ position ∈ outputs, position ∈ filling.registered) ∧
    ∀ id scene, scene.source.IsOpen id →
      (callable = true → (scene.source.statement id).options.callable = true) →
      act id scene = (result, scene.withSource (scene.source.alter id filling.fill))

namespace Fills

variable {positions outputs positions' outputs' : List Nat} {callable : Bool}
  {act next : StatementId → Work Recording Unit}

theorem of_result (result : Except Error Unit) (none : result = .ok () → positions = [] ∧ outputs = []) :
    Fills positions outputs callable fun _ => liftM result := by
  refine ⟨result, {}, fun _ no => (by cases no), fun done => ?_, fun st scene _ _ => ?_⟩
  · obtain ⟨rfl, rfl⟩ := none done
    exact ⟨rfl, fun _ no => (by cases no)⟩
  · have same : scene.source.alter st ({} : Filling).fill = scene.source := by
      have unchanged : ({} : Filling).fill = id := rfl
      rw [unchanged, Recording.alter, List.modify_id]
    rw [same]
    rfl

theorem nothing : Fills [] [] callable fun _ => pure () :=
  of_result (.ok ()) fun _ => ⟨rfl, rfl⟩

theorem bind (first : Fills positions outputs callable act)
    (second : Fills positions' outputs' callable next) :
    Fills (positions ++ positions') (outputs ++ outputs') callable fun id =>
      act id >>= fun _ => next id := by
  obtain ⟨result, filling, within, covers, acts⟩ := first
  obtain ⟨result', filling', within', covers', acts'⟩ := second
  cases result with
  | error e =>
      refine ⟨.error e, filling, fun entry mem => List.mem_append_left _ (within entry mem),
        fun no => (by cases no), fun id scene isOpen callable => ?_⟩
      show (act id >>= fun _ => next id) scene = _
      rw [Action.bind_apply, acts id scene isOpen callable]
  | ok u =>
      refine ⟨result', filling.andThen filling', ?_, fun done => ?_, fun id scene isOpen callable => ?_⟩
      · intro entry mem
        rcases List.mem_append.1 mem with early | late
        · exact List.mem_append_left _ (within entry early)
        · exact List.mem_append_right _ (within' entry late)
      · obtain ⟨placed, registered⟩ := covers rfl
        obtain ⟨placed', registered'⟩ := covers' done
        refine ⟨by rw [Filling.andThen, List.map_append, placed, placed'], fun position mem => ?_⟩
        rcases List.mem_append.1 mem with early | late
        · exact List.mem_append_right _ (registered position early)
        · exact List.mem_append_left _ (registered' position late)
      · have inside := isOpen.lt
        have same := Recording.statement_alter_self inside filling.fill
        show (act id >>= fun _ => next id) scene = _
        rw [Action.bind_apply, acts id scene isOpen callable]
        dsimp only
        rw [acts' id _ ?_ ?_, Filling.fill_andThen, ← Recording.alter_alter]
        · rfl
        · exact (congrArg RecordedStatement.closed same).trans isOpen
        · intro calls
          exact (congrArg (fun st : RecordedStatement => st.options.callable) same).trans
            (callable calls)

theorem of_eq (fills : Fills positions outputs callable act) (act' : StatementId → Work Recording Unit)
    (same : ∀ id scene, act' id scene = act id scene) : Fills positions outputs callable act' := by
  obtain ⟨result, filling, within, covers, acts⟩ := fills
  exact ⟨result, filling, within, covers,
    fun id scene isOpen callable => (same id scene).trans (acts id scene isOpen callable)⟩

theorem inContext (fills : Fills positions outputs callable act) (context : String) :
    Fills positions outputs callable fun id => (act id).inContext context := by
  obtain ⟨result, filling, within, covers, acts⟩ := fills
  refine ⟨withContext (fun _ => context) result, filling, within, fun done => ?_,
    fun id scene isOpen callable => ?_⟩
  · cases result with
    | error e => cases done
    | ok u => exact covers rfl
  · simp only [Action.inContext, acts id scene isOpen callable]

theorem lift_bind {next : α → StatementId → Work Recording Unit} (found : Except Error α)
    (fills : ∀ a, Fills positions outputs callable (next a)) :
    Fills positions outputs callable fun id =>
      (liftM found : Work Recording α) >>= fun a => next a id := by
  cases found with
  | ok a => exact (fills a).of_eq _ fun _ _ => rfl
  | error e =>
      have failing : Fills positions outputs callable fun _ => liftM (.error e : Except Error Unit) :=
        of_result _ fun no => by cases no
      exact failing.of_eq _ fun _ _ => rfl

end Fills

def outputs : List Nat :=
  if handler.statement.isCallable then BoundSql.readFrom 1 handler.bound.mappings else []

section

variable (recorded : pipeline.source = Recording.source) {callable : Bool}

include recorded

theorem fills_setParameter {position : Nat} (counted : 0 < position) (value : Value) :
    Fills [position] [] callable fun id =>
      Work.onSource (pipeline.source.setParameter id position value) := by
  refine ⟨.ok (), ⟨[], [(position, value)]⟩, by simp, fun _ => ⟨rfl, by simp⟩,
    fun id scene isOpen _ => ?_⟩
  have set := Recording.setParameter_apply isOpen counted value
  simp only [recorded, Work.onSource_apply]
  exact congrArg (fun went => (went.1, scene.withSource went.2)) set

theorem fills_registerOutput (position : Nat) (type : Option DbType) :
    Fills [] [position] true fun id =>
      Work.onSource (pipeline.source.registerOutput id position type) := by
  refine ⟨.ok (), ⟨[position], []⟩, by simp, fun _ => ⟨rfl, by simp⟩, fun id scene _ callable => ?_⟩
  have registered := Recording.registerOutput_apply (callable rfl) position type
  simp only [recorded, Work.onSource_apply]
  exact congrArg (fun went => (went.1, scene.withSource went.2)) registered

theorem fills_bindFrom (mappings : List ParameterMapping) {position : Nat} (counted : 0 < position) :
    Fills (BoundSql.sentFrom position mappings) [] callable fun id =>
      handler.bindFrom pipeline id position mappings := by
  induction mappings generalizing position with
  | nil => exact Fills.nothing
  | cons mapping rest ih =>
      have later := ih (Nat.succ_pos position)
      unfold BoundSql.sentFrom
      split
      case isTrue sends =>
        have bound : Fills [position] [] callable fun id =>
            handler.bindOne pipeline id position mapping :=
          Fills.lift_bind _ fun value => Fills.inContext
            (Fills.lift_bind _ fun converted => fills_setParameter recorded counted converted) _
        refine (bound.bind later).of_eq _ fun id scene => ?_
        rw [bindFrom, if_pos sends]
      case isFalse sends =>
        refine later.of_eq _ fun id scene => ?_
        rw [bindFrom, if_neg sends]

theorem fills_registerFrom (mappings : List ParameterMapping) (position : Nat) :
    Fills [] (BoundSql.readFrom position mappings) true fun id =>
      handler.registerFrom pipeline id position mappings := by
  induction mappings generalizing position with
  | nil => exact Fills.nothing
  | cons mapping rest ih =>
      unfold BoundSql.readFrom
      split
      case isTrue reads =>
        have registers (type : DbType) :=
          (fills_registerOutput recorded position (some type)).bind (ih (position + 1))
        refine (Fills.lift_bind (handler.outputType mapping) registers).of_eq _ fun id scene => ?_
        rw [registerFrom, if_pos reads]
      case isFalse reads =>
        refine (ih (position + 1)).of_eq _ fun id scene => ?_
        rw [registerFrom, if_neg reads]

theorem fills_parameterize (plain : pipeline.Plain) :
    Fills handler.positions handler.outputs handler.statement.isCallable fun id =>
      handler.parameterize pipeline id := by
  have sets {callable : Bool} : Fills (BoundSql.sentFrom 1 handler.bound.mappings) [] callable
      fun id => handler.setParameters pipeline id := by
    refine (fills_bindFrom handler recorded handler.bound.mappings Nat.one_pos).of_eq _
      fun id scene => ?_
    rw [setParameters, plain.call_eq]
  have supplies : Fills handler.positions handler.outputs handler.statement.isCallable fun id =>
      handler.supply pipeline id := by
    unfold positions outputs supply MappedStatement.isCallable
    cases handler.statement.kind with
    | plain => exact Fills.nothing
    | prepared => exact sets
    | callable =>
        have both := (fills_registerFrom handler recorded handler.bound.mappings 1).bind sets
        rw [List.append_nil] at both
        exact both
  refine supplies.of_eq _ fun id scene => ?_
  rw [parameterize, plain.call_eq]

end

end Handler

structure Transaction.Connected (transaction : Transaction)
    (connections : List RecordedConnection) : Prop where
  isOpen : transaction.closed = false
  connection : ∃ c, transaction.connection = some c ∧ connections[c]?.all (·.closed) = false

inductive Transaction.Usable (transaction : Transaction) (connections : List RecordedConnection) : Prop
  | connected (connected : transaction.Connected connections)
  | unconnected (isOpen : transaction.closed = false) (none : transaction.connection = none)

namespace Handler

variable {pipeline : Pipeline Recording} (handler : Handler)

def fresh (pipeline : Pipeline Recording) (timeout : Option Nat) : RecordedStatement where
  sql := handler.preparedSql pipeline
  options := handler.prepareOptions pipeline timeout

structure Readied (pipeline : Pipeline Recording) (transaction : Transaction)
    (connections : List RecordedConnection) (before after : Scene Recording) : Prop where
  scene : after = { before with
    source := after.source
    executor := { before.executor with transaction := transaction } }
  script : after.source.script = before.source.script
  log : after.source.log = before.source.log
  nextKey : after.source.nextKey = before.source.nextKey
  connections : after.source.connections = connections
  rowSources : after.source.rowSources = before.source.rowSources
  statements : after.source.statements =
    before.source.statements ++ [handler.fresh pipeline transaction.timeout]

namespace Readied

variable {handler} {transaction : Transaction} {connections : List RecordedConnection}
  {before after : Scene Recording}

theorem prepared (readied : handler.Readied pipeline transaction connections before after) :
    after.source.statement before.source.statements.length =
      handler.fresh pipeline transaction.timeout := by
  simp [Recording.statement, readied.statements]

theorem statement_of_lt (readied : handler.Readied pipeline transaction connections before after)
    {id : StatementId} (old : id < before.source.statements.length) :
    after.source.statement id = before.source.statement id := by
  simp [Recording.statement, readied.statements, List.getElem?_append_left old]

end Readied

theorem prepare_of_open (plain : pipeline.Plain) (recorded : pipeline.source = Recording.source)
    {c : ConnectionId} {scene : Scene Recording}
    (isOpen : scene.source.isConnectionClosed c = false) (timeout : Option Nat) :
    ∃ after, handler.prepare pipeline c timeout scene =
        (.ok scene.source.statements.length, scene.withSource after) ∧
      after.script = scene.source.script ∧ after.log = scene.source.log ∧
      after.nextKey = scene.source.nextKey ∧ after.connections = scene.source.connections ∧
      after.rowSources = scene.source.rowSources ∧
      after.statements = scene.source.statements ++ [handler.fresh pipeline timeout] := by
  rw [prepare, plain.call_eq]
  dsimp only
  rw [prepareOn, Action.inContext, recorded, Work.onSource_apply]
  dsimp only [Recording.source]
  unfold Recording.prepare
  rw [Action.bind_apply, Action.get_apply]
  dsimp only
  rw [isOpen]
  exact ⟨_, rfl, rfl, rfl, rfl, rfl, rfl, rfl⟩

def unconnected : Error :=
  (Error.of (.closed "mock connection is closed")).inContext
    s!"Error preparing statement `{handler.statement.id}`"

theorem prepare_of_closed (plain : pipeline.Plain) (recorded : pipeline.source = Recording.source)
    {c : ConnectionId} {scene : Scene Recording}
    (closed : scene.source.isConnectionClosed c = true) (timeout : Option Nat) :
    handler.prepare pipeline c timeout scene = (.error handler.unconnected, scene) := by
  rw [prepare, plain.call_eq]
  dsimp only
  rw [prepareOn, Action.inContext, recorded, Work.onSource_apply]
  dsimp only [Recording.source]
  unfold Recording.prepare
  rw [Action.bind_apply, Action.get_apply]
  dsimp only
  rw [closed]
  rfl

theorem prepareInTransaction_eq (scene : Scene Recording) :
    handler.prepareInTransaction pipeline scene =
      match Transaction.obtain pipeline.source (scene.source, scene.executor.transaction) with
      | (.ok c, source, transaction) =>
          handler.prepare pipeline c scene.executor.transaction.timeout
            { scene with
              source := source
              executor := { scene.executor with transaction := transaction } }
      | (.error e, source, transaction) =>
          (.error e, { scene with
            source := source
            executor := { scene.executor with transaction := transaction } }) := by
  unfold prepareInTransaction
  rw [Action.bind_apply, Work.executor_apply]
  dsimp only
  rw [Action.bind_apply]
  unfold Work.onTransaction Action.within
  dsimp only
  rcases Transaction.obtain pipeline.source (scene.source, scene.executor.transaction) with
    ⟨e | c, source, transaction⟩ <;> rfl

theorem prepareInTransaction_of_connected (plain : pipeline.Plain)
    (recorded : pipeline.source = Recording.source) {scene : Scene Recording}
    (connected : scene.executor.transaction.Connected scene.source.connections) :
    ∃ after, handler.prepareInTransaction pipeline scene =
        (.ok scene.source.statements.length, after) ∧
      handler.Readied pipeline scene.executor.transaction scene.source.connections scene after := by
  obtain ⟨isOpen, c, own, alive⟩ := connected
  obtain ⟨after, prepared, script, log, nextKey, same, rows, statements⟩ :=
    @prepare_of_open pipeline handler plain recorded c scene alive scene.executor.transaction.timeout
  refine ⟨scene.withSource after, ?_, rfl, script, log, nextKey, same, rows, statements⟩
  rw [prepareInTransaction_eq, obtain_of_connected isOpen own]
  exact prepared

theorem prepareInTransaction_of_unusable (plain : pipeline.Plain)
    (recorded : pipeline.source = Recording.source) {transaction : Transaction}
    {connections : List RecordedConnection} (unusable : ¬transaction.Usable connections) :
    ∃ e, ∀ scene : Scene Recording, scene.executor.transaction = transaction →
      scene.source.connections = connections →
        handler.prepareInTransaction pipeline scene = (.error e, scene) := by
  cases closed : transaction.closed with
  | true =>
      refine ⟨.of (.closed "transaction already closed"), ?_⟩
      rintro scene rfl rfl
      rw [prepareInTransaction_eq, obtain_of_closed closed]
  | false =>
    cases own : transaction.connection with
    | none => exact absurd (.unconnected closed own) unusable
    | some c =>
        cases alive : connections[c]?.all (·.closed) with
        | true =>
            refine ⟨handler.unconnected, ?_⟩
            rintro scene rfl rfl
            rw [prepareInTransaction_eq, obtain_of_connected closed own]
            exact prepare_of_closed handler plain recorded alive _
        | false => exact absurd (.connected ⟨closed, c, own, alive⟩) unusable

theorem prepareInTransaction_of_usable (plain : pipeline.Plain)
    (recorded : pipeline.source = Recording.source) {transaction : Transaction}
    {connections : List RecordedConnection} (usable : transaction.Usable connections) :
    ∃ transaction' connections', transaction'.Connected connections' ∧
      (transaction.Connected connections → transaction' = transaction ∧ connections' = connections) ∧
      ∀ scene : Scene Recording, scene.executor.transaction = transaction →
        scene.source.connections = connections →
          ∃ after, handler.prepareInTransaction pipeline scene =
              (.ok scene.source.statements.length, after) ∧
            handler.Readied pipeline transaction' connections' scene after := by
  cases usable with
  | connected connected =>
      refine ⟨transaction, connections, connected, fun _ => ⟨rfl, rfl⟩, ?_⟩
      rintro scene rfl rfl
      exact prepareInTransaction_of_connected handler plain recorded connected
  | unconnected closed own =>
      -- The new connection has the next number, and it is open.
      have alive : (connections ++ [RecordedConnection.mk transaction.autocommit false])[
          connections.length]?.all (·.closed) = false := by simp
      refine ⟨{ transaction with connection := some connections.length },
        connections ++ [RecordedConnection.mk transaction.autocommit false],
        ⟨closed, _, rfl, alive⟩, fun connected => ?_, ?_⟩
      · obtain ⟨-, c, own', -⟩ := connected
        cases own.symm.trans own'
      · rintro scene rfl rfl
        have opened : pipeline.source.connect scene.executor.transaction.autocommit scene.source =
            (.ok scene.source.connections.length,
              (Recording.connect scene.executor.transaction.autocommit scene.source).2) := by
          rw [recorded]
          rfl
        rw [prepareInTransaction_eq, obtain_of_opened closed own opened]
        obtain ⟨after, prepared, script, log, nextKey, same, rows, statements⟩ :=
          @prepare_of_open pipeline handler plain recorded scene.source.connections.length
            { scene with
              source := (Recording.connect scene.executor.transaction.autocommit scene.source).2
              executor := { scene.executor with
                transaction := { scene.executor.transaction with
                  connection := some scene.source.connections.length } } }
            alive scene.executor.transaction.timeout
        exact ⟨_, prepared, rfl, script, log, nextKey, same, rows, statements⟩

/-- Whether a statement can be prepared depends on the transaction and the connections alone, and so do
the transaction and the connections afterwards. -/
theorem prepareInTransaction_apply (plain : pipeline.Plain)
    (recorded : pipeline.source = Recording.source) (transaction : Transaction)
    (connections : List RecordedConnection) :
    (¬transaction.Connected connections ∧ ∃ e, ∀ scene : Scene Recording,
      scene.executor.transaction = transaction → scene.source.connections = connections →
        handler.prepareInTransaction pipeline scene = (.error e, scene)) ∨
    ∃ transaction' connections', transaction'.Connected connections' ∧
      (transaction.Connected connections → transaction' = transaction ∧ connections' = connections) ∧
      ∀ scene : Scene Recording, scene.executor.transaction = transaction →
        scene.source.connections = connections →
          ∃ after, handler.prepareInTransaction pipeline scene =
              (.ok scene.source.statements.length, after) ∧
            handler.Readied pipeline transaction' connections' scene after := by
  by_cases usable : transaction.Usable connections
  · exact .inr (prepareInTransaction_of_usable handler plain recorded usable)
  · exact .inl ⟨fun connected => usable (.connected connected),
      prepareInTransaction_of_unusable handler plain recorded usable⟩

def readBack (script : Script) : Nat → List ParameterMapping → Action Value Unit
  | _, [] => return ()
  | position, mapping :: rest => do
      if mapping.direction.isOutput then
        set (← (← get).setPath mapping.property (script.output position))
      readBack script (position + 1) rest

def takeKeys (keys : List Value) : Action Value Unit := do
  if handler.statement.keys.isEnabled then
    let (assigned, result) := handler.statement.keys.assignKeys (← get) keys
    set assigned
    result

def settle (script : Script) (keys : List Value) : Action Value Unit := do
  handler.takeKeys keys
  if handler.statement.isCallable then readBack script 1 handler.bound.mappings

def asked : Nat :=
  if handler.statement.keys.isEnabled then 1 else 0

def Registered (scene : Scene Recording) (id : StatementId) (positions : List Nat) : Prop :=
  ∀ position ∈ positions, position ∈ (scene.source.statement id).registered

section

variable {handler}

theorem readFrom_apply (recorded : pipeline.source = Recording.source) {id : StatementId}
    (mappings : List ParameterMapping) (position : Nat) (scene : Scene Recording)
    (registered : Registered scene id (BoundSql.readFrom position mappings)) :
    readFrom pipeline id position mappings scene =
      ((readBack scene.source.script position mappings scene.parameter).1,
        { scene with
          parameter := (readBack scene.source.script position mappings scene.parameter).2 }) := by
  induction mappings generalizing position scene with
  | nil => rfl
  | cons mapping rest ih =>
      unfold readFrom readBack
      unfold BoundSql.readFrom at registered
      split
      case isTrue reads =>
        rw [if_pos reads] at registered
        have here := Recording.output_apply (registered position List.mem_cons_self)
        have later : Registered scene id (BoundSql.readFrom (position + 1) rest) :=
          fun other mem => registered other (List.mem_cons_of_mem _ mem)
        simp only [recorded, Action.bind_apply, Work.onSource_apply, Action.get_apply]
        rw [show Recording.source.output id position scene.source = _ from here]
        dsimp only [Work.parameter, Action.read, Scene.withSource]
        cases scene.parameter.setPath mapping.property (scene.source.script.output position) with
        | error e => rfl
        | ok value => exact ih (position + 1) { scene with parameter := value } later
      case isFalse reads =>
        rw [if_neg reads] at registered
        exact ih (position + 1) scene registered

theorem assignKeys_apply (recorded : pipeline.source = Recording.source) (id : StatementId)
    (scene : Scene Recording) :
    ∃ after, handler.assignKeys pipeline id scene =
        ((handler.takeKeys (scene.source.statement id).keys scene.parameter).1,
          { scene with
            source := after
            parameter := (handler.takeKeys (scene.source.statement id).keys scene.parameter).2 }) ∧
      (after = scene.source ∨
        after = scene.source.alter id fun statement => { statement with keys := [] }) := by
  unfold assignKeys takeKeys
  cases handler.statement.keys.isEnabled with
  | false => exact ⟨scene.source, rfl, .inl rfl⟩
  | true =>
      refine ⟨_, ?_, .inr rfl⟩
      simp only [recorded, if_true, Action.bind_apply, Work.onSource_apply, Action.get_apply]
      dsimp only [Recording.source]
      rw [Recording.generatedKeys_apply]
      rfl

theorem update_of_refused (plain : pipeline.Plain) (recorded : pipeline.source = Recording.source)
    {id : StatementId} {scene : Scene Recording} (isOpen : scene.source.IsOpen id) {e : Error}
    (refused : scene.source.script.check (scene.source.statement id).sql = .error e) :
    handler.update pipeline id scene = (.error e, scene) := by
  rw [update, plain.call_eq]
  dsimp only
  rw [executeUpdate, Action.bind_apply, recorded, Work.onSource_apply]
  dsimp only [Recording.source]
  rw [Recording.update_of_refused isOpen refused]
  rfl

theorem update_of_checked (plain : pipeline.Plain)
    (recorded : pipeline.source = Recording.source) {id : StatementId} {scene : Scene Recording}
    (isOpen : scene.source.IsOpen id)
    (checked : scene.source.script.check (scene.source.statement id).sql = .ok ())
    (asks : (scene.source.statement id).options.returnKeys = handler.statement.keys.isEnabled)
    (registered : Registered scene id handler.outputs) :
    ∃ after, scene.source.Executed id handler.asked after ∧
      after.rowSources = scene.source.rowSources ∧
      handler.update pipeline id scene =
        ((handler.settle scene.source.script (keysFrom scene.source.nextKey handler.asked)
            scene.parameter).1.map fun _ => scene.source.script.updateCount,
          { scene with
            source := after
            parameter := (handler.settle scene.source.script
              (keysFrom scene.source.nextKey handler.asked) scene.parameter).2 }) := by
  obtain ⟨middle, updated, executed, rows, keys⟩ := Recording.update_of_checked isOpen checked
  rw [asks] at executed keys
  have keys : (middle.statement id).keys = keysFrom scene.source.nextKey handler.asked := keys
  obtain ⟨after, assigned, left⟩ := @assignKeys_apply pipeline handler recorded id
    (scene.withSource middle)
  have executed' : scene.source.Executed id handler.asked after := by
    rcases left with rfl | rfl
    · exact executed
    · exact executed.withKeys []
  have rows' : after.rowSources = scene.source.rowSources := by
    rcases left with rfl | rfl <;> exact rows
  refine ⟨after, executed', rows', ?_⟩
  obtain ⟨more, own⟩ := executed'.statement isOpen.lt
  dsimp only [Scene.withSource] at assigned
  rw [keys] at assigned
  rw [update, plain.call_eq]
  dsimp only
  unfold executeUpdate settle
  rw [Action.bind_apply, recorded, Work.onSource_apply]
  dsimp only [Recording.source]
  rw [updated]
  dsimp only [Scene.withSource]
  rw [Action.bind_apply, assigned, Action.bind_apply]
  -- keys come first, and outputs are read only if they could be taken
  rcases handler.takeKeys (keysFrom scene.source.nextKey handler.asked) scene.parameter with
    ⟨e | u, parameter⟩
  · rfl
  · dsimp only
    unfold outputs at registered
    cases callable : handler.statement.isCallable with
    | false => rfl
    | true =>
        rw [callable] at registered
        have registered' : Registered { scene with source := after, parameter := parameter } id
            (BoundSql.readFrom 1 handler.bound.mappings) := by
          intro position mem
          have before := registered position mem
          simpa only [own] using before
        rw [if_pos rfl, if_pos rfl, Action.bind_apply, readOutputs, plain.call_eq]
        dsimp only
        rw [readFrom_apply recorded _ _ _ registered', executed'.script]
        rcases readBack scene.source.script 1 handler.bound.mappings parameter with ⟨e | u, last⟩
        · rfl
        · rfl

theorem query_of_refused (plain : pipeline.Plain) (recorded : pipeline.source = Recording.source)
    {id : StatementId} {scene : Scene Recording} (isOpen : scene.source.IsOpen id) {e : Error}
    (refused : scene.source.script.check (scene.source.statement id).sql = .error e) :
    handler.query pipeline id scene = (.error e, scene) := by
  rw [query, plain.call_eq]
  dsimp only
  rw [Action.bind_apply, recorded, Work.onSource_apply]
  dsimp only [Recording.source]
  rw [Recording.query_of_refused isOpen refused]
  rfl

theorem query_of_checked (plain : pipeline.Plain) (recorded : pipeline.source = Recording.source)
    {id : StatementId} {scene : Scene Recording} (isOpen : scene.source.IsOpen id)
    (checked : scene.source.script.check (scene.source.statement id).sql = .ok ()) :
    ∃ after, scene.source.Executed id 0 after ∧ after.rowSources = scene.source.rowSources ∧
      handler.query pipeline id scene =
        ((rowsOf scene.source.script (scene.source.statement id).sql).mapRows
          handler.statement.mapper handler.bounds, scene.withSource after) := by
  obtain ⟨after, answered, executed, rows⟩ := Recording.query_of_checked isOpen checked
  refine ⟨after, executed, rows, ?_⟩
  rw [query, plain.call_eq]
  dsimp only
  rw [Action.bind_apply, recorded, Work.onSource_apply]
  dsimp only [Recording.source]
  rw [answered]
  dsimp only
  rw [mapResults, plain.call_eq]
  rfl

theorem queryCursor_of_refused (plain : pipeline.Plain)
    (recorded : pipeline.source = Recording.source) {id : StatementId} {scene : Scene Recording}
    (isOpen : scene.source.IsOpen id) {e : Error}
    (refused : scene.source.script.check (scene.source.statement id).sql = .error e) :
    ∃ after, scene.source.Closed id after ∧
      handler.queryCursor pipeline id scene = (.error e, scene.withSource after) := by
  refine ⟨_, (Recording.finishStatement_apply scene.source id).2, ?_⟩
  rw [queryCursor, plain.call_eq]
  dsimp only
  rw [openCursor, Action.bind_apply, Action.attempt, recorded, Action.bind_apply,
    Work.onSource_apply]
  dsimp only [Recording.source]
  rw [Recording.openRows_of_refused isOpen refused]
  rfl

theorem queryCursor_of_checked (plain : pipeline.Plain)
    (recorded : pipeline.source = Recording.source) {id : StatementId} {scene : Scene Recording}
    (isOpen : scene.source.IsOpen id)
    (checked : scene.source.script.check (scene.source.statement id).sql = .ok ()) :
    ∃ after, scene.source.Executed id 0 after ∧
      after.rowSources = scene.source.rowSources ++
        [⟨(scene.source.script.rowsFor (scene.source.statement id).sql).1,
          (scene.source.script.rowsFor (scene.source.statement id).sql).2, false⟩] ∧
      handler.queryCursor pipeline id scene =
        (.ok { rows := some scene.source.rowSources.length, statement := some id,
               mapper := handler.statement.mapper, bounds := handler.bounds },
          scene.withSource after) := by
  obtain ⟨after, opened, executed, rows⟩ := Recording.openRows_of_checked isOpen checked
  refine ⟨after, executed, rows, ?_⟩
  rw [queryCursor, plain.call_eq]
  dsimp only
  rw [openCursor, Action.bind_apply, Action.attempt, recorded, Action.bind_apply,
    Work.onSource_apply]
  dsimp only [Recording.source]
  rw [opened]
  dsimp only
  rw [mapCursor, plain.call_eq]
  rfl

end

end Handler

namespace Strategy

variable {pipeline : Pipeline Recording}

theorem closeQuietly_apply (recorded : pipeline.source = Recording.source) (id : StatementId)
    (scene : Scene Recording) :
    ∃ after, scene.source.Closed id after ∧
      closeQuietly pipeline id scene = (.ok (), scene.withSource after) := by
  refine ⟨_, (Recording.finishStatement_apply scene.source id).2, ?_⟩
  rw [← recorded]
  rfl

theorem withStatement_apply (recorded : pipeline.source = Recording.source) (id : StatementId)
    (use : Work Recording α) (scene : Scene Recording) :
    ∃ after, (use scene).2.source.Closed id after ∧
      withStatement pipeline id use scene = ((use scene).1, (use scene).2.withSource after) := by
  obtain ⟨done, closed⟩ := Recording.finishStatement_apply (use scene).2.source id
  refine ⟨_, closed, ?_⟩
  unfold withStatement
  simp only [Action.bind_apply, Action.attempt, recorded, Work.onSource_apply]
  rw [done]
  cases (use scene).1 <;> rfl

section

variable {handler : Handler} {statement : MappedStatement} {scene : Scene Recording}

theorem update_of_bound {bound : BoundSql}
    (found : statement.boundSql scene.parameter pipeline.setting = .ok bound) :
    update pipeline statement scene =
      match scene.executor.strategy with
      | .simple => updateOnce pipeline ⟨statement, bound, .unbounded⟩ scene
      | .reuse _ => updateHeld pipeline ⟨statement, bound, .unbounded⟩ scene
      | .batch _ _ => queueUpdate pipeline ⟨statement, bound, .unbounded⟩ scene := by
  have made : Handler.forParameter pipeline statement scene =
      (.ok ⟨statement, bound, .unbounded⟩, scene) := by
    unfold Handler.forParameter
    rw [Action.bind_apply]
    dsimp only [Work.parameter, Action.read]
    rw [found]
    rfl
  unfold update
  rw [Action.bind_apply, made]
  dsimp only
  rw [Action.bind_apply, Work.executor_apply]
  dsimp only
  cases scene.executor.strategy <;> rfl

theorem update_of_unbound {e : Error}
    (unbound : statement.boundSql scene.parameter pipeline.setting = .error e) :
    update pipeline statement scene = (.error e, scene) := by
  have made : Handler.forParameter pipeline statement scene = (.error e, scene) := by
    unfold Handler.forParameter
    rw [Action.bind_apply]
    dsimp only [Work.parameter, Action.read]
    rw [unbound]
    rfl
  unfold update
  rw [Action.bind_apply, made]

theorem query_apply (pipeline : Pipeline Recording) (handler : Handler) (scene : Scene Recording) :
    query pipeline handler scene =
      match scene.executor.strategy with
      | .simple => queryOnce pipeline handler scene
      | .reuse _ => queryHeld pipeline handler scene
      | .batch _ _ =>
          (flushPending pipeline false >>= fun _ => queryOnce pipeline handler) scene := by
  unfold query
  rw [Action.bind_apply, Work.executor_apply]
  dsimp only
  cases scene.executor.strategy <;> rfl

theorem openCursor_apply (pipeline : Pipeline Recording) (handler : Handler) (scene : Scene Recording) :
    openCursor pipeline handler scene =
      match scene.executor.strategy with
      | .simple => openOnce pipeline handler scene
      | .reuse _ => openHeld pipeline handler scene
      | .batch _ _ =>
          (flushPending pipeline false >>= fun _ => openOnce pipeline handler) scene := by
  unfold openCursor
  rw [Action.bind_apply, Work.executor_apply]
  dsimp only
  cases scene.executor.strategy <;> rfl

theorem flush_apply (pipeline : Pipeline Recording) (givingUp : Bool) (scene : Scene Recording) :
    flush pipeline givingUp scene =
      match scene.executor.strategy with
      | .simple => (.ok [], scene)
      | .reuse held =>
          (Work.setStrategy (.reuse []) >>= fun _ => closeHeld pipeline held >>= fun _ => pure []) scene
      | .batch _ _ => flushPending pipeline givingUp scene := by
  unfold flush
  rw [Action.bind_apply, Work.executor_apply]
  dsimp only
  cases scene.executor.strategy <;> rfl

end

end Strategy

end MappedSql
