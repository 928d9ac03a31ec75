import MappedSql.Proofs.Execution.Reused

namespace MappedSql

open Recording (Executed)

variable {S α β : Type}

/-- What a recording has logged meanwhile. Statements are added, and those that there were keep their SQL
and what is queued on them. -/
structure Recording.Logs (executions : List Execution) (before after : Recording) : Prop where
  log : after.log = before.log ++ executions
  length : before.statements.length ≤ after.statements.length
  same : ∀ st < before.statements.length, (after.statement st).sql = (before.statement st).sql ∧
    (after.statement st).batch = (before.statement st).batch

namespace Recording.Logs

variable {executions more : List Execution} {before middle after : Recording}

theorem refl (recording : Recording) : recording.Logs [] recording :=
  ⟨(List.append_nil _).symm, Nat.le_refl _, fun _ _ => ⟨rfl, rfl⟩⟩

theorem trans (left : before.Logs executions middle) (right : middle.Logs more after) :
    before.Logs (executions ++ more) after where
  log := by rw [right.log, left.log, List.append_assoc]
  length := Nat.le_trans left.length right.length
  same := fun st old =>
    have now := right.same st (Nat.lt_of_lt_of_le old left.length)
    ⟨now.1.trans (left.same st old).1, now.2.trans (left.same st old).2⟩

theorem of_one {st : StatementId} (log : after.log = before.log ++ executions)
    (length : after.statements.length = before.statements.length)
    (same : st < before.statements.length → (after.statement st).sql = (before.statement st).sql ∧
      (after.statement st).batch = (before.statement st).batch)
    (others : ∀ other, other ≠ st → after.statement other = before.statement other) :
    before.Logs executions after where
  log := log
  length := Nat.le_of_eq length.symm
  same := fun other old => by
    by_cases equal : other = st
    · subst equal
      exact same old
    · rw [others other equal]
      exact ⟨rfl, rfl⟩

theorem alter (recording : Recording) (st : StatementId)
    {change : RecordedStatement → RecordedStatement}
    (same : ∀ statement, (change statement).sql = statement.sql ∧
      (change statement).batch = statement.batch) :
    recording.Logs [] (recording.alter st change) :=
  of_one (List.append_nil _).symm (List.length_modify _ _ _)
    (fun old => statement_alter_self old change ▸ same _) fun _ differ =>
      statement_alter_of_ne differ change

theorem executed {st : StatementId} {generated : Nat}
    (executed : Executed st generated before after) :
    before.Logs [⟨(before.statement st).sql, (before.statement st).parameters⟩] after := by
  refine of_one executed.log executed.length (fun old => ?_) executed.others
  obtain ⟨keys, same⟩ := executed.statement old
  rw [same]
  exact ⟨rfl, rfl⟩

theorem finishStatement (recording : Recording) (st : StatementId) :
    recording.Logs [] (source.finishStatement st recording).2 := by
  have finish : (source.finishStatement st recording).2 = (closeStatement st recording).2 := rfl
  have closed := (finishStatement_apply recording st).2
  refine of_one (closed.log.trans (List.append_nil _).symm) closed.length (fun old => ?_) closed.others
  rw [finish]
  unfold closeStatement
  rw [Action.bind_apply, Action.get_apply]
  dsimp only
  split
  · exact ⟨rfl, rfl⟩
  · have changed := statement_alter_self old fun statement => { statement with closed := true }
    exact ⟨(congrArg RecordedStatement.sql changed :), (congrArg RecordedStatement.batch changed :)⟩

theorem of_statements (log : after.log = before.log) (statements : after.statements = before.statements) :
    before.Logs [] after where
  log := log.trans (List.append_nil _).symm
  length := Nat.le_of_eq (congrArg List.length statements.symm)
  same := fun st _ => by
    rw [statement, statement, statements]
    exact ⟨rfl, rfl⟩

end Recording.Logs

def Action.Unlogged (view : S → Recording) (act : Action S α) : Prop :=
  ∀ state, (view state).Logs [] (view (act state).2)

namespace Action.Unlogged

variable {view : S → Recording} {act : Action S α}

theorem bind {next : α → Action S β} (first : Unlogged view act)
    (second : ∀ a, Unlogged view (next a)) : Unlogged view (act >>= next) :=
  Action.related_bind (fun before after => (view before).Logs [] (view after))
    (fun left right => left.trans right) first second

theorem pure (a : α) : Unlogged view (Pure.pure a : Action S α) :=
  fun _ => .refl _

theorem throw (e : Error) : Unlogged view (MonadExcept.throw e : Action S α) :=
  fun _ => .refl _

theorem ofResult (result : Except Error α) : Unlogged view (liftM result : Action S α) :=
  fun _ => .refl _

theorem get : Unlogged view (MonadState.get : Action S S) :=
  fun _ => .refl _

theorem attempt (unlogged : Unlogged view act) : Unlogged view act.attempt :=
  unlogged

theorem quietly (unlogged : Unlogged view act) : Unlogged view act.quietly :=
  unlogged

theorem onFirst {T : Type} (unlogged : Unlogged view act) :
    Unlogged (fun state : S × T => view state.1) act.onFirst :=
  fun state => unlogged state.1

end Action.Unlogged

structure Scene.Logs (executions : List Execution) (before after : Scene Recording) : Prop where
  source : before.source.Logs executions after.source
  strategy : after.executor.strategy = before.executor.strategy
  closed : after.executor.closed = before.executor.closed

namespace Scene.Logs

variable {executions more : List Execution} {before middle after : Scene Recording}

theorem refl (scene : Scene Recording) : scene.Logs [] scene :=
  ⟨.refl _, rfl, rfl⟩

theorem trans (left : before.Logs executions middle) (right : middle.Logs more after) :
    before.Logs (executions ++ more) after where
  source := left.source.trans right.source
  strategy := right.strategy.trans left.strategy
  closed := right.closed.trans left.closed

theorem quiet_trans (left : before.Logs [] middle) (right : middle.Logs executions after) :
    before.Logs executions after :=
  left.trans right

theorem trans_quiet (left : before.Logs executions middle) (right : middle.Logs [] after) :
    before.Logs executions after := by
  have whole := left.trans right
  rwa [List.append_nil] at whole

theorem withSource {source : Recording} (logs : before.source.Logs executions source) :
    before.Logs executions (before.withSource source) :=
  ⟨logs, rfl, rfl⟩

theorem bind {act : Work Recording α} {next : α → Work Recording β}
    (first : ∀ scene, Logs [] scene (act scene).2)
    (second : ∀ a scene, Logs [] scene (next a scene).2) (scene : Scene Recording) :
    scene.Logs [] ((act >>= next) scene).2 :=
  Action.related_bind (Logs []) (fun left right => left.trans right) first second scene

end Scene.Logs

theorem Handler.Readied.logs {pipeline : Pipeline Recording} {handler : Handler}
    {transaction : Transaction} {connections : List RecordedConnection}
    {before after : Scene Recording}
    (readied : handler.Readied pipeline transaction connections before after) :
    before.Logs [] after where
  source := by
    refine ⟨readied.log.trans (List.append_nil _).symm, ?_, fun st old => ?_⟩
    · rw [readied.statements, List.length_append]
      exact Nat.le_add_right _ _
    · rw [readied.statement_of_lt old]
      exact ⟨rfl, rfl⟩
  strategy := by rw [readied.scene]
  closed := by rw [readied.scene]

theorem Recording.alter_unfilled (recording : Recording) (st : StatementId) :
    recording.alter st (Filling.mk [] []).fill = recording := by
  have unchanged : (Filling.mk [] []).fill = id := rfl
  rw [unchanged, alter, List.modify_id]

theorem Recording.IsOpen.filled {recording : Recording} {st : StatementId}
    (isOpen : recording.IsOpen st) (filling : Filling) :
    (recording.alter st filling.fill).IsOpen st := by
  rw [IsOpen, statement_alter_self isOpen.lt]
  exact isOpen

theorem Recording.alter_andThen (recording : Recording) (st : StatementId) (first second : Filling) :
    (recording.alter st first.fill).alter st second.fill =
      recording.alter st (first.andThen second).fill := by
  rw [alter_alter, Filling.fill_andThen]

theorem Recording.place_apply {st : StatementId} (values : List (Nat × Value))
    (counted : ∀ entry ∈ values, 0 < entry.1) {recording : Recording} (isOpen : recording.IsOpen st) :
    source.place st values recording = (.ok (), recording.alter st (Filling.mk [] values).fill) := by
  induction values generalizing recording with
  | nil =>
      rw [alter_unfilled]
      rfl
  | cons entry rest ih =>
      obtain ⟨first, others⟩ := List.forall_mem_cons.1 counted
      have set : source.setParameter st entry.1 entry.2 recording =
          (.ok (), recording.alter st (Filling.mk [] [entry]).fill) :=
        setParameter_apply isOpen first entry.2
      rw [DataSource.place, Action.bind_apply, set]
      refine (ih others (isOpen.filled _)).trans ?_
      rw [alter_andThen]
      rfl

theorem Recording.openStatement_of_closed {recording : Recording} {st : StatementId}
    (closed : ¬recording.IsOpen st) :
    ∃ e, openStatement st recording = (.error e, recording) := by
  unfold openStatement
  rw [Action.bind_apply, Action.read]
  dsimp only
  rw [if_pos (Bool.not_eq_false _ ▸ closed)]
  exact ⟨_, rfl⟩

theorem Recording.place_of_closed {st : StatementId} (values : List (Nat × Value))
    {recording : Recording} (closed : ¬recording.IsOpen st) :
    (source.place st values recording).2 = recording := by
  cases values with
  | nil => rfl
  | cons entry rest =>
      obtain ⟨e, failed⟩ := openStatement_of_closed closed
      have refused : source.setParameter st entry.1 entry.2 recording = (.error e, recording) := by
        dsimp only [source]
        rw [setParameter, Action.bind_apply, failed]
      rw [DataSource.place, Action.bind_apply, refused]

theorem BoundSql.pos_of_placedFrom {bound : BoundSql} (mappings : List ParameterMapping)
    {position : Nat} (counted : 0 < position) :
    ∀ entry ∈ bound.placedFrom position mappings, 0 < entry.1 := by
  induction mappings generalizing position with
  | nil => nofun
  | cons mapping rest ih =>
      unfold placedFrom
      have later := ih (Nat.succ_pos position)
      split
      · split
        · exact List.forall_mem_cons.2 ⟨counted, later⟩
        · nofun
      · exact later

namespace Handler

variable {pipeline : Pipeline Recording} (handler : Handler)

section

variable (recorded : pipeline.source = Recording.source) {st : StatementId}

include recorded

theorem registerFrom_after (mappings : List ParameterMapping) (position : Nat)
    (scene : Scene Recording) :
    ∃ registered, (handler.registerFrom pipeline st position mappings scene).2 =
      scene.withSource (scene.source.alter st (Filling.mk registered []).fill) := by
  have nothing (scene : Scene Recording) : ∃ registered, scene =
      scene.withSource (scene.source.alter st (Filling.mk registered []).fill) := by
    refine ⟨[], ?_⟩
    rw [Recording.alter_unfilled]
    rfl
  induction mappings generalizing position scene with
  | nil => exact nothing scene
  | cons mapping rest ih =>
      unfold registerFrom
      split
      case isFalse => exact ih (position + 1) scene
      case isTrue =>
        rw [Action.bind_apply]
        cases handler.outputType mapping with
        | error e => exact nothing scene
        | ok type =>
            rw [Work.lift_apply]
            dsimp only
            rw [Action.bind_apply, recorded, Work.onSource_apply]
            dsimp only [Recording.source]
            cases callable : (scene.source.statement st).options.callable with
            | true =>
                rw [Recording.registerOutput_apply callable]
                obtain ⟨registered, after⟩ := ih (position + 1) (scene.withSource
                  (scene.source.alter st (Filling.mk [position] []).fill))
                refine ⟨registered ++ [position], after.trans ?_⟩
                exact congrArg scene.withSource (Recording.alter_andThen _ _ _ _)
            | false =>
                -- a statement that is not callable refuses outputs, and the registration ends there
                have refused : (Recording.registerOutput st position (some type) scene.source).2 =
                    scene.source ∧
                    (Recording.registerOutput st position (some type) scene.source).1.isOk = false := by
                  unfold Recording.registerOutput
                  rw [Action.bind_apply, Action.read]
                  dsimp only
                  rw [callable]
                  exact ⟨rfl, rfl⟩
                rcases went : Recording.registerOutput st position (some type) scene.source with
                  ⟨e | u, after⟩
                · rw [went] at refused
                  obtain rfl : after = scene.source := refused.1
                  exact nothing scene
                · rw [went] at refused
                  cases refused.2

theorem setParameters_filled (plain : pipeline.Plain) (scene : Scene Recording) :
    ∃ placed, (handler.setParameters pipeline st scene).2 =
        scene.withSource (scene.source.alter st (Filling.mk [] placed).fill) ∧
      (scene.source.IsOpen st → placed = handler.bound.placedFrom 1 handler.bound.mappings) := by
  rw [handler.setParameters_after plain, recorded]
  by_cases isOpen : scene.source.IsOpen st
  · rw [Recording.place_apply _ (BoundSql.pos_of_placedFrom _ Nat.one_pos) isOpen]
    exact ⟨_, rfl, fun _ => rfl⟩
  · rw [Recording.place_of_closed _ isOpen]
    refine ⟨[], ?_, fun opened => absurd opened isOpen⟩
    rw [Recording.alter_unfilled]
    rfl

/-- Setting the parameters of an invocation fills its statement, and if that is open and it goes through,
with the values of the invocation. -/
theorem parameterize_after (plain : pipeline.Plain) (scene : Scene Recording) :
    ∃ filling : Filling, (handler.parameterize pipeline st scene).2 =
        scene.withSource (scene.source.alter st filling.fill) ∧
      (scene.source.IsOpen st → (handler.parameterize pipeline st scene).1.isOk = true →
        filling.placed = handler.placed) := by
  have supplies : handler.parameterize pipeline st scene = handler.supply pipeline st scene := by
    rw [parameterize, plain.call_eq]
  rw [supplies]
  unfold supply placed
  cases handler.statement.kind with
  | plain =>
      refine ⟨⟨[], []⟩, ?_, fun _ _ => rfl⟩
      rw [Recording.alter_unfilled]
      rfl
  | prepared =>
      obtain ⟨values, after, all⟩ := handler.setParameters_filled recorded plain scene
      exact ⟨_, after, fun isOpen _ => all isOpen⟩
  | callable =>
      -- outputs are registered first, and the values are placed on what this leaves
      obtain ⟨registered, after⟩ :=
        handler.registerFrom_after recorded handler.bound.mappings 1 scene
      dsimp only
      rw [Action.bind_apply]
      rcases went : handler.registerFrom pipeline st 1 handler.bound.mappings scene with ⟨e | u, middle⟩
      · rw [went] at after
        exact ⟨_, after, fun _ no => (Bool.false_ne_true no).elim⟩
      · rw [went] at after
        obtain rfl : middle = _ := after
        obtain ⟨values, after, all⟩ := handler.setParameters_filled recorded plain
          (scene.withSource (scene.source.alter st (Filling.mk registered []).fill))
        dsimp only
        rw [after]
        refine ⟨_, congrArg scene.withSource (Recording.alter_andThen _ _ _ _), fun isOpen _ => ?_⟩
        exact (List.nil_append _).trans (all (isOpen.filled _))

end

def Runs (pipeline : Pipeline Recording) (handler : Handler) (execution : Execution) : Prop :=
  execution.sql = handler.preparedSql pipeline ∧
    ∃ parameters, execution.parameters = placeAll parameters handler.placed

end Handler

def Recording.execution (recording : Recording) (st : StatementId) : Execution :=
  ⟨(recording.statement st).sql, (recording.statement st).parameters⟩

def Scene.Executes (st : StatementId) (before : Scene Recording)
    (went : Except Error α × Scene Recording) : Prop :=
  went.1.isOk = false ∧ before.Logs [] went.2 ∨ before.Logs [before.source.execution st] went.2

theorem Scene.Logs.alter (scene : Scene Recording) (st : StatementId)
    {change : RecordedStatement → RecordedStatement}
    (same : ∀ statement, (change statement).sql = statement.sql ∧
      (change statement).batch = statement.batch) :
    scene.Logs [] (scene.withSource (scene.source.alter st change)) :=
  .withSource (.alter _ st same)

theorem Scene.Logs.finishStatement (scene : Scene Recording) (st : StatementId) :
    scene.Logs [] (scene.withSource (Recording.source.finishStatement st scene.source).2) :=
  .withSource (.finishStatement _ st)

theorem Recording.Executed.logs {st : StatementId} {generated : Nat} {scene : Scene Recording}
    {after : Recording} (executed : Executed st generated scene.source after) :
    scene.Logs [scene.source.execution st] (scene.withSource after) :=
  .withSource (.executed executed)

namespace Handler

variable {pipeline : Pipeline Recording} {handler : Handler}
  (recorded : pipeline.source = Recording.source) {st : StatementId} {scene : Scene Recording}

include recorded

theorem logs_readFrom (mappings : List ParameterMapping) (position : Nat) (scene : Scene Recording) :
    scene.Logs [] (readFrom pipeline st position mappings scene).2 := by
  induction mappings generalizing position scene with
  | nil => exact .refl scene
  | cons mapping rest ih =>
      unfold readFrom
      split
      case isFalse => exact ih (position + 1) scene
      case isTrue =>
        refine .bind (fun scene => ?_) (fun value => .bind (.refl ·) fun _ =>
          .bind (.refl ·) fun _ => .bind (fun scene => ?_) fun _ => ih (position + 1)) scene
        · rw [recorded, Work.onSource_apply]
          dsimp only [Recording.source]
          unfold Recording.output
          rw [Action.bind_apply, Action.get_apply]
          dsimp only
          split <;> exact .refl scene
        · exact ⟨.refl _, rfl, rfl⟩

theorem logs_broughtBack (plain : pipeline.Plain) (count : Nat) (scene : Scene Recording) :
    scene.Logs [] ((do
      handler.assignKeys pipeline st
      if handler.statement.isCallable then handler.readOutputs pipeline st
      return count : Work Recording Nat) scene).2 := by
  refine .bind (fun scene => ?_) (fun _ scene => ?_) scene
  · obtain ⟨after, assigned, left⟩ := @assignKeys_apply pipeline handler recorded st scene
    rw [assigned]
    obtain rfl | rfl := left
    · exact ⟨.refl _, rfl, rfl⟩
    · exact ⟨.alter _ _ fun _ => ⟨rfl, rfl⟩, rfl, rfl⟩
  · dsimp only
    split
    · refine .bind (fun scene => ?_) (fun _ => .refl) scene
      rw [readOutputs, plain.call_eq]
      exact logs_readFrom recorded _ _ scene
    · exact .refl scene

theorem runs_update (plain : pipeline.Plain) (isOpen : scene.source.IsOpen st) :
    scene.Executes st (handler.update pipeline st scene) := by
  cases checked : scene.source.script.check (scene.source.statement st).sql with
  | error e =>
      rw [update_of_refused plain recorded isOpen checked]
      exact .inl ⟨rfl, .refl scene⟩
  | ok u =>
      obtain ⟨middle, updated, executed, -⟩ := Recording.update_of_checked isOpen checked
      have ran : Work.onSource (pipeline.source.update st) scene =
          (.ok scene.source.script.updateCount, scene.withSource middle) := by
        rw [recorded, Work.onSource_apply]
        dsimp only [Recording.source]
        rw [updated]
      rw [update, plain.call_eq]
      dsimp only
      rw [executeUpdate, Action.bind_apply, ran]
      exact .inr (executed.logs.trans_quiet (logs_broughtBack recorded plain _ _))

theorem runs_query (plain : pipeline.Plain) (isOpen : scene.source.IsOpen st) :
    scene.Executes st (handler.query pipeline st scene) := by
  cases checked : scene.source.script.check (scene.source.statement st).sql with
  | error e =>
      rw [query_of_refused plain recorded isOpen checked]
      exact .inl ⟨rfl, .refl scene⟩
  | ok u =>
      obtain ⟨after, executed, -, answered⟩ :=
        @query_of_checked pipeline handler plain recorded st scene isOpen checked
      rw [answered]
      exact .inr executed.logs

theorem runs_queryCursor (plain : pipeline.Plain) (isOpen : scene.source.IsOpen st) :
    scene.Executes st (handler.queryCursor pipeline st scene) := by
  cases checked : scene.source.script.check (scene.source.statement st).sql with
  | error e =>
      have failed : handler.queryCursor pipeline st scene =
          (.error e, scene.withSource (Recording.source.finishStatement st scene.source).2) := by
        rw [queryCursor, plain.call_eq]
        dsimp only
        rw [openCursor, Action.bind_apply, Action.attempt, recorded, Action.bind_apply,
          Work.onSource_apply]
        dsimp only [Recording.source]
        rw [Recording.openRows_of_refused isOpen checked]
        rfl
      rw [failed]
      exact .inl ⟨rfl, .finishStatement scene st⟩
  | ok u =>
      obtain ⟨after, executed, -, opened⟩ :=
        @queryCursor_of_checked pipeline handler plain recorded st scene isOpen checked
      rw [opened]
      exact .inr executed.logs

theorem parameterize_cases (plain : pipeline.Plain) (isOpen : scene.source.IsOpen st)
    (written : (scene.source.statement st).sql = handler.preparedSql pipeline) :
    ∃ filled, scene.Logs [] filled ∧
      ((∃ e, handler.parameterize pipeline st scene = (.error e, filled)) ∨
        handler.parameterize pipeline st scene = (.ok (), filled) ∧ filled.source.IsOpen st ∧
          handler.Runs pipeline (filled.source.execution st)) := by
  obtain ⟨filling, after, placed⟩ := handler.parameterize_after recorded plain scene
  have fills : scene.Logs [] (scene.withSource (scene.source.alter st filling.fill)) :=
    .alter scene st fun _ => ⟨rfl, rfl⟩
  rcases went : handler.parameterize pipeline st scene with ⟨e | u, filled⟩
  · rw [went] at after
    obtain rfl : filled = _ := after
    exact ⟨_, fills, .inl ⟨e, rfl⟩⟩
  · rw [went] at after placed
    obtain rfl : filled = _ := after
    have now := Recording.statement_alter_self isOpen.lt filling.fill
    refine ⟨_, fills, .inr ⟨rfl, isOpen.filled filling, ?_, (scene.source.statement st).parameters, ?_⟩⟩
    · exact (congrArg RecordedStatement.sql now).trans written
    · refine (congrArg RecordedStatement.parameters now).trans ?_
      rw [← placed isOpen rfl]
      rfl

end Handler

def Handler.Came (pipeline : Pipeline Recording) (handler : Handler) (before : Scene Recording)
    (went : Except Error α × Scene Recording) : Prop :=
  went.1.isOk = false ∧ before.Logs [] went.2 ∨
    ∃ execution, handler.Runs pipeline execution ∧ before.Logs [execution] went.2

namespace Handler.Came

variable {pipeline : Pipeline Recording} {handler : Handler} {before middle : Scene Recording}
  {went : Except Error α × Scene Recording}

theorem after (quiet : before.Logs [] middle) (came : handler.Came pipeline middle went) :
    handler.Came pipeline before went :=
  came.imp (fun ⟨failed, logs⟩ => ⟨failed, quiet.quiet_trans logs⟩)
    fun ⟨execution, runs, logs⟩ => ⟨execution, runs, quiet.quiet_trans logs⟩

theorem andThen {last : Except Error β × Scene Recording} (came : handler.Came pipeline before went)
    (logs : went.2.Logs [] last.2) (failed : went.1.isOk = false → last.1.isOk = false) :
    handler.Came pipeline before last :=
  came.imp (fun ⟨stopped, logged⟩ => ⟨failed stopped, logged.quiet_trans logs⟩)
    fun ⟨execution, runs, logged⟩ => ⟨execution, runs, logged.trans_quiet logs⟩

theorem of_executes {st : StatementId} (runs : handler.Runs pipeline (before.source.execution st))
    (executes : before.Executes st went) : handler.Came pipeline before went :=
  executes.imp_right fun logs => ⟨_, runs, logs⟩

end Handler.Came

namespace Strategy

variable {pipeline : Pipeline Recording} {handler : Handler} (plain : pipeline.Plain)
  (recorded : pipeline.source = Recording.source)

include plain recorded

theorem came_of_parameterized {st : StatementId} {scene : Scene Recording}
    {execute : Work Recording α} (isOpen : scene.source.IsOpen st)
    (written : (scene.source.statement st).sql = handler.preparedSql pipeline)
    (executes : ∀ filled : Scene Recording, filled.source.IsOpen st →
      filled.Executes st (execute filled)) :
    handler.Came pipeline scene
      ((handler.parameterize pipeline st >>= fun _ => execute) scene) := by
  rw [Action.bind_apply]
  obtain ⟨filled, fills, ⟨e, failed⟩ | ⟨went, opened, runs⟩⟩ :=
    Handler.parameterize_cases recorded plain isOpen written
  · rw [failed]
    exact .inl ⟨rfl, fills⟩
  · rw [went]
    exact (Handler.Came.of_executes runs (executes filled opened)).after fills

theorem prepareInTransaction_cases (handler : Handler) (scene : Scene Recording) :
    (∃ e, handler.prepareInTransaction pipeline scene = (.error e, scene)) ∨
      ∃ after, handler.prepareInTransaction pipeline scene =
          (.ok scene.source.statements.length, after) ∧ scene.Logs [] after ∧
        after.parameter = scene.parameter ∧
        after.source.IsOpen scene.source.statements.length ∧
        (after.source.statement scene.source.statements.length).sql =
          handler.preparedSql pipeline ∧
        (after.source.statement scene.source.statements.length).batch = [] := by
  obtain ⟨-, e, failed⟩ | ⟨transaction, connections, -, -, prepares⟩ :=
    handler.prepareInTransaction_apply plain recorded scene.executor.transaction
      scene.source.connections
  · exact .inl ⟨e, failed scene rfl rfl⟩
  · obtain ⟨after, prepared, readied⟩ := prepares scene rfl rfl
    refine .inr ⟨after, prepared, readied.logs, ?_, ?_⟩
    · rw [readied.scene]
    · rw [Recording.IsOpen, readied.prepared]
      exact ⟨rfl, rfl, rfl⟩

theorem came_of_prepared {use : StatementId → Work Recording α} (scene : Scene Recording)
    (came : ∀ st prepared, prepared.source.IsOpen st →
      (prepared.source.statement st).sql = handler.preparedSql pipeline →
        handler.Came pipeline prepared (use st prepared)) :
    handler.Came pipeline scene ((handler.prepareInTransaction pipeline >>= use) scene) := by
  rw [Action.bind_apply]
  obtain ⟨e, failed⟩ | ⟨after, prepared, logs, -, isOpen, written, -⟩ :=
    prepareInTransaction_cases plain recorded handler scene
  · rw [failed]
    exact .inl ⟨rfl, .refl scene⟩
  · rw [prepared]
    exact (came _ after isOpen written).after logs

omit plain in
theorem came_withStatement {st : StatementId} {use : Work Recording α} {scene : Scene Recording}
    (came : handler.Came pipeline scene (use scene)) :
    handler.Came pipeline scene (withStatement pipeline st use scene) := by
  have went : withStatement pipeline st use scene = ((use scene).1, (use scene).2.withSource
      (Recording.source.finishStatement st (use scene).2.source).2) := by
    unfold withStatement
    simp only [Action.bind_apply, Action.attempt, recorded, Work.onSource_apply]
    rw [(Recording.finishStatement_apply (use scene).2.source st).1]
    cases (use scene).1 <;> rfl
  rw [went]
  exact came.andThen (.finishStatement _ st) id

theorem came_updateOnce (scene : Scene Recording) :
    handler.Came pipeline scene (updateOnce pipeline handler scene) :=
  came_of_prepared plain recorded scene fun _ _ isOpen written =>
    came_withStatement recorded (came_of_parameterized plain recorded isOpen written fun _ =>
      Handler.runs_update recorded plain)

theorem came_queryOnce (scene : Scene Recording) :
    handler.Came pipeline scene (queryOnce pipeline handler scene) :=
  came_of_prepared plain recorded scene fun _ _ isOpen written =>
    came_withStatement recorded (came_of_parameterized plain recorded isOpen written fun _ =>
      Handler.runs_query recorded plain)

theorem came_openOnce (scene : Scene Recording) :
    handler.Came pipeline scene (openOnce pipeline handler scene) := by
  refine came_of_prepared plain recorded scene fun st prepared isOpen written => ?_
  rw [Action.bind_apply, Action.attempt]
  obtain ⟨filled, fills, ⟨e, failed⟩ | ⟨went, opened, runs⟩⟩ :=
    Handler.parameterize_cases recorded plain isOpen written
  · have quiet : closeQuietly pipeline st filled = (.ok (), filled.withSource
        (Recording.source.finishStatement st filled.source).2) := by
      rw [← recorded]
      rfl
    rw [failed]
    dsimp only
    rw [Action.bind_apply, quiet]
    exact .inl ⟨rfl, fills.trans_quiet (.finishStatement filled st)⟩
  · rw [went]
    have executes := @Handler.runs_queryCursor pipeline handler recorded st filled plain opened
    exact (Handler.Came.of_executes runs executes).after fills

end Strategy

end MappedSql
