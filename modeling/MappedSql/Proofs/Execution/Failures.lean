import MappedSql.Interception.Scripted
import MappedSql.Proofs.Database.Register
import MappedSql.Proofs.Execution.Provenance

/-!
# Calls that fail

A call that fails stages no rows, but a clearing that it staged before it failed stays. So the unit
of work has staged what it had, except that once a call is past the checks that come first, the cache
of a statement that flushes it is cleared (`Executor.Shared.staging_of_failed`).
-/

namespace MappedSql

variable {σ α β : Type}

theorem Action.bind_eq_error {S : Type} {act : Action S α} {next : α → Action S β} {e : Error}
    {state after : S} :
    (act >>= next) state = (.error e, after) ↔
      act state = (.error e, after) ∨
        ∃ a middle, act state = (.ok a, middle) ∧ next a middle = (.error e, after) := by
  rw [Action.bind_apply]
  rcases act state with ⟨_ | a, middle⟩
  · simp
  · constructor
    · exact fun failed => .inr ⟨a, middle, rfl, failed⟩
    · rintro (impossible | ⟨_, _, answered, failed⟩)
      · cases impossible
      · cases answered
        exact failed

theorem Action.map_eq_error {S : Type} {act : Action S α} {f : α → β} {e : Error}
    {state after : S} :
    (f <$> act) state = (.error e, after) ↔ act state = (.error e, after) := by
  refine Action.bind_eq_error.trans ⟨?_, .inl⟩
  rintro (failed | ⟨a, middle, -, ⟨⟩⟩)
  exact failed

open Work (Frames)

namespace InterceptorScript

variable {source : DataSource σ} (script : InterceptorScript)

theorem frames_rewriteParameter (value : Value) (args : Args) :
    Frames (rewriteParameter value args : Work σ Args) := by
  unfold rewriteParameter
  split
  · exact Frames.pure _
  · exact Frames.pure _
  · exact (Frames.setParameter value).bind fun _ => Frames.pure _
  · exact (Frames.setParameter value).bind fun _ => Frames.pure _
  · exact Frames.pure _

theorem frames_replaceArgs (args : Args) : Frames (match script.args with
    | some others => do
        Work.onSource (modify (args.drop source))
        return others
    | none => return args : Work σ Args) := by
  split
  · exact (Frames.onSource _).bind fun _ => Frames.pure _
  · exact Frames.pure _

theorem frames_rewrite (args : Args) : Frames (script.rewrite source args) := by
  unfold rewrite
  cases script.parameter with
  | some value =>
      exact (frames_rewriteParameter value args).bind fun args => frames_replaceArgs script _
  | none => exact (Frames.pure args).bind fun args => frames_replaceArgs script _

theorem frames_closeCursor (outcome : Outcome) : Frames (closeCursor source outcome) := by
  unfold closeCursor
  split
  · exact (Frames.onSource _).bind fun _ => (Frames.ofResult _).bind fun _ => Frames.pure _
  · exact Frames.pure _

theorem frames_dropAny (result : Except Error Outcome) : Frames (dropAny source result) := by
  unfold dropAny
  split
  · exact Frames.onSource _
  · exact Frames.pure _

theorem frames_conclude (result : Except Error Outcome) :
    Frames (script.conclude source result) := by
  unfold conclude
  split
  · exact (frames_dropAny _).bind fun _ => Frames.throw _
  · exact (frames_dropAny _).bind fun _ => Frames.pure _
  · exact Frames.ofResult _

theorem frames_intercept (noteBefore : Method → String → σ → σ)
    (noteAfter : Method → Except Cause String → σ → σ) (method : Method) (args : Args)
    {proceed : Args → Work σ Outcome} (frames : ∀ args, Frames (proceed args)) :
    Frames (script.intercept source noteBefore noteAfter method args proceed) := by
  unfold intercept
  refine (Frames.onSource _).bind fun _ => ?_
  split
  · exact (Frames.onSource _).bind fun _ => Frames.throw _
  · exact (Frames.onSource _).bind fun _ => Frames.pure _
  · refine (frames_rewrite script args).bind fun args => (frames args).attempt.bind fun result => ?_
    have concluded (result : Except Error Outcome) : Frames (do
        Work.onSource (modify (noteAfter method (ending result)))
        script.conclude source result : Work σ Outcome) :=
      (Frames.onSource _).bind fun _ => frames_conclude script result
    split
    · exact ((frames_closeCursor _).bind fun _ => Frames.pure _).bind concluded
    · exact (Frames.pure _).bind concluded

end InterceptorScript

def Work.Unstaging (act : Work σ α) : Prop :=
  ∀ scene : Scene σ, (act scene).2.executor.staging = scene.executor.staging

theorem Work.Frames.unstaging {act : Work σ α} (frames : Frames act) : Work.Unstaging act :=
  fun scene => (frames scene).staging

open Work (Unstaging)

theorem Work.Unstaging.bind {act : Work σ α} {next : α → Work σ β} (first : Unstaging act)
    (second : ∀ a, Unstaging (next a)) : Unstaging (act >>= next) :=
  Action.related_bind (fun before after : Scene σ => after.executor.staging = before.executor.staging)
    (fun before after => after.trans before) first second

namespace Executor

variable {pipeline : Pipeline σ} (framed : pipeline.Framed)

theorem unstaging_clearLocal : Unstaging (clearLocal : Work σ Unit) := by
  intro scene
  rw [clearLocal_apply]
  dsimp only
  split <;> rfl

namespace Local

include framed

theorem unstaging_update (statement : MappedStatement) : Unstaging (update pipeline statement) :=
  frames_ensureOpen.unstaging.bind fun _ => unstaging_clearLocal.bind fun _ =>
    (Strategy.frames_update framed statement).unstaging

theorem unstaging_rowsFor (statement : MappedStatement) (bounds : RowBounds) (key : CacheKey)
    (bound : BoundSql) : Unstaging (rowsFor pipeline statement bounds key bound) := by
  unfold rowsFor
  refine Frames.executor.unstaging.bind fun executor => ?_
  split
  · exact (Frames.pure _).unstaging
  · refine (Strategy.frames_query _ framed).unstaging.bind fun rows => ?_
    exact Unstaging.bind (fun _ => rfl) fun _ => (Frames.pure _).unstaging

theorem unstaging_keyedQuery (statement : MappedStatement) (bounds : RowBounds) (key : CacheKey)
    (bound : BoundSql) : Unstaging (keyedQuery pipeline statement bounds key bound) := by
  intro scene
  have same : (opened statement scene).executor.staging = scene.executor.staging := by
    unfold opened
    split <;> rfl
  have answered := unstaging_rowsFor framed statement bounds key bound (opened statement scene)
  rw [same] at answered
  cases ended : scene.executor.closed with
  | true => simp only [keyedQuery, Action.bind_apply, ensureOpen_of_closed ended]
  | false =>
      rw [keyedQuery_of_open ended]
      dsimp only
      split
      · exact (unstaging_clearLocal _).trans answered
      · exact answered

theorem unstaging_queryCursor (statement : MappedStatement) (parameter : Value)
    (bounds : RowBounds) : Unstaging (queryCursor pipeline statement parameter bounds) :=
  (frames_ensureOpen.bind fun _ => (Frames.ofResult _).bind fun _ =>
    Strategy.frames_openCursor _ framed).unstaging

end Local

namespace Shared

/-- A call of a unit of work, with the shared caches behind it. -/
inductive Call
  | update (statement : MappedStatement)
  | query (statement : MappedStatement) (parameter : Value) (bounds : RowBounds)
  | keyedQuery (statement : MappedStatement) (bounds : RowBounds) (key : CacheKey)
      (bound : BoundSql)
  | queryCursor (statement : MappedStatement) (parameter : Value) (bounds : RowBounds)

namespace Call

def statement : Call → MappedStatement
  | update statement | query statement _ _ | keyedQuery statement _ _ _
  | queryCursor statement _ _ => statement

def run (pipeline : Pipeline σ) : Call → Work σ Outcome
  | update statement => .count <$> Shared.update pipeline statement
  | query statement parameter bounds => do
      let bound ← statement.boundSql parameter pipeline.setting
      let key ← cacheKey pipeline statement bounds bound
      .rows <$> Shared.keyedQuery pipeline statement bounds key bound
  | keyedQuery statement bounds key bound =>
      .rows <$> Shared.keyedQuery pipeline statement bounds key bound
  | queryCursor statement parameter bounds =>
      .cursor <$> Shared.queryCursor pipeline statement parameter bounds

def check (pipeline : Pipeline σ) (executor : Executor) : Call → Except Error Unit
  | update _ | queryCursor _ _ _ => .ok ()
  | query statement parameter bounds => do
      let bound ← statement.boundSql parameter pipeline.setting
      if executor.closed then failWith (.closed "Executor was closed.")
      let _ ← keyOf pipeline.configuration.databaseId statement bounds bound
      checkOutputs statement bound
  | keyedQuery statement _ _ bound => checkOutputs statement bound

end Call

variable {statement : MappedStatement} {scene after : Scene σ} {e : Error}

theorem staging_after_flush {act : Work σ α} (unstaging : Unstaging act)
    (statement : MappedStatement) (scene : Scene σ) :
    ((flushIfRequired statement >>= fun _ => act) scene).2.executor.staging =
      (flushed statement scene).executor.staging := by
  rw [Action.bind_apply, flushIfRequired_eq]
  exact unstaging (flushed statement scene)

include framed

theorem staging_rowsFor_of_failed {bounds : RowBounds} {key : CacheKey} {bound : BoundSql}
    {id : String}
    (failed : rowsFor pipeline statement bounds key bound id scene = (.error e, after)) :
    after.executor.staging = scene.executor.staging := by
  cases found : (Staging.get? scene.executor.staging id key scene.shared).1 with
  | some hit =>
      rw [rowsFor_of_hit found] at failed
      cases failed
  | none =>
      rw [rowsFor_of_miss found, Action.bind_eq_error] at failed
      rcases failed with failed | ⟨rows, middle, -, impossible⟩
      · have kept := Local.unstaging_keyedQuery framed statement bounds key bound
          { scene with shared := (Staging.get? scene.executor.staging id key scene.shared).2 }
        rw [failed] at kept
        exact kept
      · cases impossible

theorem staging_keyedQuery_of_failed {bounds : RowBounds} {key : CacheKey} {bound : BoundSql}
    (failed : keyedQuery pipeline statement bounds key bound scene = (.error e, after)) :
    after.executor.staging =
      if (checkOutputs statement bound).isOk then (flushed statement scene).executor.staging
      else scene.executor.staging := by
  rcases keyedQuery_cases pipeline statement bounds key bound scene with
    ⟨refusal, checked, refused⟩ | ⟨checked, ⟨-, behind⟩ | ⟨id, -, -, there⟩⟩
  · rw [refused] at failed
    cases failed
    rw [checked]
    rfl
  · have kept := Local.unstaging_keyedQuery framed statement bounds key bound
      (flushed statement scene)
    rw [← behind, failed] at kept
    rw [checked]
    exact kept
  · rw [there] at failed
    rw [checked]
    exact staging_rowsFor_of_failed framed failed

theorem staging_of_failed_check (call : Call) (failed : call.run pipeline scene = (.error e, after)) :
    after.executor.staging =
      if (call.check pipeline scene.executor).isOk then
        (flushed call.statement scene).executor.staging
      else scene.executor.staging := by
  cases call with
  | update statement =>
      have kept := staging_after_flush (Local.unstaging_update framed statement) statement scene
      have ran : Shared.update pipeline statement scene = (.error e, after) :=
        Action.map_eq_error.1 failed
      rw [Shared.update] at ran
      rw [ran] at kept
      exact kept
  | queryCursor statement parameter bounds =>
      have kept := staging_after_flush
        (Local.unstaging_queryCursor framed statement parameter bounds) statement scene
      have ran : Shared.queryCursor pipeline statement parameter bounds scene = (.error e, after) :=
        Action.map_eq_error.1 failed
      rw [Shared.queryCursor] at ran
      rw [ran] at kept
      exact kept
  | keyedQuery statement bounds key bound =>
      exact staging_keyedQuery_of_failed framed (Action.map_eq_error.1 failed)
  | query statement parameter bounds =>
      simp only [Call.run, Action.bind_apply, Work.lift_apply] at failed
      -- a query is checked on the way to its key, and flushes only behind that
      cases bounded : statement.boundSql parameter pipeline.setting with
      | error refused =>
          simp only [bounded] at failed
          cases failed
          simp only [Call.check, bounded]
          rfl
      | ok bound =>
          cases ended : scene.executor.closed with
          | true =>
              simp only [bounded, cacheKey, Action.bind_apply, ensureOpen_of_closed ended] at failed
              cases failed
              simp only [Call.check, bounded, ended]
              rfl
          | false =>
              simp only [bounded, cacheKey_of_open statement bounds bound ended] at failed
              cases keyed : keyOf pipeline.configuration.databaseId statement bounds bound with
              | error refused =>
                  simp only [keyed] at failed
                  cases failed
                  simp only [Call.check, bounded, ended, keyed, bind, Except.bind,
                    Bool.false_eq_true, if_false]
                  rfl
              | ok key =>
                  simp only [keyed] at failed
                  have kept := staging_keyedQuery_of_failed framed (Action.map_eq_error.1 failed)
                  simp only [Call.check, bounded, ended, keyed, bind, Except.bind,
                    Bool.false_eq_true, if_false]
                  exact kept

/-- What a failed call has staged: of every cache what was staged before, unless the call got past its
checks and its statement flushes the cache, which then is to be cleared and holds nothing new. -/
theorem staging_of_failed (call : Call) (failed : call.run pipeline scene = (.error e, after))
    (id : String) :
    Staging.of after.executor.staging id =
      if (call.check pipeline scene.executor).isOk ∧ call.statement.flushCache ∧
          call.statement.cache = some id then
        ⟨true, []⟩
      else Staging.of scene.executor.staging id := by
  rw [staging_of_failed_check framed call failed]
  cases (call.check pipeline scene.executor).isOk with
  | false => simp
  | true => simp [of_flushed]

omit framed

def numbering : MappedStatement :=
  Register.statementOf "u" .update (.static ⟨"raise n", [{
    property := "v", type := .int, dbType := none, dbTypeName := none, direction := .input,
    numericScale := none, resultMap := none, handler := .builtin .int }]⟩) (some "c")

def numbered : Pipeline Register :=
  Register.pipeline [Register.reading, numbering]

def selected : Scene Register :=
  { ((Call.query Register.reading .null .unbounded).run numbered
      ⟨{}, [("c", .empty)], .ofKind .simple { autocommit := false }, .null⟩).2 with
    parameter := .text "x" }

def failing : Interceptor Register :=
  ⟨"fails", [], InterceptorScript.intercept Register.source (fun _ _ => id) (fun _ _ => id)
    { fail := some "no" }⟩

def unprepared : Pipeline Register :=
  { numbered with
    configuration := { numbered.configuration with chain := [⟨failing, [.prepare]⟩] } }

theorem framed_unprepared : unprepared.Framed where
  chain := by
    intro registration mem
    obtain rfl := List.mem_singleton.1 mem
    exact fun method args proceed frames => InterceptorScript.frames_intercept _ _ _ method args frames
  extra := by
    intro registration mem
    cases mem

theorem exists_of_isOk_eq_false {run : Except Error α × Scene σ} (failed : run.1.isOk = false) :
    ∃ e, run = (.error e, run.2) := by
  obtain ⟨_ | a, after⟩ := run
  · exact ⟨_, rfl⟩
  · cases failed

theorem staging_of_failed_unprepared :
    unprepared.Framed ∧
    (∃ e after, (Call.update numbering).run unprepared selected = (.error e, after) ∧
      Staging.of after.executor.staging "c" = ⟨true, []⟩) ∧
    ∃ e after, (Call.query Register.reading .null ⟨1, 1⟩).run unprepared selected = (.error e, after) ∧
      Staging.of after.executor.staging "c" = Staging.of selected.executor.staging "c" := by
  obtain ⟨e, updated⟩ := exists_of_isOk_eq_false
    (show ((Call.update numbering).run unprepared selected).1.isOk = false by decide +kernel)
  obtain ⟨e', queried⟩ := exists_of_isOk_eq_false
    (show ((Call.query Register.reading .null ⟨1, 1⟩).run unprepared selected).1.isOk = false by
      decide +kernel)
  exact ⟨framed_unprepared,
    ⟨e, _, updated, staging_of_failed framed_unprepared _ updated "c"⟩,
    ⟨e', _, queried, staging_of_failed framed_unprepared _ queried "c"⟩⟩

/-- An update whose value is refused leaves the cache to be cleared, and the row of the select before
it is no longer staged. -/
theorem exists_staging_of_failed_ne :
    (Staging.of selected.executor.staging "c").entries.length = 1 ∧
    ∃ e after, (Call.update numbering).run numbered selected = (.error e, after) ∧
      Staging.of after.executor.staging "c" ≠ Staging.of selected.executor.staging "c" := by
  obtain ⟨e, failed⟩ := exists_of_isOk_eq_false
    (show ((Call.update numbering).run numbered selected).1.isOk = false by decide +kernel)
  refine ⟨by decide +kernel, e, _, failed, fun same => ?_⟩
  have kept := congrArg (·.entries.length) same
  revert kept
  decide +kernel

end Shared

end Executor

end MappedSql
