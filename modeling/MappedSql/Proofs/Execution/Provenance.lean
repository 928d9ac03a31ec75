import MappedSql.Proofs.Cache.Publishing
import MappedSql.Proofs.Execution.Proceeding

namespace MappedSql

variable {σ α β : Type}

/-- A query that was answered from the data source. -/
structure Ran where
  key : CacheKey
  rows : List Value

def Entries.CoveredBy (entries : Entries CachedValue) (log : List Ran) : Prop :=
  ∀ entry ∈ entries, ∃ ran ∈ log, ran.key.Matches entry.1 ∧ entry.2 = .rows ran.rows

theorem Entries.coveredBy_nil (log : List Ran) : CoveredBy [] log := by
  simp [CoveredBy]

theorem Entries.CoveredBy.mono {entries : Entries CachedValue} {log more : List Ran}
    (covered : CoveredBy entries log) (grows : log ⊆ more) : CoveredBy entries more := by
  intro entry mem
  obtain ⟨ran, member, same⟩ := covered entry mem
  exact ⟨ran, grows member, same⟩

theorem Entries.CoveredBy.put {entries : Entries CachedValue} {log : List Ran} {ran : Ran}
    (covered : CoveredBy entries log) (mem : ran ∈ log) {key : CacheKey}
    (matched : ran.key.Matches key) : CoveredBy (Entries.put entries key (.rows ran.rows)) log := by
  intro entry member
  rcases Entries.of_mem_put member with member | ⟨same, eq⟩
  · exact covered entry member
  · exact ⟨ran, mem, matched.trans same, eq⟩

namespace Executor

structure Covered (executor : Executor) (log : List Ran) : Prop where
  kept : Entries.CoveredBy executor.localCache log
  staged : ∀ id, Entries.CoveredBy (Staging.of executor.staging id).entries log
  ended : executor.closed → executor.localCache = []

theorem Covered.mono {executor : Executor} {log more : List Ran} (covered : executor.Covered log)
    (grows : log ⊆ more) : executor.Covered more :=
  ⟨covered.kept.mono grows, fun id => (covered.staged id).mono grows, covered.ended⟩

end Executor

structure Scene.Settles (before after : Scene σ) : Prop where
  shared : before.shared.Perpetual → before.shared.SameContents after.shared
  covered : ∀ log, before.executor.Covered log → after.executor.Covered log

theorem Scene.Settles.refl (scene : Scene σ) : scene.Settles scene :=
  ⟨fun _ => .refl _, fun _ covered => covered⟩

theorem Scene.Settles.trans {first second third : Scene σ} (left : first.Settles second)
    (right : second.Settles third) : first.Settles third where
  shared := fun perpetual =>
    (left.shared perpetual).trans
      (right.shared (perpetual.of_sameContents (left.shared perpetual)))
  covered := fun log covered => right.covered log (left.covered log covered)

theorem Scene.SameCaches.settles {before after : Scene σ} (same : before.SameCaches after) :
    before.Settles after where
  shared := fun _ => by
    rw [same.shared]
    exact .refl _
  covered := fun log covered =>
    ⟨by rw [same.localCache]; exact covered.kept, by rw [same.staging]; exact covered.staged,
      by rw [same.closed, same.localCache]; exact covered.ended⟩

def Work.Settles (act : Work σ α) : Prop :=
  ∀ scene : Scene σ, scene.Settles (act scene).2

namespace Work.Settles

theorem bind {act : Work σ α} {next : α → Work σ β} (first : Settles act)
    (second : ∀ a, Settles (next a)) : Settles (act >>= next) :=
  Action.related_bind Scene.Settles Scene.Settles.trans first second

theorem quietly {act : Work σ α} (settles : Settles act) : Settles act.quietly :=
  settles

end Work.Settles

theorem Work.Frames.settles {act : Work σ α} (frames : Work.Frames act) : Work.Settles act :=
  fun scene => (frames scene).settles

open Work (Frames Settles)

def Scene.forget (scene : Scene σ) : Scene σ :=
  { scene with executor := { scene.executor with localCache := [] } }

def Scene.bare (scene : Scene σ) : Scene σ :=
  { scene with shared := [], executor := { scene.executor with localCache := [], staging := [] } }

namespace Executor

variable {pipeline : Pipeline σ}

def Fetches (pipeline : Pipeline σ) (handler : Handler) (rows : List Value)
    (before after : Scene σ) : Prop :=
  ∃ first last : Scene σ, first.bare = before.bare ∧
    Strategy.query pipeline handler first = (.ok rows, last) ∧ last.bare = after.bare

/-- Apart from what is cached, the data source opened a cursor between two scenes. -/
def Opens (pipeline : Pipeline σ) (handler : Handler) (cursor : Cursor) (before after : Scene σ) :
    Prop :=
  ∃ first last : Scene σ, first.bare = before.bare ∧
    Strategy.openCursor pipeline handler first = (.ok cursor, last) ∧ last.bare = after.bare

theorem Fetches.of_bare {handler : Handler} {rows : List Value} {before after before' after' : Scene σ}
    (fetches : Fetches pipeline handler rows before after) (same : before.bare = before'.bare)
    (same' : after.bare = after'.bare) : Fetches pipeline handler rows before' after' := by
  obtain ⟨first, last, asked, done, left⟩ := fetches
  exact ⟨first, last, asked.trans same, done, left.trans same'⟩

theorem ensureOpen_of_closed {scene : Scene σ} (ended : scene.executor.closed = true) :
    ensureOpen scene = (.error (.of (.closed "Executor was closed.")), scene) := by
  simp only [ensureOpen, Action.bind_apply, Work.executor_apply, ended]
  rfl

theorem ensureOpen_of_open {scene : Scene σ} (isOpen : scene.executor.closed = false) :
    ensureOpen scene = (.ok (), scene) := by
  simp only [ensureOpen, Action.bind_apply, Work.executor_apply, isOpen]
  rfl

theorem frames_ensureOpen : Frames (ensureOpen : Work σ Unit) := by
  refine Frames.executor.bind fun executor => ?_
  split
  · exact Frames.throw _
  · exact Frames.pure ()

theorem clearLocal_apply (scene : Scene σ) :
    clearLocal scene = (.ok (),
      { scene with executor :=
        if scene.executor.closed then scene.executor
        else { scene.executor with localCache := [] } }) :=
  rfl

theorem clearLocal_of_open {scene : Scene σ} (isOpen : scene.executor.closed = false) :
    clearLocal scene = (.ok (), scene.forget) := by
  rw [clearLocal_apply, if_neg (by simp [isOpen])]
  rfl

theorem settles_clearLocal : Settles (clearLocal : Work σ Unit) := by
  intro scene
  rw [clearLocal_apply]
  refine ⟨fun _ => .refl _, fun log covered => ?_⟩
  cases ended : scene.executor.closed with
  | true => simpa [ended] using covered
  | false => exact ⟨by simp [Entries.CoveredBy], covered.staged, by simp⟩

theorem settles_setStaging {staging : Staging}
    (covers : ∀ id, (Staging.of staging id).entries = []) :
    Settles (Shared.setStaging staging : Work σ Unit) := by
  intro scene
  refine ⟨fun _ => .refl _, fun log covered => ⟨covered.kept, fun id => ?_, covered.ended⟩⟩
  change Entries.CoveredBy (Staging.of staging id).entries log
  rw [covers]
  simp [Entries.CoveredBy]

theorem settles_flushIfRequired (statement : MappedStatement) :
    Settles (Shared.flushIfRequired statement : Work σ Unit) := by
  intro scene
  unfold Shared.flushIfRequired
  cases statement.cache with
  | none => exact .refl scene
  | some id =>
      cases statement.flushCache with
      | false => exact .refl scene
      | true =>
          refine ⟨fun _ => .refl _, fun log covered => ⟨covered.kept, fun other => ?_,
            covered.ended⟩⟩
          change Entries.CoveredBy (Staging.of (Staging.clear scene.executor.staging id) other).entries
            log
          rw [Staging.of_clear]
          split
          · simp [Entries.CoveredBy]
          · exact covered.staged other

variable (framed : pipeline.Framed)

namespace Local

theorem update_of_closed {scene : Scene σ} (ended : scene.executor.closed = true)
    (statement : MappedStatement) : update pipeline statement scene =
      (.error (.of (.closed "Executor was closed.")), scene) := by
  simp only [update, Action.bind_apply, ensureOpen_of_closed ended]

theorem update_of_open {scene : Scene σ} (isOpen : scene.executor.closed = false)
    (statement : MappedStatement) :
    update pipeline statement scene = Strategy.update pipeline statement scene.forget := by
  simp only [update, Action.bind_apply, ensureOpen_of_open isOpen, clearLocal_of_open isOpen]

include framed in
theorem settles_update (statement : MappedStatement) : Settles (update pipeline statement) :=
  frames_ensureOpen.settles.bind fun _ => settles_clearLocal.bind fun _ =>
    (Strategy.frames_update framed statement).settles

include framed in
theorem settles_queryCursor (statement : MappedStatement) (parameter : Value)
    (bounds : RowBounds) : Settles (queryCursor pipeline statement parameter bounds) :=
  frames_ensureOpen.settles.bind fun _ => (Frames.ofResult _).settles.bind fun _ =>
    (Strategy.frames_openCursor _ framed).settles

theorem frames_flush : Frames (flush pipeline) :=
  frames_ensureOpen.bind fun _ => Strategy.frames_flush false

def finishCommit (pipeline : Pipeline σ) (required : Bool) : Work σ Unit := do
  let _ ← flush pipeline
  if required then Work.onTransaction (Transaction.commit pipeline.source)

def finishRollback (pipeline : Pipeline σ) (required : Bool) : Work σ Unit := do
  let flushed ← (Strategy.flush pipeline true).attempt
  if required then Work.onTransaction (Transaction.rollback pipeline.source)
  let _ ← flushed

theorem frames_finishCommit (required : Bool) : Frames (finishCommit pipeline required) := by
  refine frames_flush.bind fun _ => ?_
  split
  · exact Frames.onTransaction _
  · exact Frames.pure _

theorem frames_finishRollback (required : Bool) : Frames (finishRollback pipeline required) := by
  refine Frames.bind (Strategy.frames_flush true).attempt fun flushed => ?_
  dsimp only
  split
  · exact (Frames.onTransaction _).bind fun _ => (Frames.ofResult _).bind fun _ => Frames.pure _
  · exact (Frames.ofResult _).bind fun _ => Frames.pure _

theorem commit_of_closed {scene : Scene σ} (ended : scene.executor.closed = true)
    (required : Bool) :
    commit pipeline required scene =
      (.error (.of (.closed "Cannot commit, transaction is already closed")), scene) := by
  simp only [commit, Action.bind_apply, Work.executor_apply, ended]
  rfl

theorem commit_of_open {scene : Scene σ} (isOpen : scene.executor.closed = false)
    (required : Bool) :
    commit pipeline required scene = finishCommit pipeline required (clearLocal scene).2 := by
  simp only [commit, Action.bind_apply, Work.executor_apply, isOpen]
  rfl

theorem rollback_of_closed {scene : Scene σ} (ended : scene.executor.closed = true)
    (required : Bool) : rollback pipeline required scene = (.ok (), scene) := by
  simp only [rollback, Action.bind_apply, Work.executor_apply, ended]
  rfl

theorem rollback_of_open {scene : Scene σ} (isOpen : scene.executor.closed = false)
    (required : Bool) :
    rollback pipeline required scene = finishRollback pipeline required (clearLocal scene).2 := by
  simp only [rollback, Action.bind_apply, Work.executor_apply, isOpen]
  rfl

theorem close_of_closed {scene : Scene σ} (ended : scene.executor.closed = true)
    (required : Bool) : close pipeline required scene = (.ok (), scene) := by
  simp only [close, Action.bind_apply, Work.executor_apply, ended]
  rfl

theorem close_of_open {scene : Scene σ} (isOpen : scene.executor.closed = false)
    (required : Bool) :
    (close pipeline required scene).2 =
      { (Work.onTransaction (Transaction.close pipeline.source)
          (rollback pipeline required scene).2).2 with
        executor :=
          { (Work.onTransaction (Transaction.close pipeline.source)
              (rollback pipeline required scene).2).2.executor with
            localCache := [], closed := true } } := by
  simp only [close, Action.bind_apply, Work.executor_apply, isOpen]
  rfl

theorem settles_commit (required : Bool) : Settles (commit pipeline required) := by
  intro scene
  cases ended : scene.executor.closed with
  | true =>
      rw [commit_of_closed ended]
      exact .refl scene
  | false =>
      rw [commit_of_open ended]
      exact (settles_clearLocal scene).trans ((frames_finishCommit required).settles _)

theorem settles_rollback (required : Bool) : Settles (rollback pipeline required) := by
  intro scene
  cases ended : scene.executor.closed with
  | true =>
      rw [rollback_of_closed ended]
      exact .refl scene
  | false =>
      rw [rollback_of_open ended]
      exact (settles_clearLocal scene).trans ((frames_finishRollback required).settles _)

theorem localCache_clearLocal {scene : Scene σ} (isOpen : scene.executor.closed = false) :
    (clearLocal scene).2.executor.localCache = [] := by
  rw [clearLocal_apply]
  simp [isOpen]

theorem localCache_commit {scene after : Scene σ} {required : Bool}
    (done : commit pipeline required scene = (.ok (), after)) : after.executor.localCache = [] := by
  cases ended : scene.executor.closed with
  | true =>
      rw [commit_of_closed ended] at done
      cases done
  | false =>
      rw [commit_of_open ended] at done
      have same := @frames_finishCommit σ pipeline required (clearLocal scene).2
      rw [done] at same
      exact same.localCache.trans (localCache_clearLocal ended)

theorem localCache_rollback {scene : Scene σ} {log : List Ran} (required : Bool)
    (covered : scene.executor.Covered log) :
    (rollback pipeline required scene).2.executor.localCache = [] := by
  cases ended : scene.executor.closed with
  | true =>
      rw [rollback_of_closed ended]
      exact covered.ended ended
  | false =>
      rw [rollback_of_open ended]
      exact (frames_finishRollback required _).localCache.trans (localCache_clearLocal ended)

theorem settles_close (required : Bool) : Settles (close pipeline required) := by
  unfold close
  refine Frames.executor.settles.bind fun executor => ?_
  split
  · exact (Frames.pure _).settles
  · refine Settles.bind (settles_rollback required).quietly fun _ => ?_
    refine Settles.bind (Frames.quietly (Frames.onTransaction _)).settles fun _ scene => ?_
    exact ⟨fun _ => .refl _,
      fun log covered => ⟨Entries.coveredBy_nil log, covered.staged, fun _ => rfl⟩⟩

def fetched (kept : Bool) (key : CacheKey) : Except Error (List Value) → List Ran
  | .ok rows => if kept then [] else [⟨key, rows⟩]
  | .error _ => []

structure Answered (key : CacheKey) (log more : List Ran) (before after : Scene σ)
    (result : Except Error (List Value)) : Prop where
  shared : after.shared = before.shared
  staging : after.executor.staging = before.executor.staging
  closed : after.executor.closed = before.executor.closed
  kept : Entries.CoveredBy after.executor.localCache (log ++ more)
  idle : before.executor.closed → after.executor.localCache = before.executor.localCache
  recorded : ∀ rows, result = .ok rows →
    ∃ ran ∈ log ++ more, ran.key.Matches key ∧ ran.rows = rows

theorem Answered.covered {key : CacheKey} {log more : List Ran} {before after : Scene σ}
    {result : Except Error (List Value)} (answered : Answered key log more before after result)
    (covered : before.executor.Covered log) : after.executor.Covered (log ++ more) where
  kept := answered.kept
  staged := fun id => by
    rw [answered.staging]
    exact (covered.staged id).mono (List.subset_append_left log more)
  ended := fun ended => by
    have before := answered.closed.symm.trans ended
    exact (answered.idle before).trans (covered.ended before)

variable {statement : MappedStatement} {bounds : RowBounds} {key : CacheKey} {bound : BoundSql}
  {log : List Ran}

theorem rowsFor_of_kept {scene : Scene σ} {cached : CachedValue}
    (found : Entries.get? scene.executor.localCache key = some cached) :
    rowsFor pipeline statement bounds key bound scene = (.ok cached.toRows, scene) := by
  simp only [rowsFor, Action.bind_apply, Work.executor_apply, found, Action.pure_apply]

theorem rowsFor_of_failed {scene after : Scene σ} {e : Error}
    (missing : Entries.get? scene.executor.localCache key = none)
    (failed : Strategy.query pipeline ⟨statement, bound, bounds⟩ scene = (.error e, after)) :
    rowsFor pipeline statement bounds key bound scene = (.error e, after) := by
  simp only [rowsFor, Action.bind_apply, Work.executor_apply, missing, failed]

theorem rowsFor_of_fetched {scene after : Scene σ} {rows : List Value}
    (missing : Entries.get? scene.executor.localCache key = none)
    (done : Strategy.query pipeline ⟨statement, bound, bounds⟩ scene = (.ok rows, after)) :
    rowsFor pipeline statement bounds key bound scene =
      (.ok rows, { after with executor :=
        { after.executor with
          localCache := Entries.put after.executor.localCache key (.rows rows) } }) := by
  simp only [rowsFor, Action.bind_apply, Work.executor_apply, missing, done]
  rfl

include framed in
theorem answered_rowsFor (statement : MappedStatement) (bounds : RowBounds) (key : CacheKey)
    (bound : BoundSql) {scene : Scene σ} (isOpen : scene.executor.closed = false)
    (covered : Entries.CoveredBy scene.executor.localCache log) :
    Answered key log
      (fetched (Entries.get? scene.executor.localCache key).isSome key
        (rowsFor pipeline statement bounds key bound scene).1)
      scene (rowsFor pipeline statement bounds key bound scene).2
      (rowsFor pipeline statement bounds key bound scene).1 := by
  have idle {after : Scene σ} (ended : scene.executor.closed = true) :
      after.executor.localCache = scene.executor.localCache := by
    rw [isOpen] at ended
    cases ended
  cases found : Entries.get? scene.executor.localCache key with
  | some cached =>
      obtain ⟨entry, mem, equal, same⟩ := Entries.mem_of_get? found
      obtain ⟨ran, member, matched, rows⟩ := covered entry mem
      rw [rowsFor_of_kept found]
      refine ⟨rfl, rfl, rfl, by simpa [fetched] using covered, idle, ?_⟩
      intro answer returned
      obtain rfl : cached.toRows = answer := by simpa using returned
      refine ⟨ran, by simp [member], matched.trans (.inr equal), ?_⟩
      rw [← same, rows]
      rfl
  | none =>
      have frames := Strategy.frames_query ⟨statement, bound, bounds⟩ framed scene
      rcases done : Strategy.query pipeline ⟨statement, bound, bounds⟩ scene with
        ⟨e | rows, after⟩ <;> rw [done] at frames <;> rw [← frames.localCache] at covered
      · rw [rowsFor_of_failed found done]
        exact ⟨frames.shared, frames.staging, frames.closed, by simpa [fetched] using covered, idle,
          by simp⟩
      · rw [rowsFor_of_fetched found done]
        refine ⟨frames.shared, frames.staging, frames.closed, ?_, idle, ?_⟩
        · have member : (⟨key, rows⟩ : Ran) ∈ log ++ [⟨key, rows⟩] := by simp
          exact (covered.mono (List.subset_append_left log _)).put member (.refl key)
        · intro answer returned
          obtain rfl : rows = answer := by simpa using returned
          exact ⟨⟨key, rows⟩, by simp [fetched], .refl key, rfl⟩

def keeps (statement : MappedStatement) (key : CacheKey) (executor : Executor) : Bool :=
  !statement.flushCache && (Entries.get? executor.localCache key).isSome

def opened (statement : MappedStatement) (scene : Scene σ) : Scene σ :=
  if statement.flushCache then scene.forget else scene

theorem keyedQuery_of_open {scene : Scene σ} (isOpen : scene.executor.closed = false) :
    keyedQuery pipeline statement bounds key bound scene =
      ((rowsFor pipeline statement bounds key bound (opened statement scene)).1,
        if pipeline.configuration.settings.localScope = .statement then
          (clearLocal (rowsFor pipeline statement bounds key bound (opened statement scene)).2).2
        else (rowsFor pipeline statement bounds key bound (opened statement scene)).2) := by
  unfold keyedQuery
  rw [Action.bind_apply, ensureOpen_of_open isOpen]
  cases flush : statement.flushCache with
  | false =>
      have same : opened statement scene = scene := by simp [opened, flush]
      rw [same]
      by_cases scope : pipeline.configuration.settings.localScope = .statement <;>
        simp only [scope, if_true, if_false] <;> rfl
  | true =>
      have same : opened statement scene = (clearLocal scene).2 := by
        simp [opened, flush, clearLocal_of_open isOpen]
      rw [same]
      by_cases scope : pipeline.configuration.settings.localScope = .statement <;>
        simp only [scope, if_true, if_false] <;> rfl

theorem keyedQuery_of_closed {scene : Scene σ} (ended : scene.executor.closed = true) :
    keyedQuery pipeline statement bounds key bound scene =
      (.error (.of (.closed "Executor was closed.")), scene) := by
  simp only [keyedQuery, Action.bind_apply, ensureOpen_of_closed ended]

include framed in
theorem answered_keyedQuery (statement : MappedStatement) (bounds : RowBounds) (key : CacheKey)
    (bound : BoundSql) {scene : Scene σ}
    (covered : Entries.CoveredBy scene.executor.localCache log) :
    Answered key log
      (fetched (keeps statement key scene.executor) key
        (keyedQuery pipeline statement bounds key bound scene).1)
      scene (keyedQuery pipeline statement bounds key bound scene).2
      (keyedQuery pipeline statement bounds key bound scene).1 := by
  cases ended : scene.executor.closed with
  | true =>
      rw [keyedQuery_of_closed ended]
      exact ⟨rfl, rfl, rfl, by simpa [fetched] using covered, fun _ => rfl, by simp⟩
  | false =>
      have openedClosed : (opened statement scene).executor.closed = false := by
        unfold opened
        split <;> exact ended
      have openedCovered : Entries.CoveredBy (opened statement scene).executor.localCache log := by
        unfold opened
        split
        · exact Entries.coveredBy_nil log
        · exact covered
      have kept : (Entries.get? (opened statement scene).executor.localCache key).isSome =
          keeps statement key scene.executor := by
        unfold opened keeps
        cases statement.flushCache <;> rfl
      have answered := answered_rowsFor framed statement bounds key bound openedClosed openedCovered
      rw [kept] at answered
      have shared : (opened statement scene).shared = scene.shared := by
        unfold opened
        split <;> rfl
      have staging : (opened statement scene).executor.staging = scene.executor.staging := by
        unfold opened
        split <;> rfl
      have closed := answered.closed.trans (openedClosed.trans ended.symm)
      have idle {after : Scene σ} (contrary : scene.executor.closed = true) :
          after.executor.localCache = scene.executor.localCache := by
        rw [ended] at contrary
        cases contrary
      rw [keyedQuery_of_open ended]
      split
      · rw [clearLocal_apply, answered.closed, openedClosed]
        exact ⟨answered.shared.trans shared, answered.staging.trans staging, closed,
          Entries.coveredBy_nil _, idle, answered.recorded⟩
      · exact ⟨answered.shared.trans shared, answered.staging.trans staging, closed, answered.kept,
          idle, answered.recorded⟩

end Local

namespace Shared

def hits (statement : MappedStatement) (key : CacheKey) (scene : Scene σ) : Bool :=
  !statement.flushCache && statement.useCache && statement.cache.any fun id =>
    (Staging.get? scene.executor.staging id key scene.shared).1.isSome

variable {statement : MappedStatement} {bounds : RowBounds} {key : CacheKey} {bound : BoundSql}
  {log : List Ran}

theorem get?_clear (staging : Staging) (id : String) (key : CacheKey) (shared : SharedCaches) :
    (Staging.get? (Staging.clear staging id) id key shared).1 = none := by
  unfold Staging.get?
  rw [Staging.of_clear, if_pos rfl]
  cases Fields.get? shared id <;> rfl

theorem flushIfRequired_apply {id : String} (cached : statement.cache = some id)
    (scene : Scene σ) :
    flushIfRequired statement scene = (.ok (),
      if statement.flushCache then
        { scene with executor :=
          { scene.executor with staging := Staging.clear scene.executor.staging id } }
      else scene) := by
  simp only [flushIfRequired, cached]
  cases statement.flushCache <;> rfl

def flushed (statement : MappedStatement) (scene : Scene σ) : Scene σ :=
  match statement.cache with
  | some id =>
      if statement.flushCache then
        { scene with executor :=
          { scene.executor with staging := Staging.clear scene.executor.staging id } }
      else scene
  | none => scene

theorem flushIfRequired_eq (statement : MappedStatement) (scene : Scene σ) :
    flushIfRequired statement scene = (.ok (), flushed statement scene) := by
  unfold flushed
  cases cached : statement.cache with
  | some id => exact flushIfRequired_apply cached scene
  | none =>
      simp only [flushIfRequired, cached]
      rfl

theorem update_apply (pipeline : Pipeline σ) (statement : MappedStatement) (scene : Scene σ) :
    update pipeline statement scene = Local.update pipeline statement (flushed statement scene) := by
  simp only [update, Action.bind_apply, flushIfRequired_eq]

theorem flushed_shared (statement : MappedStatement) (scene : Scene σ) :
    (flushed statement scene).shared = scene.shared := by
  unfold flushed
  split
  · split <;> rfl
  · rfl

theorem flushed_localCache (statement : MappedStatement) (scene : Scene σ) :
    (flushed statement scene).executor.localCache = scene.executor.localCache := by
  unfold flushed
  split
  · split <;> rfl
  · rfl

theorem keeps_flushed (statement : MappedStatement) (key : CacheKey) (scene : Scene σ) :
    Local.keeps statement key (flushed statement scene).executor =
      Local.keeps statement key scene.executor := by
  rw [Local.keeps, flushed_localCache, Local.keeps]

theorem of_flushed (statement : MappedStatement) (scene : Scene σ) (id : String) :
    Staging.of (flushed statement scene).executor.staging id =
      if statement.flushCache ∧ statement.cache = some id then ⟨true, []⟩
      else Staging.of scene.executor.staging id := by
  unfold flushed
  cases statement.cache with
  | none => simp
  | some own =>
      cases statement.flushCache with
      | false => simp
      | true => simp [Staging.of_clear]

theorem rowsFor_of_hit {id : String} {scene : Scene σ} {hit : CachedValue}
    (found : (Staging.get? scene.executor.staging id key scene.shared).1 = some hit) :
    rowsFor pipeline statement bounds key bound id scene =
      (.ok hit.toRows, { scene with
        shared := (Staging.get? scene.executor.staging id key scene.shared).2 }) := by
  have looked : lookUp id key scene = (.ok (some hit), { scene with
      shared := (Staging.get? scene.executor.staging id key scene.shared).2 }) := by
    rw [← found]
    rfl
  simp only [rowsFor, Action.bind_apply, looked, Action.pure_apply]

theorem rowsFor_of_miss {id : String} {scene : Scene σ}
    (missing : (Staging.get? scene.executor.staging id key scene.shared).1 = none) :
    rowsFor pipeline statement bounds key bound id scene =
      (do
        let rows ← Local.keyedQuery pipeline statement bounds key bound
        setStaging (Staging.put (← Work.executor).staging id key (.rows rows))
        return rows : Work σ (List Value)) { scene with
          shared := (Staging.get? scene.executor.staging id key scene.shared).2 } := by
  have looked : lookUp id key scene = (.ok none, { scene with
      shared := (Staging.get? scene.executor.staging id key scene.shared).2 }) := by
    rw [← missing]
    rfl
  simp only [rowsFor, Action.bind_apply, looked]

def checkOutputs (statement : MappedStatement) (bound : BoundSql) : Except Error Unit :=
  if statement.cache.isSome && statement.useCache then ensureNoOutputs statement bound else .ok ()

theorem keyedQuery_cases (pipeline : Pipeline σ) (statement : MappedStatement) (bounds : RowBounds)
    (key : CacheKey) (bound : BoundSql) (scene : Scene σ) :
    (∃ e, checkOutputs statement bound = .error e ∧
        keyedQuery pipeline statement bounds key bound scene = (.error e, scene)) ∨
      checkOutputs statement bound = .ok () ∧
        (hits statement key scene = false ∧
            keyedQuery pipeline statement bounds key bound scene =
              Local.keyedQuery pipeline statement bounds key bound (flushed statement scene) ∨
          ∃ id, statement.cache = some id ∧
            hits statement key scene =
              (Staging.get? (flushed statement scene).executor.staging id key
                (flushed statement scene).shared).1.isSome ∧
            keyedQuery pipeline statement bounds key bound scene =
              rowsFor pipeline statement bounds key bound id (flushed statement scene)) := by
  have flushing := flushIfRequired_eq statement scene
  cases cached : statement.cache with
  | none =>
      refine .inr ⟨by simp [checkOutputs, cached], .inl ⟨by simp [hits, cached], ?_⟩⟩
      simp only [keyedQuery, flushed, cached]
  | some id =>
      cases used : statement.useCache with
      | false =>
          refine .inr ⟨by simp [checkOutputs, used], .inl ⟨by simp [hits, used], ?_⟩⟩
          simp only [keyedQuery, cached, used, Bool.false_eq_true, if_false, Action.bind_apply,
            flushing]
      | true =>
          -- outputs are checked only where a shared cache is used
          have checked : checkOutputs statement bound = ensureNoOutputs statement bound := by
            simp [checkOutputs, cached, used]
          rw [checked]
          simp only [keyedQuery, cached, used, if_true, Action.bind_apply, Work.lift_apply]
          cases ensureNoOutputs statement bound with
          | error e => exact .inl ⟨e, rfl, rfl⟩
          | ok =>
              refine .inr ⟨rfl, .inr ⟨id, rfl, ?_, by simp only [flushing]⟩⟩
              unfold hits flushed
              rw [cached, used]
              cases statement.flushCache with
              | true => simp [get?_clear]
              | false => simp

structure Recorded (log more : List Ran) (before after : Scene σ) : Prop where
  shared : before.shared.SameContents after.shared
  covered : after.executor.Covered (log ++ more)

include framed in
theorem recorded_local (statement : MappedStatement) (bounds : RowBounds) (key : CacheKey)
    (bound : BoundSql) {scene : Scene σ} (covered : scene.executor.Covered log) :
    Recorded log
      (Local.fetched (Local.keeps statement key scene.executor) key
        (Local.keyedQuery pipeline statement bounds key bound scene).1)
      scene (Local.keyedQuery pipeline statement bounds key bound scene).2 := by
  have answered := Local.answered_keyedQuery framed statement bounds key bound covered.kept
  exact ⟨by rw [answered.shared]; exact .refl _, answered.covered covered⟩

include framed in
theorem recorded_rowsFor (statement : MappedStatement) (bounds : RowBounds) (key : CacheKey)
    (bound : BoundSql) (id : String) {scene : Scene σ} (perpetual : scene.shared.Perpetual)
    (covered : scene.executor.Covered log) :
    Recorded log
      (Local.fetched
        ((Staging.get? scene.executor.staging id key scene.shared).1.isSome ||
          Local.keeps statement key scene.executor)
        key (rowsFor pipeline statement bounds key bound id scene).1)
      scene (rowsFor pipeline statement bounds key bound id scene).2 := by
  have looked := Staging.sameContents_get? perpetual scene.executor.staging id key
  cases found : (Staging.get? scene.executor.staging id key scene.shared).1 with
  | some hit =>
      rw [rowsFor_of_hit found]
      exact ⟨looked, by simpa [Local.fetched] using covered⟩
  | none =>
      have seen : { scene with
          shared := (Staging.get? scene.executor.staging id key scene.shared).2
          : Scene σ }.executor.Covered log := covered
      have answered := Local.answered_keyedQuery framed statement bounds key bound seen.kept
      rw [rowsFor_of_miss found]
      simp only [Action.bind_apply, Option.isSome_none, Bool.false_or]
      rcases done : Local.keyedQuery pipeline statement bounds key bound { scene with
          shared := (Staging.get? scene.executor.staging id key scene.shared).2 } with
        ⟨e | rows, after⟩ <;> rw [done] at answered
      · exact ⟨by rw [answered.shared]; exact looked, answered.covered seen⟩
      · obtain ⟨ran, member, matched, rfl⟩ := answered.recorded rows rfl
        have same : scene.shared.SameContents after.shared := by
          rw [answered.shared]
          exact looked
        have covers := answered.covered seen
        refine ⟨same, covers.kept, fun other => ?_, covers.ended⟩
        change Entries.CoveredBy (Staging.of (Staging.put after.executor.staging id key _)
          other).entries _
        rw [Staging.of_put]
        split
        · exact (covers.staged id).put member matched
        · exact covers.staged other

include framed in
theorem recorded_keyedQuery (statement : MappedStatement) (bounds : RowBounds) (key : CacheKey)
    (bound : BoundSql) {scene : Scene σ} (perpetual : scene.shared.Perpetual)
    (covered : scene.executor.Covered log) :
    Recorded log
      (Local.fetched (hits statement key scene || Local.keeps statement key scene.executor) key
        (keyedQuery pipeline statement bounds key bound scene).1)
      scene (keyedQuery pipeline statement bounds key bound scene).2 := by
  have settled := settles_flushIfRequired statement scene
  rw [flushIfRequired_eq] at settled
  have shared := flushed_shared statement scene
  have keeps := keeps_flushed statement key scene
  rcases keyedQuery_cases pipeline statement bounds key bound scene with
    ⟨e, -, refused⟩ | ⟨-, ⟨unseen, behind⟩ | ⟨id, -, seen, there⟩⟩
  · rw [refused]
    exact ⟨.refl _, by simpa [Local.fetched] using covered⟩
  · have recorded := recorded_local framed statement bounds key bound (settled.covered log covered)
    rw [behind, unseen, Bool.false_or, ← keeps]
    exact ⟨shared ▸ recorded.shared, recorded.covered⟩
  · have recorded := recorded_rowsFor framed statement bounds key bound id
      (shared.symm ▸ perpetual) (settled.covered log covered)
    rw [there, seen, ← keeps]
    exact ⟨shared ▸ recorded.shared, recorded.covered⟩

include framed in
theorem settles_update (statement : MappedStatement) : Settles (update pipeline statement) :=
  (settles_flushIfRequired statement).bind fun _ => Local.settles_update framed statement

include framed in
theorem settles_queryCursor (statement : MappedStatement) (parameter : Value)
    (bounds : RowBounds) : Settles (queryCursor pipeline statement parameter bounds) :=
  (settles_flushIfRequired statement).bind fun _ =>
    Local.settles_queryCursor framed statement parameter bounds

/-- The shared caches hold what they held, and besides only rows of queries on record. -/
def Publishes (log : List Ran) (before after : SharedCaches) : Prop :=
  ∀ id cache, Fields.get? after id = some cache →
    ∃ entries kept, Fields.get? before id = some (.perpetual kept) ∧ cache = .perpetual entries ∧
      ∀ entry ∈ entries, entry ∈ kept ∨
        ∃ ran ∈ log, ran.key.Matches entry.1 ∧ entry.2 = .rows ran.rows

theorem publishes_of_sameContents {before after : SharedCaches} (perpetual : before.Perpetual)
    (same : before.SameContents after) (log : List Ran) : Publishes log before after := by
  intro id cache found
  rw [same] at found
  obtain ⟨entries, rfl⟩ := perpetual id cache found
  exact ⟨entries, entries, found, rfl, fun entry mem => .inl mem⟩

theorem publishes_publish {shared : SharedCaches} (perpetual : shared.Perpetual)
    {executor : Executor} (covered : executor.Covered log) (drain : DrainOrder) :
    Publishes log shared (Staging.publish executor.staging shared drain) := by
  intro id cache found
  rw [Staging.get?_publish, Option.map_eq_some_iff] at found
  obtain ⟨before, present, rfl⟩ := found
  obtain ⟨kept, rfl⟩ := perpetual id before present
  obtain ⟨entries, published, from_⟩ :=
    (Staging.of executor.staging id).publish_perpetual (executor.staging.drained drain id) kept
  refine ⟨entries, kept, present, published, fun entry mem => ?_⟩
  rcases from_ entry mem with old | ⟨write, member, matched, same⟩
  · exact .inl old
  · have staged := (drain.perm id _).mem_iff.1 member
    obtain ⟨ran, among, asked, rows⟩ := covered.staged id write staged
    exact .inr ⟨ran, among, asked.trans matched, same.trans rows⟩

theorem publish_apply (scene : Scene σ) :
    publish scene = (.ok (), { scene with
      shared := Staging.publish scene.executor.staging scene.shared (scene.executor.drains 0)
      executor := { scene.executor with staging := [], drains := scene.executor.drains.rest } }) :=
  rfl

theorem covered_empty {executor : Executor} (kept : executor.localCache = [])
    (staged : executor.staging = []) : executor.Covered [] := by
  refine ⟨?_, fun id => ?_, fun _ => kept⟩
  · simp [kept, Entries.CoveredBy]
  · simp [staged, Entries.CoveredBy]

theorem commit_cases {scene : Scene σ} (perpetual : scene.shared.Perpetual)
    (covered : scene.executor.Covered log) (required : Bool) :
    (∃ e after, commit pipeline required scene = (.error e, after) ∧ scene.Settles after) ∨
      ∃ after, commit pipeline required scene = (.ok (), after) ∧
        Publishes log scene.shared after.shared ∧ after.shared.Perpetual ∧
        after.executor.Covered [] := by
  have settled := @Local.settles_commit σ pipeline required scene
  have unfolded : commit pipeline required scene =
      (Local.commit pipeline required >>= fun _ => publish) scene := rfl
  rw [unfolded, Action.bind_apply]
  rcases done : Local.commit pipeline required scene with ⟨e | _, after⟩ <;> rw [done] at settled
  · exact .inl ⟨e, after, rfl, settled⟩
  · have shared := settled.shared perpetual
    have still := perpetual.of_sameContents shared
    refine .inr ⟨_, publish_apply after, fun id cache found => ?_, still.publish _ _,
      covered_empty (?_ : after.executor.localCache = []) rfl⟩
    · have published := publishes_publish still (settled.covered log covered) _ id cache found
      rwa [shared id] at published
    · exact Local.localCache_commit done

theorem rollback_settles {scene : Scene σ} (perpetual : scene.shared.Perpetual)
    (covered : scene.executor.Covered log) (required : Bool) :
    scene.shared.SameContents (rollback pipeline required scene).2.shared ∧
      (rollback pipeline required scene).2.executor.Covered [] := by
  have settled := @Local.settles_rollback σ pipeline required scene
  have after : (rollback pipeline required scene).2 =
      { (Local.rollback pipeline required scene).2 with
        executor := { (Local.rollback pipeline required scene).2.executor with staging := [] } } :=
    rfl
  rw [after]
  exact ⟨settled.shared perpetual,
    covered_empty (Local.localCache_rollback required covered) rfl⟩

theorem close_cases {scene : Scene σ} (perpetual : scene.shared.Perpetual)
    (covered : scene.executor.Covered log) (required : Bool) :
    (required → scene.shared.SameContents (close pipeline required scene).2.shared) ∧
      Publishes log scene.shared (close pipeline required scene).2.shared ∧
      (close pipeline required scene).2.shared.Perpetual ∧
      (close pipeline required scene).2.executor.Covered log := by
  cases required with
  | true =>
      have emptied : Settles (setStaging [] : Work σ Unit) := settles_setStaging fun _ => rfl
      have settled := (emptied.bind fun _ => @Local.settles_close σ pipeline true) scene
      have same := settled.shared perpetual
      exact ⟨fun _ => same, publishes_of_sameContents perpetual same log,
        perpetual.of_sameContents same, settled.covered log covered⟩
  | false =>
      have published := publishes_publish perpetual covered (scene.executor.drains 0)
      have still := perpetual.publish (scene.executor.drains 0) scene.executor.staging
      have settled := @Local.settles_close σ pipeline false (publish scene).2
      have same := settled.shared still
      have empty : (publish scene).2.executor.Covered log :=
        ⟨covered.kept, fun id => by simp [publish_apply, Entries.CoveredBy], covered.ended⟩
      refine ⟨by simp, fun id cache found => ?_, still.of_sameContents same,
        settled.covered log empty⟩
      exact published id cache ((same id).symm.trans found)

end Shared

def keyFor (pipeline : Pipeline σ) (statement : MappedStatement) (parameter : Value)
    (bounds : RowBounds) : Except Error CacheKey := do
  let bound ← statement.boundSql parameter pipeline.setting
  keyOf pipeline.configuration.databaseId statement bounds bound

theorem keyFor_eq_ok {statement : MappedStatement} {parameter : Value} {bounds : RowBounds}
    {bound : BoundSql} {key : CacheKey}
    (bounded : statement.boundSql parameter pipeline.setting = .ok bound)
    (keyed : keyOf pipeline.configuration.databaseId statement bounds bound = .ok key) :
    keyFor pipeline statement parameter bounds = .ok key := by
  simp only [keyFor, bounded]
  exact keyed

def ran (pipeline : Pipeline σ) (statement : MappedStatement) (parameter : Value)
    (bounds : RowBounds) (scene : Scene σ) : List Ran :=
  match keyFor pipeline statement parameter bounds with
  | .error _ => []
  | .ok key =>
      Local.fetched (Shared.hits statement key scene || Local.keeps statement key scene.executor) key
        (query pipeline statement parameter bounds scene).1

variable (direct : pipeline.Direct)
  (cached : pipeline.configuration.settings.cacheEnabled = true)

include cached in
theorem choose_of_cached (shared unshared : Work σ α) :
    choose pipeline shared unshared = shared := by
  rw [choose, if_pos cached]

theorem cacheKey_of_open (statement : MappedStatement) (bounds : RowBounds) (bound : BoundSql)
    {scene : Scene σ} (isOpen : scene.executor.closed = false) :
    cacheKey pipeline statement bounds bound scene =
      (keyOf pipeline.configuration.databaseId statement bounds bound, scene) := by
  simp only [cacheKey, Action.bind_apply, ensureOpen_of_open isOpen]
  rfl

include direct cached

omit cached in
theorem query_of_closed (statement : MappedStatement) (parameter : Value) (bounds : RowBounds)
    {scene : Scene σ} (ended : scene.executor.closed = true) :
    ∃ e, query pipeline statement parameter bounds scene = (.error e, scene) := by
  rw [query, direct.call_eq rfl Shape.faithful_rows rfl]
  simp only [Action.bind_apply, Work.lift_apply]
  cases statement.boundSql parameter pipeline.setting with
  | error e => exact ⟨e, rfl⟩
  | ok bound =>
      refine ⟨.of (.closed "Executor was closed."), ?_⟩
      simp only [cacheKey, Action.bind_apply, ensureOpen_of_closed ended]

theorem query_cases (statement : MappedStatement) (parameter : Value) (bounds : RowBounds)
    (scene : Scene σ) :
    (∃ e, query pipeline statement parameter bounds scene = (.error e, scene)) ∨
      ∃ bound key, statement.boundSql parameter pipeline.setting = .ok bound ∧
        keyOf pipeline.configuration.databaseId statement bounds bound = .ok key ∧
        query pipeline statement parameter bounds scene =
          Shared.keyedQuery pipeline statement bounds key bound scene := by
  cases ended : scene.executor.closed with
  | true => exact .inl (query_of_closed direct statement parameter bounds ended)
  | false =>
      rw [query, direct.call_eq rfl Shape.faithful_rows rfl]
      simp only [Action.bind_apply, Work.lift_apply, answerKeyed, choose_of_cached cached]
      cases statement.boundSql parameter pipeline.setting with
      | error e => exact .inl ⟨e, rfl⟩
      | ok bound =>
          simp only [cacheKey_of_open statement bounds bound ended]
          cases keyed : keyOf pipeline.configuration.databaseId statement bounds bound with
          | error e => exact .inl ⟨e, rfl⟩
          | ok key => exact .inr ⟨bound, key, rfl, keyed, rfl⟩

theorem recorded_query (statement : MappedStatement) (parameter : Value) (bounds : RowBounds)
    {scene : Scene σ} (perpetual : scene.shared.Perpetual) {log : List Ran}
    (covered : scene.executor.Covered log) :
    Shared.Recorded log (ran pipeline statement parameter bounds scene) scene
      (query pipeline statement parameter bounds scene).2 := by
  rcases query_cases direct cached statement parameter bounds scene with
    ⟨e, failed⟩ | ⟨bound, key, bounded, keyed, answered⟩
  · have nothing : ran pipeline statement parameter bounds scene = [] := by
      unfold ran
      split
      · rfl
      · simp only [failed, Local.fetched]
    rw [failed, nothing]
    exact ⟨.refl _, by simpa using covered⟩
  · simp only [ran, keyFor_eq_ok bounded keyed, answered]
    exact Shared.recorded_keyedQuery direct.framed statement bounds key bound perpetual covered

theorem update_eq (statement : MappedStatement) :
    update pipeline statement = Shared.update pipeline statement := by
  rw [update, direct.call_eq rfl Shape.faithful_count rfl]
  exact choose_of_cached cached _ _

theorem queryCursor_eq (statement : MappedStatement) (parameter : Value) (bounds : RowBounds) :
    queryCursor pipeline statement parameter bounds =
      Shared.queryCursor pipeline statement parameter bounds := by
  rw [queryCursor, direct.call_eq rfl Shape.faithful_cursor rfl]
  exact choose_of_cached cached _ _

omit cached in
theorem flush_eq : flush pipeline = Local.flush pipeline := by
  rw [flush, direct.call_eq rfl Shape.faithful_batches rfl]

theorem settles_update (statement : MappedStatement) : Settles (update pipeline statement) := by
  rw [update_eq direct cached]
  exact Shared.settles_update direct.framed statement

theorem settles_queryCursor (statement : MappedStatement) (parameter : Value)
    (bounds : RowBounds) : Settles (queryCursor pipeline statement parameter bounds) := by
  rw [queryCursor_eq direct cached]
  exact Shared.settles_queryCursor direct.framed statement parameter bounds

omit cached in
theorem settles_flush : Settles (flush pipeline) := by
  rw [flush_eq direct]
  exact Local.frames_flush.settles

theorem commit_eq (required : Bool) : commit pipeline required = Shared.commit pipeline required := by
  rw [commit, direct.call_eq rfl Shape.faithful_unit rfl]
  exact choose_of_cached cached _ _

theorem rollback_eq (required : Bool) :
    rollback pipeline required = Shared.rollback pipeline required := by
  rw [rollback, direct.call_eq rfl Shape.faithful_unit rfl]
  exact choose_of_cached cached _ _

omit direct in
theorem close_eq (required : Bool) : close pipeline required = Shared.close pipeline required :=
  choose_of_cached cached _ _

end Executor

end MappedSql
