import MappedSql.Proofs.Cache.Overlay
import MappedSql.Proofs.Execution.Metering
import MappedSql.Proofs.Execution.Provenance

namespace MappedSql

variable {σ α : Type}

def Pipeline.cacheOf (pipeline : Pipeline σ) (statement : MappedStatement) : Option String :=
  if pipeline.configuration.settings.cacheEnabled && statement.useCache then statement.cache
  else none

namespace Staging

def stage (staging : Staging) (cache? : Option String) (key : CacheKey) (rows : List Value) :
    Staging :=
  match cache? with
  | some id => staging.put id key (.rows rows)
  | none => staging

theorem get?_stage (staging : Staging) (cache? : Option String) (key other : CacheKey)
    (rows : List Value) (id : String) :
    Entries.get? (of (staging.stage cache? key rows) id).entries other =
      if cache? = some id ∧ key.same other then some (.rows rows)
      else Entries.get? (of staging id).entries other := by
  cases cache? with
  | none => simp [stage]
  | some own =>
      rw [stage, of_put]
      by_cases here : own = id
      · subst here
        simp [StagedWrites.put, Entries.get?_put]
      · simp [here]

theorem get?_of_staged {staging : Staging} {id : String} {key : CacheKey} {shared : SharedCaches}
    {cached value : CachedValue} (staged : Entries.get? (of staging id).entries key = some value)
    (found : (staging.get? id key shared).1 = some cached) : cached = value := by
  unfold get? at found
  split at found
  · simp only [StagedWrites.get?, staged] at found
    exact (Option.some.inj found).symm
  · cases found

end Staging

namespace Executor

structure Holds (executor : Executor) (cache? : Option String) (key : CacheKey)
    (rows : List Value) : Prop where
  kept : ∀ other, key.same other → Entries.get? executor.localCache other = some (.rows rows)
  staged : ∀ id ∈ cache?, ∀ other, key.same other →
    Entries.get? (Staging.of executor.staging id).entries other = some (.rows rows)

inductive Answers (pipeline : Pipeline σ) (handler : Handler) (key : CacheKey)
    (before after : Scene σ) : List Value → Prop
  | hit {id : String} {cached : CachedValue} (shared : id ∈ pipeline.cacheOf handler.statement)
      (found : (Staging.get? before.executor.staging id key before.shared).1 = some cached)
      (source : after.source = before.source) (executor : after.executor = before.executor) :
      Answers pipeline handler key before after cached.toRows
  | kept {cached : CachedValue} (found : Entries.get? before.executor.localCache key = some cached)
      (source : after.source = before.source)
      (executor : after.executor = { before.executor with
        staging :=
          before.executor.staging.stage (pipeline.cacheOf handler.statement) key cached.toRows }) :
      Answers pipeline handler key before after cached.toRows
  | fetched {rows : List Value} (missing : Entries.get? before.executor.localCache key = none)
      (fetches : Fetches pipeline handler rows before after)
      (localCache : after.executor.localCache =
        Entries.put before.executor.localCache key (.rows rows))
      (staging : after.executor.staging =
        before.executor.staging.stage (pipeline.cacheOf handler.statement) key rows) :
      Answers pipeline handler key before after rows

namespace Holds

variable {pipeline : Pipeline σ} {handler : Handler} {key own : CacheKey} {before after : Scene σ}
  {cache? : Option String} {rows answer : List Value}

theorem of_fetched (localCache : after.executor.localCache =
      Entries.put before.executor.localCache key (.rows rows))
    (staging : after.executor.staging = before.executor.staging.stage cache? key rows) :
    after.executor.Holds cache? key rows := by
  refine ⟨fun other same => ?_, fun id mem other same => ?_⟩
  · rw [localCache, Entries.get?_put, if_pos same]
  · rw [staging, Staging.get?_stage, if_pos ⟨mem, same⟩]

theorem answers (holds : before.executor.Holds cache? own rows)
    (answers : Answers pipeline handler key before after answer)
    (agree : own.same key → pipeline.cacheOf handler.statement = cache?) :
    after.executor.Holds cache? own rows ∧
      (own.same key → answer = rows ∧ after.source = before.source) := by
  cases answers with
  | hit shared found source executor =>
      -- staged rows come before those of the shared cache
      refine ⟨executor ▸ holds, fun same => ⟨?_, source⟩⟩
      have staged := holds.staged _ (agree same ▸ shared) key same
      rw [Staging.get?_of_staged staged found]
      rfl
  | @kept cached found source executor =>
      have known (same : own.same key) : cached = .rows rows :=
        Option.some.inj (found.symm.trans (holds.kept key same))
      refine ⟨⟨?_, fun id mem other same => ?_⟩, fun same => ⟨?_, source⟩⟩
      · rw [executor]
        exact holds.kept
      · rw [executor, Staging.get?_stage]
        split
        · rename_i here
          rw [known (CacheKey.same_trans same (CacheKey.same_symm here.2))]
          rfl
        · exact holds.staged id mem other same
      · rw [known same]
        rfl
  | fetched missing fetches localCache staging =>
      -- rows that are held would have been found, so these were fetched for another key
      have apart : ¬own.same key := fun same => by
        rw [holds.kept key same] at missing
        cases missing
      have elsewhere {other : CacheKey} (same : own.same other) : ¬key.same other := fun here =>
        apart (CacheKey.same_trans same (CacheKey.same_symm here))
      refine ⟨⟨fun other same => ?_, fun id mem other same => ?_⟩, fun same => absurd same apart⟩
      · rw [localCache, Entries.get?_put, if_neg (elsewhere same)]
        exact holds.kept other same
      · rw [staging, Staging.get?_stage, if_neg fun here => elsewhere same here.2]
        exact holds.staged id mem other same

end Holds

section

variable {pipeline : Pipeline σ} {handler : Handler} {key : CacheKey} {before after : Scene σ}
  {rows : List Value} {meter : σ → Nat} {latest : σ → ResultSet}
  (meters : pipeline.source.Meters meter latest) (plain : pipeline.Plain)

include meters plain

theorem Fetches.executed (fetches : Fetches pipeline handler rows before after) :
    meter after.source = meter before.source + 1 ∧ handler.Maps latest rows after.source := by
  obtain ⟨first, last, asked, done, left⟩ := fetches
  have executed := (Strategy.executes_query meters plain handler (meter first.source) first rfl).1
  rw [done] at executed
  have begun : first.bare.source = before.bare.source := congrArg Scene.source asked
  have ended : last.bare.source = after.bare.source := congrArg Scene.source left
  obtain ⟨counted, maps⟩ := executed rows rfl
  refine ⟨?_, ended ▸ maps⟩
  exact (congrArg meter ended).symm.trans (counted.trans (congrArg (meter · + 1) begun))

theorem Answers.executed (answers : Answers pipeline handler key before after rows) :
    after.source = before.source ∨
      meter after.source = meter before.source + 1 ∧ handler.Maps latest rows after.source ∧
        after.executor.Holds (pipeline.cacheOf handler.statement) key rows := by
  cases answers with
  | hit shared found source executor => exact .inl source
  | kept found source executor => exact .inl source
  | fetched missing fetches localCache staging =>
      obtain ⟨counted, maps⟩ := fetches.executed meters plain
      exact .inr ⟨counted, maps, .of_fetched localCache staging⟩

end

structure Spares (before after : Executor) : Prop where
  localCache : after.localCache = before.localCache
  staging : after.staging = before.staging

theorem Spares.trans {first second third : Executor} (left : first.Spares second)
    (right : second.Spares third) : first.Spares third :=
  ⟨right.localCache.trans left.localCache, right.staging.trans left.staging⟩

theorem Spares.holds {before after : Executor} (spares : before.Spares after)
    {cache? : Option String} {key : CacheKey} {rows : List Value}
    (holds : before.Holds cache? key rows) : after.Holds cache? key rows :=
  ⟨spares.localCache ▸ holds.kept, spares.staging ▸ holds.staged⟩

variable {pipeline : Pipeline σ} {statement : MappedStatement} {bounds : RowBounds} {key : CacheKey}
  {bound : BoundSql}

section

variable (plain : pipeline.Plain) (unflushed : statement.flushCache = false)
  (scope : pipeline.configuration.settings.localScope = .session)

include unflushed in
theorem flushIfRequired_of_unflushed (scene : Scene σ) :
    Shared.flushIfRequired statement scene = (.ok (), scene) := by
  rw [Shared.flushIfRequired_eq, Shared.flushed]
  cases statement.cache <;> simp [unflushed]

include plain unflushed scope

theorem Local.keyedQuery_answers (scene : Scene σ) :
    (∃ e after, Local.keyedQuery pipeline statement bounds key bound scene = (.error e, after) ∧
        scene.executor.Spares after.executor) ∨
      (∃ cached, Entries.get? scene.executor.localCache key = some cached ∧
        Local.keyedQuery pipeline statement bounds key bound scene = (.ok cached.toRows, scene)) ∨
      ∃ rows after, Local.keyedQuery pipeline statement bounds key bound scene = (.ok rows, after) ∧
        Entries.get? scene.executor.localCache key = none ∧
        Fetches pipeline ⟨statement, bound, bounds⟩ rows scene after ∧
        after.executor.localCache = Entries.put scene.executor.localCache key (.rows rows) ∧
        after.executor.staging = scene.executor.staging := by
  cases ended : scene.executor.closed with
  | true => exact .inl ⟨_, _, Local.keyedQuery_of_closed ended, rfl, rfl⟩
  | false =>
      have asked : Local.keyedQuery pipeline statement bounds key bound scene =
          Local.rowsFor pipeline statement bounds key bound scene := by
        rw [Local.keyedQuery_of_open ended, Local.opened, if_neg (by simp [unflushed]), scope]
        rfl
      rw [asked]
      cases found : Entries.get? scene.executor.localCache key with
      | some cached => exact .inr (.inl ⟨cached, rfl, Local.rowsFor_of_kept found⟩)
      | none =>
          have frames := Strategy.frames_query ⟨statement, bound, bounds⟩ plain.framed scene
          rcases done : Strategy.query pipeline ⟨statement, bound, bounds⟩ scene with
            ⟨e | rows, after⟩ <;> rw [done] at frames
          · exact .inl ⟨e, after, Local.rowsFor_of_failed found done, frames.localCache,
              frames.staging⟩
          · refine .inr (.inr ⟨rows, _, Local.rowsFor_of_fetched found done, rfl,
              ⟨scene, after, rfl, done, rfl⟩, ?_, frames.staging⟩)
            rw [frames.localCache]

variable (bounds key bound) in
theorem Local.answers_keyedQuery (uncached : pipeline.cacheOf statement = none) (scene : Scene σ) :
    (∃ e after, Local.keyedQuery pipeline statement bounds key bound scene = (.error e, after) ∧
        scene.executor.Spares after.executor) ∨
      ∃ rows after, Local.keyedQuery pipeline statement bounds key bound scene = (.ok rows, after) ∧
        Answers pipeline ⟨statement, bound, bounds⟩ key scene after rows := by
  rcases Local.keyedQuery_answers plain unflushed scope scene with
    failed | ⟨cached, found, answered⟩ |
      ⟨rows, after, answered, missing, fetches, localCache, staging⟩
  · exact .inl failed
  · refine .inr ⟨_, _, answered, .kept found rfl ?_⟩
    rw [uncached]
    rfl
  · refine .inr ⟨_, _, answered, .fetched missing fetches localCache ?_⟩
    rw [uncached]
    exact staging

theorem Shared.answers_rowsFor {id : String} (cached : pipeline.cacheOf statement = some id)
    (scene : Scene σ) :
    (∃ e after, Shared.rowsFor pipeline statement bounds key bound id scene = (.error e, after) ∧
        scene.executor.Spares after.executor) ∨
      ∃ rows after,
        Shared.rowsFor pipeline statement bounds key bound id scene = (.ok rows, after) ∧
          Answers pipeline ⟨statement, bound, bounds⟩ key scene after rows := by
  cases found : (Staging.get? scene.executor.staging id key scene.shared).1 with
  | some hit => exact .inr ⟨_, _, Shared.rowsFor_of_hit found, .hit cached found rfl rfl⟩
  | none =>
      rw [Shared.rowsFor_of_miss found, Action.bind_apply]
      rcases Local.keyedQuery_answers plain unflushed scope { scene with
          shared := (Staging.get? scene.executor.staging id key scene.shared).2 } with
        ⟨e, after, failed, spares⟩ | ⟨kept, present, answered⟩ |
          ⟨rows, after, answered, missing, fetches, localCache, staging⟩
      · rw [failed]
        exact .inl ⟨e, after, rfl, spares⟩
      · rw [answered]
        refine .inr ⟨_, _, rfl, .kept present rfl ?_⟩
        rw [cached]
        rfl
      · rw [answered]
        refine .inr ⟨rows, _, rfl, .fetched missing (fetches.of_bare rfl rfl) localCache ?_⟩
        rw [cached, Staging.stage, ← staging]

variable (bounds key bound) in
theorem answers_answerKeyed (scene : Scene σ) :
    (∃ e after, answerKeyed pipeline statement bounds key bound scene = (.error e, after) ∧
        scene.executor.Spares after.executor) ∨
      ∃ rows after, answerKeyed pipeline statement bounds key bound scene = (.ok rows, after) ∧
        Answers pipeline ⟨statement, bound, bounds⟩ key scene after rows := by
  have behind (uncached : pipeline.cacheOf statement = none) :=
    Local.answers_keyedQuery bounds key bound plain unflushed scope uncached scene
  have flushing := flushIfRequired_of_unflushed unflushed scene
  unfold answerKeyed choose
  cases enabled : pipeline.configuration.settings.cacheEnabled with
  | false => exact behind (by simp [Pipeline.cacheOf, enabled])
  | true =>
      simp only [if_true]
      unfold Shared.keyedQuery
      cases cached : statement.cache with
      | none => exact behind (by simp [Pipeline.cacheOf, cached])
      | some id =>
          cases used : statement.useCache with
          | false =>
              simp only [Bool.false_eq_true, if_false, Action.bind_apply, flushing]
              exact behind (by simp [Pipeline.cacheOf, used])
          | true =>
              simp only [if_true, Action.bind_apply, Work.lift_apply]
              cases Shared.ensureNoOutputs statement bound with
              | error e => exact .inl ⟨e, scene, rfl, rfl, rfl⟩
              | ok =>
                  simp only [flushing]
                  have shared : pipeline.cacheOf statement = some id := by
                    simp [Pipeline.cacheOf, enabled, used, cached]
                  exact Shared.answers_rowsFor plain unflushed scope shared scene

variable (bounds) in
theorem answers_query (parameter : Value) (scene : Scene σ) :
    (∃ e after, query pipeline statement parameter bounds scene = (.error e, after) ∧
        scene.executor.Spares after.executor) ∨
      ∃ key bound rows after, keyFor pipeline statement parameter bounds = .ok key ∧
        query pipeline statement parameter bounds scene = (.ok rows, after) ∧
        Answers pipeline ⟨statement, bound, bounds⟩ key scene after rows := by
  cases ended : scene.executor.closed with
  | true =>
      obtain ⟨e, failed⟩ := query_of_closed plain.direct statement parameter bounds ended
      exact .inl ⟨e, scene, failed, rfl, rfl⟩
  | false =>
      rw [query, plain.call_eq]
      simp only [Action.bind_apply, Work.lift_apply]
      cases bounded : statement.boundSql parameter pipeline.setting with
      | error e => exact .inl ⟨e, scene, rfl, rfl, rfl⟩
      | ok bound =>
          simp only [cacheKey_of_open statement bounds bound ended]
          cases keyed : keyOf pipeline.configuration.databaseId statement bounds bound with
          | error e => exact .inl ⟨e, scene, rfl, rfl, rfl⟩
          | ok key =>
              rcases answers_answerKeyed bounds key bound plain unflushed scope scene with
                failed | ⟨rows, after, answered, answers⟩
              · exact .inl failed
              · exact .inr ⟨key, bound, rows, after, keyFor_eq_ok bounded keyed, answered, answers⟩

omit scope in
theorem frames_queryCursor (parameter : Value) :
    Work.Frames (queryCursor pipeline statement parameter bounds) := by
  have unshared : Work.Frames (Local.queryCursor pipeline statement parameter bounds) :=
    frames_ensureOpen.bind fun _ => (Work.Frames.ofResult _).bind fun bound =>
      Strategy.frames_openCursor ⟨statement, bound, bounds⟩ plain.framed
  rw [queryCursor, plain.call_eq]
  dsimp only [choose]
  split
  · refine Work.Frames.bind (fun scene => ?_) fun _ => unshared
    rw [flushIfRequired_of_unflushed unflushed]
    exact .refl scene
  · exact unshared

end

end Executor

end MappedSql
