import MappedSql.Proofs.Execution.Provenance

namespace MappedSql

variable {σ α β : Type}

open Work (Frames)

/-- No rows are kept, staged or shared that were not before; what is staged for a cache stays, or the
cache is to be cleared. -/
structure Scene.Reduces (before after : Scene σ) : Prop where
  shared : before.shared.SameEntries after.shared
  staging : ∀ id, Staging.of after.executor.staging id = Staging.of before.executor.staging id ∨
    Staging.of after.executor.staging id = ⟨true, []⟩
  localCache : after.executor.localCache ⊆ before.executor.localCache
  closed : before.executor.closed → after.executor.closed

theorem Scene.Reduces.refl (scene : Scene σ) : scene.Reduces scene :=
  ⟨.refl _, fun _ => .inl rfl, fun _ => id, id⟩

theorem Scene.Reduces.trans {first second third : Scene σ} (left : first.Reduces second)
    (right : second.Reduces third) : first.Reduces third where
  shared := left.shared.trans right.shared
  staging := fun id => by
    rcases right.staging id with same | cleared
    · rw [same]
      exact left.staging id
    · exact .inr cleared
  localCache := fun _ mem => left.localCache (right.localCache mem)
  closed := fun ended => right.closed (left.closed ended)

theorem Scene.SameCaches.reduces {before after : Scene σ} (same : before.SameCaches after) :
    before.Reduces after where
  shared := by
    rw [same.shared]
    exact .refl _
  staging := fun id => .inl (by rw [same.staging])
  localCache := by
    rw [same.localCache]
    exact fun _ => id
  closed := by
    rw [same.closed]
    exact id

def Work.Reduces (act : Work σ α) : Prop :=
  ∀ scene : Scene σ, scene.Reduces (act scene).2

theorem Work.Frames.reduces {act : Work σ α} (frames : Frames act) : Work.Reduces act :=
  fun scene => (frames scene).reduces

open Work (Reduces)

namespace Work.Reduces

theorem bind {act : Work σ α} {next : α → Work σ β} (first : Reduces act)
    (second : ∀ a, Reduces (next a)) : Reduces (act >>= next) :=
  Action.related_bind Scene.Reduces Scene.Reduces.trans first second

end Work.Reduces

namespace Executor

variable {pipeline : Pipeline σ} (framed : pipeline.Framed)

theorem reduces_clearLocal : Reduces (clearLocal : Work σ Unit) := by
  intro scene
  rw [clearLocal_apply]
  cases ended : scene.executor.closed with
  | true =>
      simp only [if_true]
      exact .refl scene
  | false =>
      refine ⟨.refl _, fun _ => .inl rfl, List.nil_subset _, fun contrary => ?_⟩
      rw [ended] at contrary
      cases contrary

namespace Local

include framed in
theorem reduces_update (statement : MappedStatement) : Reduces (update pipeline statement) :=
  frames_ensureOpen.reduces.bind fun _ => reduces_clearLocal.bind fun _ =>
    (Strategy.frames_update framed statement).reduces

include framed in
theorem reduces_queryCursor (statement : MappedStatement) (parameter : Value)
    (bounds : RowBounds) : Reduces (queryCursor pipeline statement parameter bounds) :=
  (frames_ensureOpen.bind fun _ => (Frames.ofResult _).bind fun _ =>
    Strategy.frames_openCursor _ framed).reduces

end Local

namespace Shared

theorem reduces_flushIfRequired (statement : MappedStatement) :
    Reduces (flushIfRequired statement : Work σ Unit) := by
  intro scene
  cases cached : statement.cache with
  | none =>
      simp only [flushIfRequired, cached]
      exact .refl scene
  | some id =>
      rw [flushIfRequired_apply cached]
      dsimp only
      split
      · refine ⟨.refl _, fun other => ?_, List.Subset.refl _, fun ended => ended⟩
        rw [Staging.of_clear]
        split
        · exact .inr rfl
        · exact .inl rfl
      · exact .refl scene

include framed in
theorem reduces_update (statement : MappedStatement) : Reduces (update pipeline statement) :=
  (reduces_flushIfRequired statement).bind fun _ => Local.reduces_update framed statement

include framed in
theorem reduces_queryCursor (statement : MappedStatement) (parameter : Value)
    (bounds : RowBounds) : Reduces (queryCursor pipeline statement parameter bounds) :=
  (reduces_flushIfRequired statement).bind fun _ =>
    Local.reduces_queryCursor framed statement parameter bounds

end Shared

end Executor

def SharedCaches.CoveredAt (shared : SharedCaches) (id : String) (log : List Ran) : Prop :=
  ∀ cache, Fields.get? shared id = some cache → cache.entries.CoveredBy log

theorem SharedCaches.CoveredAt.of_sameEntries {before after : SharedCaches} {id : String}
    {log : List Ran} (covered : before.CoveredAt id log) (same : before.SameEntries after) :
    after.CoveredAt id log := by
  intro cache found
  have there := same id
  rw [found, Option.map_some, eq_comm, Option.map_eq_some_iff] at there
  obtain ⟨old, present, entries⟩ := there
  rw [← entries]
  exact covered old present

/-- The rows that a unit of work keeps are those of queries on record, and so are those that it sees
of a cache, if one is given; and those that the cache holds, once that is settled. -/
structure Scene.Renewed (cache? : Option String) (settled : Bool) (log : List Ran)
    (scene : Scene σ) : Prop where
  kept : Entries.CoveredBy scene.executor.localCache log
  staged : ∀ id ∈ cache?, Entries.CoveredBy (Staging.of scene.executor.staging id).entries log
  shown : ∀ id ∈ cache?, (Staging.of scene.executor.staging id).cleared = true ∨
    scene.shared.CoveredAt id log
  held : settled → ∀ id ∈ cache?, scene.shared.CoveredAt id log

namespace Scene.Renewed

variable {cache? : Option String} {settled : Bool} {log more : List Ran} {scene after : Scene σ}

theorem mono (renewed : scene.Renewed cache? settled log) (grows : log ⊆ more) :
    scene.Renewed cache? settled more where
  kept := renewed.kept.mono grows
  staged := fun id mem => (renewed.staged id mem).mono grows
  shown := fun id mem => (renewed.shown id mem).imp_right fun covered cache found =>
    (covered cache found).mono grows
  held := fun went id mem cache found => (renewed.held went id mem cache found).mono grows

theorem reduce (renewed : scene.Renewed cache? settled log) (reduced : scene.Reduces after) :
    after.Renewed cache? settled log where
  kept := fun entry mem => renewed.kept entry (reduced.localCache mem)
  staged := fun id mem => by
    rcases reduced.staging id with same | cleared
    · rw [same]
      exact renewed.staged id mem
    · rw [cleared]
      exact fun entry none => by cases none
  shown := fun id mem => by
    rcases reduced.staging id with same | cleared
    · rw [same]
      exact (renewed.shown id mem).imp_right (·.of_sameEntries reduced.shared)
    · exact .inl (by rw [cleared])
  held := fun went id mem => (renewed.held went id mem).of_sameEntries reduced.shared

theorem exists_ran_of_get? (renewed : scene.Renewed cache? settled log) {id : String}
    (mem : id ∈ cache?) {key : CacheKey} {hit : CachedValue}
    (found : (Staging.get? scene.executor.staging id key scene.shared).1 = some hit) :
    ∃ ran ∈ log, ran.key.Matches key ∧ ran.rows = hit.toRows := by
  have recorded {entries : Entries CachedValue} (covered : entries.CoveredBy log)
      (present : ∃ entry ∈ entries, entry.1.same key ∧ entry.2 = hit) :
      ∃ ran ∈ log, ran.key.Matches key ∧ ran.rows = hit.toRows := by
    obtain ⟨entry, member, equal, rfl⟩ := present
    obtain ⟨ran, among, matched, rows⟩ := covered entry member
    exact ⟨ran, among, matched.trans (.inr equal), by rw [rows]; rfl⟩
  unfold Staging.get? at found
  cases present : Fields.get? scene.shared id with
  | none => simp [present] at found
  | some cache =>
      simp only [present, StagedWrites.get?] at found
      split at found
      next value staged =>
        obtain rfl : value = hit := by simpa using found
        exact recorded (renewed.staged id mem) (Entries.mem_of_get? staged)
      next =>
        split at found
        next => cases found
        next uncleared =>
          have shown := (renewed.shown id mem).resolve_left uncleared
          exact recorded (shown cache present) (Cache.mem_of_get? found)

theorem put (renewed : scene.Renewed cache? settled log) {ran : Ran} (mem : ran ∈ log)
    {key : CacheKey} (matched : ran.key.Matches key) (own : String) :
    Scene.Renewed cache? settled log { scene with executor := { scene.executor with
      staging := Staging.put scene.executor.staging own key (.rows ran.rows) } } where
  kept := renewed.kept
  staged := fun id given => by
    rw [Staging.of_put]
    split
    next same =>
      subst same
      exact (renewed.staged own given).put mem matched
    next => exact renewed.staged id given
  shown := fun id given => by
    rw [Staging.of_put]
    split
    next same =>
      subst same
      exact renewed.shown own given
    next => exact renewed.shown id given
  held := renewed.held

end Scene.Renewed

namespace Executor

def keptRows (executor : Executor) : List Ran :=
  executor.localCache.map fun entry => ⟨entry.1, entry.2.toRows⟩

variable {pipeline : Pipeline σ} (framed : pipeline.Framed)

structure Renews (cache? : Option String) (settled : Bool) (key : CacheKey) (log : List Ran)
    (own : Option String) (result : Except Error (List Value)) (after : Scene σ) : Prop where
  renewed : after.Renewed cache? settled log
  recorded : (∀ id ∈ own, id ∈ cache?) → ∀ rows, result = .ok rows →
    ∃ ran ∈ log, ran.key.Matches key ∧ ran.rows = rows

variable {cache? : Option String} {settled : Bool} {log : List Ran} {scene : Scene σ}

include framed

theorem Local.renews_keyedQuery (statement : MappedStatement) (bounds : RowBounds) (key : CacheKey)
    (bound : BoundSql) (own : Option String) (renewed : scene.Renewed cache? settled log) :
    Renews cache? settled key
      (log ++ fetched (keeps statement key scene.executor) key
        (keyedQuery pipeline statement bounds key bound scene).1)
      own (keyedQuery pipeline statement bounds key bound scene).1
      (keyedQuery pipeline statement bounds key bound scene).2 := by
  have answered := answered_keyedQuery framed statement bounds key bound renewed.kept
  have before := renewed.mono (List.subset_append_left log
    (fetched (keeps statement key scene.executor) key
      (keyedQuery pipeline statement bounds key bound scene).1))
  refine ⟨⟨answered.kept, ?_, ?_, ?_⟩, fun _ => answered.recorded⟩
  · rw [answered.staging]
    exact before.staged
  · rw [answered.staging, answered.shared]
    exact before.shown
  · rw [answered.shared]
    exact before.held

namespace Shared

theorem renews_rowsFor (statement : MappedStatement) (bounds : RowBounds) (key : CacheKey)
    (bound : BoundSql) (id : String) (renewed : scene.Renewed cache? settled log) :
    Renews cache? settled key
      (log ++ Local.fetched
        ((Staging.get? scene.executor.staging id key scene.shared).1.isSome ||
          Local.keeps statement key scene.executor)
        key (rowsFor pipeline statement bounds key bound id scene).1)
      (some id) (rowsFor pipeline statement bounds key bound id scene).1
      (rowsFor pipeline statement bounds key bound id scene).2 := by
  have looked : scene.Reduces { scene with
      shared := (Staging.get? scene.executor.staging id key scene.shared).2 } :=
    ⟨Staging.sameEntries_get? _ _ _ _, fun _ => .inl rfl, List.Subset.refl _, fun ended => ended⟩
  cases found : (Staging.get? scene.executor.staging id key scene.shared).1 with
  | some hit =>
      rw [rowsFor_of_hit found]
      simp only [Option.isSome_some, Bool.true_or, Local.fetched, if_true, List.append_nil]
      refine ⟨renewed.reduce looked, fun among rows answered => ?_⟩
      obtain rfl : hit.toRows = rows := by simpa using answered
      exact renewed.exists_ran_of_get? (among id rfl) found
  | none =>
      have answered := Local.renews_keyedQuery framed statement bounds key bound none
        (renewed.reduce looked)
      rw [rowsFor_of_miss found]
      simp only [Action.bind_apply, Option.isSome_none, Bool.false_or]
      rcases done : Local.keyedQuery pipeline statement bounds key bound { scene with
          shared := (Staging.get? scene.executor.staging id key scene.shared).2 } with
        ⟨e | rows, after⟩ <;> rw [done] at answered
      · exact ⟨answered.renewed, fun _ => answered.recorded (by simp)⟩
      · obtain ⟨ran, member, matched, rfl⟩ := answered.recorded (by simp) rows rfl
        refine ⟨answered.renewed.put member matched id, fun _ rows returned => ?_⟩
        obtain rfl : ran.rows = rows := Except.ok.inj returned
        exact ⟨ran, member, matched, rfl⟩

theorem renews_keyedQuery (statement : MappedStatement) (bounds : RowBounds) (key : CacheKey)
    (bound : BoundSql) (renewed : scene.Renewed cache? settled log) :
    Renews cache? settled key
      (log ++ Local.fetched (hits statement key scene || Local.keeps statement key scene.executor)
        key (keyedQuery pipeline statement bounds key bound scene).1)
      statement.cache (keyedQuery pipeline statement bounds key bound scene).1
      (keyedQuery pipeline statement bounds key bound scene).2 := by
  have reduced := reduces_flushIfRequired statement scene
  rw [flushIfRequired_eq] at reduced
  have keeps := keeps_flushed statement key scene
  rcases keyedQuery_cases pipeline statement bounds key bound scene with
    ⟨e, -, refused⟩ | ⟨-, ⟨unseen, behind⟩ | ⟨id, own, seen, there⟩⟩
  · rw [refused]
    refine ⟨renewed.mono (List.subset_append_left log _), fun _ rows answered => ?_⟩
    cases answered
  · rw [behind, unseen, Bool.false_or, ← keeps]
    exact Local.renews_keyedQuery framed statement bounds key bound statement.cache
      (renewed.reduce reduced)
  · rw [there, seen, ← keeps, own]
    exact renews_rowsFor framed statement bounds key bound id (renewed.reduce reduced)

omit framed

variable {statement : MappedStatement} (flushes : statement.flushCache = true)
  (own : ∀ id ∈ cache?, statement.cache = some id)

include flushes

include framed own

end Shared

variable (direct : pipeline.Direct) (cached : pipeline.configuration.settings.cacheEnabled = true)
  {statement : MappedStatement} {parameter : Value} {bounds : RowBounds}

omit framed

include direct cached

theorem reduces_queryCursor (statement : MappedStatement) (parameter : Value)
    (bounds : RowBounds) : Reduces (queryCursor pipeline statement parameter bounds) := by
  rw [queryCursor_eq direct cached]
  exact Shared.reduces_queryCursor direct.framed statement parameter bounds

end Executor

end MappedSql
