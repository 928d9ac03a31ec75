import MappedSql.Proofs.Execution.Provenance
import MappedSql.Proofs.Execution.Ways

namespace MappedSql

variable {σ α β : Type}

open Standing (baseOf viewOf updatesOf)
open Work (Ensures)

namespace Pipeline

def Right (pipeline : Pipeline σ) (data : Data) (among : MappedStatement → Prop)
    (entry : CacheKey × CachedValue) : Prop :=
  ∀ handler key, pipeline.Asks handler key → among handler.statement → entry.1.same key →
    pipeline.answer data handler = .ok entry.2.toRows

/-- Every entry of every shared cache is right for the statements that use the cache. -/
def Fresh (pipeline : Pipeline σ) (data : Data) (shared : SharedCaches) : Prop :=
  ∀ id cache, Fields.get? shared id = some cache → ∀ entry ∈ cache.entries,
    pipeline.Right data (·.cache = some id) entry

def Affects (pipeline : Pipeline σ) (picture : Picture σ) (sql : String) (id : String) : Prop :=
  ∃ handler, pipeline.Invokes handler ∧ handler.statement.cache = some id ∧
    picture.changes sql (handler.request pipeline)

variable {pipeline : Pipeline σ} {data : Data} {among : MappedStatement → Prop}

theorem Right.of_matches {entry other : CacheKey × CachedValue}
    (right : pipeline.Right data among entry) (matched : entry.1.Matches other.1)
    (same : other.2 = entry.2) : pipeline.Right data among other := by
  intro handler key asks member found
  rw [same]
  apply right handler key asks member
  rcases matched with equal | equal
  · rw [equal]
    exact found
  · exact CacheKey.same_trans equal found

theorem Right.congr {other : Data} {entry : CacheKey × CachedValue}
    (right : pipeline.Right data among entry)
    (agree : ∀ handler, pipeline.Invokes handler → among handler.statement →
      other (handler.request pipeline) = data (handler.request pipeline)) :
    pipeline.Right other among entry := by
  intro handler key asks member found
  unfold Pipeline.answer
  rw [agree handler asks.invokes member]
  exact right handler key asks member found

theorem Right.of_answer {picture : Picture σ} (regular : pipeline.Regular picture)
    (arises : picture.Arises data) {handler : Handler} {key : CacheKey}
    (asks : pipeline.Asks handler key) {rows : List Value}
    (answer : pipeline.answer data handler = .ok rows) :
    pipeline.Right data among (key, .rows rows) := by
  intro other key' asks' _ found
  rw [← regular.faithful handler other key key' asks asks' found data arises]
  exact answer

theorem Fresh.of_sameEntries {before after : SharedCaches} (fresh : pipeline.Fresh data before)
    (same : before.SameEntries after) : pipeline.Fresh data after := by
  intro id cache found entry mem
  have entries := same id
  rw [found, Option.map_some] at entries
  obtain ⟨cache', found', equal⟩ := Option.map_eq_some_iff.1 entries.symm
  rw [← equal] at mem
  exact fresh id cache' found' entry mem

theorem Fresh.publish {later : Data} {shared : SharedCaches} {staging : Staging}
    (drain : DrainOrder) (fresh : pipeline.Fresh data shared)
    (stays : ∀ id, (Staging.of staging id).cleared = false → ∀ handler, pipeline.Invokes handler →
      handler.statement.cache = some id →
        later (handler.request pipeline) = data (handler.request pipeline))
    (staged : ∀ id, ∀ entry ∈ (Staging.of staging id).entries,
      pipeline.Right later (·.cache = some id) entry) :
    pipeline.Fresh later (Staging.publish staging shared drain) := by
  intro id cache found entry mem
  rw [Staging.get?_publish, Option.map_eq_some_iff] at found
  obtain ⟨before, present, rfl⟩ := found
  rcases StagedWrites.of_mem_publish mem with ⟨uncleared, held⟩ | ⟨write, member, matched, same⟩
  · exact (fresh id before present entry held).congr (stays id uncleared)
  · exact (staged id write ((drain.perm id _).mem_iff.1 member)).of_matches matched same

end Pipeline

namespace Scene

variable (picture : Picture σ) (pipeline : Pipeline σ)

structure Coherent (queued : String → Prop) (scene : Scene σ) : Prop where
  tidy : scene.Tidy picture pipeline queued
  ended : scene.executor.closed → scene.connection = none
  kept : ∀ entry ∈ scene.executor.localCache, ∃ standing, scene.standing picture = some standing ∧
    pipeline.Right standing.view (fun _ => True) entry
  staged : ∀ id, ∀ entry ∈ (Staging.of scene.executor.staging id).entries,
    ∃ standing, scene.standing picture = some standing ∧
      pipeline.Right standing.view (·.cache = some id) entry
  apart : ∀ sql, queued sql → scene.executor.localCache = []
  cleared : ∀ sql id, pipeline.Affects picture sql id →
    sql ∈ updatesOf (scene.standing picture) ∨ queued sql →
      (Staging.of scene.executor.staging id).cleared
  emptied : ∀ sql id, pipeline.Affects picture sql id → queued sql →
    (Staging.of scene.executor.staging id).entries = []

/-- Where rows are staged, the transaction began with the data that are committed still, or with data
that answer the same to the queries of the cache, which no update of the transaction has changed. -/
def Current (scene : Scene σ) : Prop :=
  ∀ id, (Staging.of scene.executor.staging id).entries ≠ [] →
    baseOf (picture.committed scene.source) (scene.standing picture) =
        picture.committed scene.source ∨
      ∀ handler, pipeline.Invokes handler → handler.statement.cache = some id →
        (∀ sql ∈ updatesOf (scene.standing picture),
          ¬picture.changes sql (handler.request pipeline)) ∧
        baseOf (picture.committed scene.source) (scene.standing picture) (handler.request pipeline) =
          picture.committed scene.source (handler.request pipeline)

def Idle (queued : String → Prop) (scene : Scene σ) : Prop :=
  updatesOf (scene.standing picture) = [] ∧ ∀ sql, ¬queued sql

variable {picture pipeline} {queued : String → Prop}

theorem Coherent.narrow {scene : Scene σ} (coherent : scene.Coherent picture pipeline queued)
    {fewer : String → Prop} (tidy : scene.Tidy picture pipeline fewer)
    (known : ∀ sql, fewer sql → queued sql) : scene.Coherent picture pipeline fewer where
  tidy := tidy
  ended := coherent.ended
  kept := coherent.kept
  staged := coherent.staged
  apart := fun sql waits => coherent.apart sql (known sql waits)
  cleared := fun sql id affects source => coherent.cleared sql id affects (source.imp_right (known sql))
  emptied := fun sql id affects waits => coherent.emptied sql id affects (known sql waits)

theorem Coherent.advance {before after : Scene σ}
    (coherent : before.Coherent picture pipeline queued) (isOpen : before.executor.closed = false)
    {runs later : String → Prop} (step : before.Step picture runs after)
    (same : before.SameCaches after) (tidy : after.Tidy picture pipeline later)
    (forgot : ∀ sql, runs sql ∨ later sql → before.executor.localCache = [])
    (safe : ∀ sql id, pipeline.Affects picture sql id → runs sql ∨ later sql →
      (Staging.of before.executor.staging id).cleared ∧
        (Staging.of before.executor.staging id).entries = []) :
    after.Coherent picture pipeline later := by
  -- what a step does not run, it leaves the view of; what it runs has been forgotten before
  have view {standing : Standing} (begun : before.standing picture = some standing) :
      ∃ standing', after.standing picture = some standing' ∧
        ∀ request, (∀ sql, runs sql → ¬picture.changes sql request) →
          standing'.view request = standing.view request := by
    have advances := step.advances
    rw [begun] at advances
    cases left : after.standing picture with
    | none => cases advances.begun left
    | some standing' =>
        rw [left] at advances
        exact ⟨standing', rfl, advances.view⟩
  refine ⟨tidy, fun ended => ?_, fun entry mem => ?_, fun id entry mem => ?_, fun sql waits => ?_,
    fun sql id affects source => ?_, fun sql id affects waits => ?_⟩
  · rw [same.closed, isOpen] at ended
    cases ended
  · rw [same.localCache] at mem
    obtain ⟨standing, begun, right⟩ := coherent.kept entry mem
    obtain ⟨standing', left, agree⟩ := view begun
    refine ⟨standing', left, right.congr fun handler _ _ => agree _ fun sql ran _ => ?_⟩
    rw [forgot sql (.inl ran)] at mem
    cases mem
  · rw [same.staging] at mem
    obtain ⟨standing, begun, right⟩ := coherent.staged id entry mem
    obtain ⟨standing', left, agree⟩ := view begun
    refine ⟨standing', left, right.congr fun handler invokes used => agree _ fun sql ran changes => ?_⟩
    rw [(safe sql id ⟨handler, invokes, used, changes⟩ (.inl ran)).2] at mem
    cases mem
  · rw [same.localCache]
    exact forgot sql (.inr waits)
  · rw [same.staging]
    rcases source with ran | waits
    · rcases step.advances.updates sql ran with before | now
      · exact coherent.cleared sql id affects (.inl before)
      · exact (safe sql id affects (.inl now)).1
    · exact (safe sql id affects (.inr waits)).1
  · rw [same.staging]
    exact (safe sql id affects (.inr waits)).2

theorem Tidy.of_same {before after : Scene σ} (tidy : before.Tidy picture pipeline queued)
    (source : after.source = before.source)
    (strategy : after.executor.strategy = before.executor.strategy)
    (transaction : after.executor.transaction = before.executor.transaction) :
    after.Tidy picture pipeline queued := by
  obtain ⟨way, sound, owns⟩ := tidy
  have connection : after.connection = before.connection := congrArg Transaction.connection transaction
  refine ⟨way, sound, strategy.trans owns.strategy, ?_, ?_, ?_, owns.distinct⟩
  · rw [transaction]
    exact owns.manual
  · rw [connection, source]
    exact owns.isOpen
  · rw [connection, source]
    exact owns.linked

/-- Keeping and staging right rows while nothing is queued, forgetting rows, and clearing caches leave
a unit of work coherent. -/
theorem Coherent.recached {before after : Scene σ}
    (coherent : before.Coherent picture pipeline queued) (source : after.source = before.source)
    (strategy : after.executor.strategy = before.executor.strategy)
    (transaction : after.executor.transaction = before.executor.transaction)
    (closed : after.executor.closed = before.executor.closed)
    (kept : ∀ entry ∈ after.executor.localCache, entry ∈ before.executor.localCache ∨
      (∀ sql, ¬queued sql) ∧ ∃ standing, before.standing picture = some standing ∧
        pipeline.Right standing.view (fun _ => True) entry)
    (staged : ∀ id, ∀ entry ∈ (Staging.of after.executor.staging id).entries,
      entry ∈ (Staging.of before.executor.staging id).entries ∨
        (∀ sql, ¬queued sql) ∧ ∃ standing, before.standing picture = some standing ∧
          pipeline.Right standing.view (·.cache = some id) entry)
    (cleared : ∀ id, (Staging.of before.executor.staging id).cleared →
      (Staging.of after.executor.staging id).cleared) :
    after.Coherent picture pipeline queued := by
  have connection : after.connection = before.connection := congrArg Transaction.connection transaction
  have standing : after.standing picture = before.standing picture := by
    rw [Scene.standing, Scene.standing, connection, source]
  refine ⟨coherent.tidy.of_same source strategy transaction, fun ended => ?_, fun entry mem => ?_,
    fun id entry mem => ?_, fun sql waits => ?_, fun sql id affects ran => ?_,
    fun sql id affects waits => ?_⟩
  · rw [connection]
    exact coherent.ended (closed ▸ ended)
  · rw [standing]
    rcases kept entry mem with before | ⟨-, right⟩
    · exact coherent.kept entry before
    · exact right
  · rw [standing]
    rcases staged id entry mem with before | ⟨-, right⟩
    · exact coherent.staged id entry before
    · exact right
  · apply List.eq_nil_iff_forall_not_mem.2
    intro entry mem
    rcases kept entry mem with before | ⟨idle, -⟩
    · rw [coherent.apart sql waits] at before
      cases before
    · exact idle sql waits
  · rw [standing] at ran
    exact cleared id (coherent.cleared sql id affects ran)
  · apply List.eq_nil_iff_forall_not_mem.2
    intro entry mem
    rcases staged id entry mem with before | ⟨idle, -⟩
    · rw [coherent.emptied sql id affects waits] at before
      cases before
    · exact idle sql waits

variable (picture)

structure Withholds (before after : Scene σ) : Prop where
  spares : before.Spares picture after
  committed : picture.committed after.source = picture.committed before.source
  entries : before.shared.SameEntries after.shared

variable {picture}

theorem Withholds.refl (scene : Scene σ) : scene.Withholds picture scene :=
  ⟨.refl scene, rfl, .refl _⟩

theorem Withholds.trans {first second third : Scene σ} (left : first.Withholds picture second)
    (right : second.Withholds picture third) : first.Withholds picture third :=
  ⟨left.spares.trans right.spares, right.committed.trans left.committed,
    left.entries.trans right.entries⟩

theorem Step.withholds {runs : String → Prop} {before after : Scene σ}
    (step : before.Step picture runs after) (shared : after.shared = before.shared) :
    before.Withholds picture after :=
  ⟨step.spares, step.committed, by rw [shared]; exact .refl _⟩

theorem Withholds.of_same {before after : Scene σ} (source : after.source = before.source)
    (connection : after.connection = before.connection)
    (entries : before.shared.SameEntries after.shared) : before.Withholds picture after :=
  ⟨(Step.of_same source connection (fun _ => False)).spares, by rw [source], entries⟩

variable (picture pipeline)

/-- A call that publishes nothing, and left a unit of work coherent after it ran or queued at most the
given SQL. -/
structure Continues (may : String → Prop) (before after : Scene σ) : Prop where
  withholds : before.Withholds picture after
  coherent : ∃ later, (∀ sql, later sql → may sql) ∧ after.Coherent picture pipeline later
  updates : ∀ sql ∈ updatesOf (after.standing picture),
    sql ∈ updatesOf (before.standing picture) ∨ may sql

variable {picture pipeline} {may : String → Prop}

theorem Continues.refl {scene : Scene σ} (coherent : scene.Coherent picture pipeline queued)
    (known : ∀ sql, queued sql → may sql) : scene.Continues picture pipeline may scene :=
  ⟨.refl scene, ⟨queued, known, coherent⟩, fun _ => .inl⟩

theorem Continues.trans {first second third : Scene σ}
    (left : first.Continues picture pipeline may second)
    (right : second.Continues picture pipeline may third) :
    first.Continues picture pipeline may third :=
  ⟨left.withholds.trans right.withholds, right.coherent,
    fun sql mem => (right.updates sql mem).elim (left.updates sql) .inr⟩

theorem Continues.of_same {before after : Scene σ} (source : after.source = before.source)
    (connection : after.connection = before.connection)
    (entries : before.shared.SameEntries after.shared)
    (coherent : after.Coherent picture pipeline queued) (known : ∀ sql, queued sql → may sql) :
    before.Continues picture pipeline may after := by
  refine ⟨.of_same source connection entries, ⟨queued, known, coherent⟩, fun sql mem => .inl ?_⟩
  rw [standing, source, connection] at mem
  exact mem

theorem Continues.of_step {runs later : String → Prop} {before after : Scene σ}
    (step : before.Step picture runs after) (shared : after.shared = before.shared)
    (coherent : after.Coherent picture pipeline later) (ran : ∀ sql, runs sql → may sql)
    (known : ∀ sql, later sql → may sql) : before.Continues picture pipeline may after :=
  ⟨step.withholds shared, ⟨later, known, coherent⟩,
    fun sql mem => (step.advances.updates sql mem).imp_right (ran sql)⟩

theorem Coherent.forget {scene : Scene σ} (coherent : scene.Coherent picture pipeline queued) :
    scene.forget.Coherent picture pipeline queued :=
  coherent.recached (by rfl) (by rfl) (by rfl) (by rfl) (fun _ mem => by cases mem)
    (fun _ _ mem => .inl mem) fun _ => id

theorem Continues.forget {scene : Scene σ} (coherent : scene.Coherent picture pipeline queued)
    (known : ∀ sql, queued sql → may sql) :
    scene.Continues picture pipeline may scene.forget :=
  .of_same (by rfl) (by rfl) (.refl _) coherent.forget known

end Scene

namespace Executor

variable {picture : Picture σ} {pipeline : Pipeline σ} (regular : pipeline.Regular picture)
  {queued : String → Prop} {statement : MappedStatement} {bounds : RowBounds} {key : CacheKey}
  {bound : BoundSql}

namespace Local

theorem clearLocal_eq (scene : Scene σ) :
    (clearLocal scene).2 = if scene.executor.closed then scene else scene.forget := by
  rw [clearLocal_apply]
  split <;> rfl

theorem coherent_clearLocal {scene : Scene σ} (coherent : scene.Coherent picture pipeline queued) :
    (clearLocal scene).2.Coherent picture pipeline queued := by
  rw [clearLocal_eq]
  split
  · exact coherent
  · exact coherent.forget

/-- A query left a unit of work coherent, and its rows are those that the data which the transaction
sees answer with. -/
structure Tells (picture : Picture σ) (pipeline : Pipeline σ) (handler : Handler)
    (queued : String → Prop) (before after : Scene σ) (result : Except Error (List Value)) : Prop where
  continues : before.Continues picture pipeline queued after
  staging : after.executor.staging = before.executor.staging
  answered : ∀ rows, result = .ok rows → after.Answered picture pipeline handler rows ∧
    after.Coherent picture pipeline (fun _ => False)

include regular in
theorem tells_rowsFor {scene : Scene σ} (coherent : scene.Coherent picture pipeline queued)
    (isOpen : scene.executor.closed = false) (asks : pipeline.Asks ⟨statement, bound, bounds⟩ key) :
    Tells picture pipeline ⟨statement, bound, bounds⟩ queued scene
      (rowsFor pipeline statement bounds key bound scene).2
      (rowsFor pipeline statement bounds key bound scene).1 := by
  cases found : Entries.get? scene.executor.localCache key with
  | some cached =>
      obtain ⟨entry, mem, equal, same⟩ := Entries.mem_of_get? found
      obtain ⟨standing, begun, right⟩ := coherent.kept entry mem
      -- rows are kept only while nothing is queued
      have idle (sql : String) : ¬queued sql := by
        intro waits
        rw [coherent.apart sql waits] at mem
        cases mem
      rw [rowsFor_of_kept found]
      refine ⟨.refl coherent fun _ => id, rfl, ?_⟩
      rintro _ ⟨⟩
      refine ⟨⟨standing, begun, same ▸ right _ key asks trivial equal⟩, coherent.narrow ?_ ?_⟩
      · exact coherent.tidy.mono fun sql waits => idle sql waits
      · exact fun _ no => no.elim
  | none =>
      obtain ⟨step, done, failed⟩ := ensures_runQuery regular asks.invokes scene coherent.tidy
      have frames := Strategy.frames_query ⟨statement, bound, bounds⟩ regular.plain.framed scene
      have safe (sql : String) (id : String) (affects : pipeline.Affects picture sql id)
          (ran : queued sql ∨ False) :
          (Staging.of scene.executor.staging id).cleared ∧
            (Staging.of scene.executor.staging id).entries = [] :=
        ran.elim (fun waits => ⟨coherent.cleared sql id affects (.inr waits),
          coherent.emptied sql id affects waits⟩) False.elim
      have forgot (sql : String) (ran : queued sql ∨ False) : scene.executor.localCache = [] :=
        ran.elim (coherent.apart sql) False.elim
      rcases went : Strategy.query pipeline ⟨statement, bound, bounds⟩ scene with ⟨e | rows, after⟩ <;>
        rw [went] at step done failed frames
      · rw [rowsFor_of_failed found went]
        have advanced := coherent.advance isOpen step frames (failed e rfl) forgot safe
        exact ⟨.of_step step frames.shared advanced (fun _ => id) fun _ no => no.elim,
          frames.staging, by rintro _ ⟨⟩⟩
      · obtain ⟨tidy, answered⟩ := done rows rfl
        have advanced := coherent.advance isOpen step frames tidy forgot safe
        rw [rowsFor_of_fetched found went]
        -- the rows that were fetched join those kept, and are right by what the data source answered
        have coherent' : Scene.Coherent picture pipeline (fun _ => False) { after with executor :=
            { after.executor with
              localCache := Entries.put after.executor.localCache key (.rows rows) } } := by
          refine advanced.recached (by rfl) (by rfl) (by rfl) (by rfl) ?_ (fun _ _ mem => .inl mem)
            fun _ => id
          intro entry mem
          rcases Entries.of_mem_put mem with before | ⟨matched, same⟩
          · exact .inl before
          · obtain ⟨standing, begun, answer⟩ := answered
            refine .inr ⟨fun _ => id, standing, begun, ?_⟩
            exact (Pipeline.Right.of_answer regular (Scene.arises begun) asks answer).of_matches matched
              same
        refine ⟨(Scene.Continues.of_step step frames.shared advanced (fun _ => id) fun _ no =>
          no.elim).trans (.of_same (by rfl) (by rfl) (.refl _) coherent' fun _ no => no.elim),
          frames.staging, ?_⟩
        rintro _ ⟨⟩
        exact ⟨answered, coherent'⟩

theorem coherent_opened {scene : Scene σ} (coherent : scene.Coherent picture pipeline queued)
    (statement : MappedStatement) : (opened statement scene).Coherent picture pipeline queued := by
  unfold opened
  split
  · exact coherent.forget
  · exact coherent

theorem Tells.clearLocal {handler : Handler} {before after : Scene σ}
    {result : Except Error (List Value)}
    (tells : Tells picture pipeline handler queued before after result) :
    Tells picture pipeline handler queued before (Executor.clearLocal after).2 result := by
  obtain ⟨later, known, coherent⟩ := tells.continues.coherent
  have executor : (Executor.clearLocal after).2.executor.transaction = after.executor.transaction ∧
      (Executor.clearLocal after).2.executor.staging = after.executor.staging := by
    rw [clearLocal_apply]
    dsimp only
    split <;> exact ⟨rfl, rfl⟩
  have connection : (Executor.clearLocal after).2.connection = after.connection :=
    congrArg Transaction.connection executor.1
  refine ⟨tells.continues.trans (.of_same (by rfl) connection (.refl _)
    (coherent_clearLocal coherent) known), executor.2.trans tells.staging, fun rows done => ?_⟩
  obtain ⟨⟨standing, begun, answer⟩, coherent'⟩ := tells.answered rows done
  refine ⟨⟨standing, ?_, answer⟩, coherent_clearLocal coherent'⟩
  rw [Scene.standing, connection]
  exact begun

include regular in
theorem tells_keyedQuery {scene : Scene σ} (coherent : scene.Coherent picture pipeline queued)
    (asks : pipeline.Asks ⟨statement, bound, bounds⟩ key) :
    Tells picture pipeline ⟨statement, bound, bounds⟩ queued scene
      (keyedQuery pipeline statement bounds key bound scene).2
      (keyedQuery pipeline statement bounds key bound scene).1 := by
  cases ended : scene.executor.closed with
  | true =>
      have refused : keyedQuery pipeline statement bounds key bound scene =
          (.error (.of (.closed "Executor was closed.")), scene) := by
        simp only [keyedQuery, Action.bind_apply, ensureOpen_of_closed ended]
      rw [refused]
      exact ⟨.refl coherent fun _ => id, rfl, by rintro _ ⟨⟩⟩
  | false =>
      have same : (opened statement scene).source = scene.source ∧
          (opened statement scene).connection = scene.connection ∧
          (opened statement scene).shared = scene.shared ∧
          (opened statement scene).executor.staging = scene.executor.staging ∧
          (opened statement scene).executor.closed = false := by
        unfold opened
        split <;> exact ⟨rfl, rfl, rfl, rfl, ended⟩
      obtain ⟨source, connection, shared, staging, isOpen⟩ := same
      have openedCoherent := coherent_opened coherent statement
      have told := tells_rowsFor regular openedCoherent isOpen asks
      have told' : Tells picture pipeline ⟨statement, bound, bounds⟩ queued scene
          (rowsFor pipeline statement bounds key bound (opened statement scene)).2
          (rowsFor pipeline statement bounds key bound (opened statement scene)).1 := by
        have first : scene.Continues picture pipeline queued (opened statement scene) :=
          .of_same source connection (by rw [shared]; exact .refl _) openedCoherent fun _ => id
        exact ⟨first.trans told.continues, told.staging.trans staging, told.answered⟩
      rw [keyedQuery_of_open ended]
      split
      · exact told'.clearLocal
      · exact told'

end Local

namespace Shared

structure Clears (picture : Picture σ) (pipeline : Pipeline σ) (queued : String → Prop)
    (statement : MappedStatement) (before after : Scene σ) : Prop where
  coherent : after.Coherent picture pipeline queued
  source : after.source = before.source
  connection : after.connection = before.connection
  shared : after.shared = before.shared
  closed : after.executor.closed = before.executor.closed
  cleared : ∀ id, statement.cache = some id → statement.flushCache →
    Staging.of after.executor.staging id = ⟨true, []⟩

theorem Clears.continues {before after : Scene σ}
    (clears : Clears picture pipeline queued statement before after) :
    before.Continues picture pipeline queued after :=
  .of_same clears.source clears.connection (by rw [clears.shared]; exact .refl _) clears.coherent
    fun _ => id

theorem clears_flushIfRequired {scene : Scene σ} (coherent : scene.Coherent picture pipeline queued)
    (statement : MappedStatement) :
    ∃ after, flushIfRequired statement scene = (.ok (), after) ∧
      Clears picture pipeline queued statement scene after := by
  cases cached : statement.cache with
  | none =>
      refine ⟨scene, ?_, coherent, rfl, rfl, rfl, rfl, ?_⟩
      · simp only [flushIfRequired, cached]
        rfl
      · rintro id used
        rw [cached] at used
        cases used
  | some id =>
      refine ⟨_, flushIfRequired_apply cached scene, ?_⟩
      cases flush : statement.flushCache with
      | false =>
          refine ⟨coherent, rfl, rfl, rfl, rfl, ?_⟩
          rintro _ _ flushes
          rw [flush] at flushes
          cases flushes
      | true =>
          simp only [if_true]
          refine ⟨?_, rfl, rfl, rfl, rfl, ?_⟩
          · refine coherent.recached (by rfl) (by rfl) (by rfl) (by rfl) (fun _ mem => .inl mem) ?_ ?_
            · intro other entry mem
              rw [Staging.of_clear] at mem
              split at mem
              · cases mem
              · exact .inl mem
            · intro other cleared
              rw [Staging.of_clear]
              split
              · rfl
              · exact cleared
          · intro other used _
            rw [cached, Option.some.injEq] at used
            rw [Staging.of_clear, if_pos used]

include regular in
theorem continues_rowsFor {cache : String} {scene : Scene σ}
    (coherent : scene.Coherent picture pipeline queued)
    (asks : pipeline.Asks ⟨statement, bound, bounds⟩ key) :
    scene.Continues picture pipeline queued
      (rowsFor pipeline statement bounds key bound cache scene).2 := by
  have entries := Staging.sameEntries_get? scene.executor.staging cache key scene.shared
  have looked : Scene.Coherent picture pipeline queued { scene with
      shared := (Staging.get? scene.executor.staging cache key scene.shared).2 } :=
    coherent.recached (by rfl) (by rfl) (by rfl) (by rfl) (fun _ mem => .inl mem)
      (fun _ _ mem => .inl mem) fun _ => id
  have first : scene.Continues picture pipeline queued { scene with
      shared := (Staging.get? scene.executor.staging cache key scene.shared).2 } :=
    .of_same (by rfl) (by rfl) entries looked fun _ => id
  cases found : (Staging.get? scene.executor.staging cache key scene.shared).1 with
  | some hit =>
      rw [rowsFor_of_hit found]
      exact first
  | none =>
      have told := Local.tells_keyedQuery regular looked asks
      rw [rowsFor_of_miss found, Action.bind_apply]
      rcases went : Local.keyedQuery pipeline statement bounds key bound { scene with
          shared := (Staging.get? scene.executor.staging cache key scene.shared).2 } with
        ⟨e | rows, after⟩ <;> rw [went] at told
      · exact first.trans told.continues
      · obtain ⟨⟨standing, begun, answer⟩, idle⟩ := told.answered rows rfl
        -- the miss asked the data source, so what is staged for it now is what it answered
        have right := @Pipeline.Right.of_answer σ pipeline standing.view (·.cache = some cache) picture
          regular (Scene.arises begun) _ key asks rows answer
        have staged : Scene.Coherent picture pipeline (fun _ => False) { after with executor :=
            { after.executor with
              staging := Staging.put after.executor.staging cache key (.rows rows) } } := by
          refine idle.recached (by rfl) (by rfl) (by rfl) (by rfl) (fun _ mem => .inl mem) ?_ ?_
          · intro other entry mem
            dsimp only at mem
            rw [Staging.of_put] at mem
            split at mem
            next same =>
                subst same
                rcases Entries.of_mem_put mem with before | ⟨matched, same⟩
                · exact .inl before
                · exact .inr ⟨fun _ => id, standing, begun, right.of_matches matched same⟩
            next => exact .inl mem
          · intro other cleared
            dsimp only
            rw [Staging.of_put]
            split
            next same =>
                subst same
                exact cleared
            next => exact cleared
        exact (first.trans told.continues).trans
          (.of_same (by rfl) (by rfl) (.refl _) staged fun _ no => no.elim)

include regular in
theorem continues_keyedQuery {scene : Scene σ} (coherent : scene.Coherent picture pipeline queued)
    (asks : pipeline.Asks ⟨statement, bound, bounds⟩ key) :
    scene.Continues picture pipeline queued
      (keyedQuery pipeline statement bounds key bound scene).2 := by
  unfold keyedQuery
  cases cached : statement.cache with
  | none => exact (Local.tells_keyedQuery regular coherent asks).continues
  | some cache =>
      obtain ⟨flushed, flushing, clears⟩ := clears_flushIfRequired coherent statement
      cases used : statement.useCache with
      | false =>
          simp only [Bool.false_eq_true, if_false, Action.bind_apply, flushing]
          exact clears.continues.trans (Local.tells_keyedQuery regular clears.coherent asks).continues
      | true =>
          simp only [if_true, Action.bind_apply, Work.lift_apply]
          cases ensureNoOutputs statement bound with
          | error e => exact .refl coherent fun _ => id
          | ok =>
              simp only [flushing]
              exact clears.continues.trans (continues_rowsFor regular clears.coherent asks)

end Shared

omit regular in
theorem safe_queued {scene : Scene σ} (coherent : scene.Coherent picture pipeline queued)
    (sql id : String) (affects : pipeline.Affects picture sql id) (ran : queued sql ∨ False) :
    (Staging.of scene.executor.staging id).cleared ∧
      (Staging.of scene.executor.staging id).entries = [] :=
  ran.elim (fun waits => ⟨coherent.cleared sql id affects (.inr waits),
    coherent.emptied sql id affects waits⟩) False.elim

omit regular in
theorem forgot_queued {scene : Scene σ} (coherent : scene.Coherent picture pipeline queued)
    (sql : String) (ran : queued sql ∨ False) : scene.executor.localCache = [] :=
  ran.elim (coherent.apart sql) False.elim

include regular

theorem Shared.continues_update (known : ∃ id, pipeline.configuration.statement id = .ok statement)
    {scene : Scene σ} (coherent : scene.Coherent picture pipeline queued) :
    scene.Continues picture pipeline (fun sql => queued sql ∨ pipeline.Sends statement sql)
      (Shared.update pipeline statement scene).2 := by
  obtain ⟨flushed, flushing, clears⟩ := Shared.clears_flushIfRequired coherent statement
  have first : scene.Continues picture pipeline
      (fun sql => queued sql ∨ pipeline.Sends statement sql) flushed :=
    .of_same clears.source clears.connection (by rw [clears.shared]; exact .refl _) clears.coherent
      fun _ => .inl
  have unfolded : Shared.update pipeline statement scene =
      Local.update pipeline statement flushed := by
    simp only [Shared.update, Action.bind_apply, flushing]
  rw [unfolded]
  apply first.trans
  cases ended : flushed.executor.closed with
  | true =>
      rw [Local.update_of_closed ended statement]
      exact .refl clears.coherent fun _ => .inl
  | false =>
      rw [Local.update_of_open ended statement]
      apply (Scene.Continues.forget clears.coherent fun _ => .inl).trans
      obtain ⟨step, done, failed⟩ :=
        ensures_runUpdate regular known flushed.forget clears.coherent.forget.tidy
      have frames := Strategy.frames_update regular.plain.framed statement flushed.forget
      have tidy : (Strategy.update pipeline statement flushed.forget).2.Tidy picture pipeline
          (fun sql => queued sql ∨ pipeline.Sends statement sql) := by
        cases went : (Strategy.update pipeline statement flushed.forget).1 with
        | error e => exact failed e went
        | ok count => exact done count went
      have advanced := clears.coherent.forget.advance ended step frames tidy (fun _ _ => rfl) ?_
      · exact .of_step step frames.shared advanced (fun _ => .inr) fun _ => id
      · intro sql id affects ran
        have sent (sends : pipeline.Sends statement sql) :
            (Staging.of flushed.executor.staging id).cleared ∧
              (Staging.of flushed.executor.staging id).entries = [] := by
          obtain ⟨update, invokes, rfl, rfl⟩ := sends
          obtain ⟨query, asked, used, changes⟩ := affects
          obtain ⟨bound, flushes⟩ := regular.flushes update query id invokes asked used changes
          rw [clears.cleared id bound flushes]
          exact ⟨rfl, rfl⟩
        rcases ran with sends | waits | sends
        · exact sent sends
        · exact safe_queued clears.coherent sql id affects (.inl waits)
        · exact sent sends

theorem Shared.continues_queryCursor
    (known : ∃ id, pipeline.configuration.statement id = .ok statement) (parameter : Value)
    {scene : Scene σ} (coherent : scene.Coherent picture pipeline queued) :
    scene.Continues picture pipeline queued
        (Shared.queryCursor pipeline statement parameter bounds scene).2 ∧
      ∀ cursor, (Shared.queryCursor pipeline statement parameter bounds scene).1 = .ok cursor →
        (Shared.queryCursor pipeline statement parameter bounds scene).2.Hands picture pipeline cursor ∧
          (Shared.queryCursor pipeline statement parameter bounds scene).2.Coherent picture pipeline
            (fun _ => False) := by
  obtain ⟨flushed, flushing, clears⟩ := Shared.clears_flushIfRequired coherent statement
  have unfolded : Shared.queryCursor pipeline statement parameter bounds scene =
      Local.queryCursor pipeline statement parameter bounds flushed := by
    simp only [Shared.queryCursor, Action.bind_apply, flushing]
  rw [unfolded]
  cases ended : flushed.executor.closed with
  | true =>
      have refused : Local.queryCursor pipeline statement parameter bounds flushed =
          (.error (.of (.closed "Executor was closed.")), flushed) := by
        simp only [Local.queryCursor, Action.bind_apply, ensureOpen_of_closed ended]
      rw [refused]
      exact ⟨clears.continues, by rintro _ ⟨⟩⟩
  | false =>
      cases bounded : statement.boundSql parameter pipeline.setting with
      | error e =>
          have refused : Local.queryCursor pipeline statement parameter bounds flushed =
              (.error e, flushed) := by
            simp only [Local.queryCursor, Action.bind_apply, ensureOpen_of_open ended, bounded,
              Work.lift_apply]
          rw [refused]
          exact ⟨clears.continues, by rintro _ ⟨⟩⟩
      | ok bound =>
          have opening : Local.queryCursor pipeline statement parameter bounds flushed =
              Strategy.openCursor pipeline ⟨statement, bound, bounds⟩ flushed := by
            simp only [Local.queryCursor, Action.bind_apply, ensureOpen_of_open ended, bounded,
              Work.lift_apply]
          rw [opening]
          have invokes : pipeline.Invokes ⟨statement, bound, bounds⟩ := ⟨known, parameter, bounded⟩
          obtain ⟨step, done, failed⟩ := ensures_runCursor regular invokes flushed clears.coherent.tidy
          have frames := Strategy.frames_openCursor ⟨statement, bound, bounds⟩ regular.plain.framed flushed
          rcases went : Strategy.openCursor pipeline ⟨statement, bound, bounds⟩ flushed with
            ⟨e | cursor, after⟩ <;> rw [went] at step done failed frames
          · have advanced := clears.coherent.advance ended step frames (failed e rfl)
              (forgot_queued clears.coherent) (safe_queued clears.coherent)
            exact ⟨clears.continues.trans (.of_step step frames.shared advanced (fun _ => id)
              fun _ no => no.elim), by rintro _ ⟨⟩⟩
          · have hands := done cursor rfl
            -- the statement of the cursor is no longer among those linked
            have tidy : after.Tidy picture pipeline (fun _ => False) := by
              obtain ⟨strategy, idle, link, owns, -⟩ := hands
              have fewer := owns.distinct.sublist ((List.sublist_cons_self _ _).map Prod.snd)
              exact (owns.select (fun _ mem => List.mem_cons_of_mem _ mem) fewer).tidy_of_idle idle
            have advanced := clears.coherent.advance ended step frames tidy
              (forgot_queued clears.coherent) (safe_queued clears.coherent)
            refine ⟨clears.continues.trans (.of_step step frames.shared advanced (fun _ => id)
              fun _ no => no.elim), ?_⟩
            rintro _ ⟨⟩
            exact ⟨hands, advanced⟩

theorem Local.flushed {scene : Scene σ} (coherent : scene.Coherent picture pipeline queued)
    (isOpen : scene.executor.closed = false) :
    scene.Step picture queued (Local.flush pipeline scene).2 ∧
      scene.SameCaches (Local.flush pipeline scene).2 ∧
      (Local.flush pipeline scene).2.Bare picture pipeline ∧
      (Local.flush pipeline scene).2.Coherent picture pipeline (fun _ => False) := by
  have flushing : Local.flush pipeline scene = Strategy.flush pipeline false scene := by
    simp only [Local.flush, Action.bind_apply, ensureOpen_of_open isOpen]
  rw [flushing]
  obtain ⟨step, done, failed⟩ := ensures_flush regular false scene coherent.tidy
  have frames := @Strategy.frames_flush σ pipeline false scene
  have bare : (Strategy.flush pipeline false scene).2.Bare picture pipeline := by
    cases went : (Strategy.flush pipeline false scene).1 with
    | error e => exact failed e went
    | ok results => exact done results went
  have ran := step.mono fun sql ran => ran.2
  exact ⟨ran, frames, bare, coherent.advance isOpen ran frames bare.tidy (forgot_queued coherent)
    (safe_queued coherent)⟩

theorem Local.continues_flush {scene : Scene σ} (coherent : scene.Coherent picture pipeline queued) :
    scene.Continues picture pipeline queued (Local.flush pipeline scene).2 := by
  cases ended : scene.executor.closed with
  | true =>
      have refused : Local.flush pipeline scene =
          (.error (.of (.closed "Executor was closed.")), scene) := by
        simp only [Local.flush, Action.bind_apply, ensureOpen_of_closed ended]
      rw [refused]
      exact .refl coherent fun _ => id
  | false =>
      obtain ⟨step, same, -, flushed⟩ := Local.flushed regular coherent ended
      exact .of_step step same.shared flushed (fun _ => id) fun _ no => no.elim

omit regular in
theorem coherent_of_empty {scene : Scene σ} (tidy : scene.Tidy picture pipeline (fun _ => False))
    (ended : scene.executor.closed → scene.connection = none)
    (kept : scene.executor.localCache = [])
    (staged : ∀ id, (Staging.of scene.executor.staging id).entries = [])
    (idle : updatesOf (scene.standing picture) = []) :
    scene.Coherent picture pipeline (fun _ => False) where
  tidy := tidy
  ended := ended
  kept := by
    rw [kept]
    rintro entry ⟨⟩
  staged := by
    intro id
    rw [staged]
    rintro entry ⟨⟩
  apart := fun _ no => no.elim
  cleared := by
    rintro sql id - (ran | no)
    · rw [idle] at ran
      cases ran
    · exact no.elim
  emptied := fun _ _ _ no => no.elim

/-- What a coherent unit of work publishes is right for the data that are committed then, if its
transaction is current. -/
theorem fresh_publish {scene : Scene σ} (coherent : scene.Coherent picture pipeline queued)
    (fresh : pipeline.Fresh (picture.committed scene.source) scene.shared)
    (current : scene.Current picture pipeline) {later : Data}
    (stays : ∀ request, (∀ sql ∈ updatesOf (scene.standing picture), ¬picture.changes sql request) →
      later request = picture.committed scene.source request)
    (agrees : ∀ standing, scene.standing picture = some standing →
      standing.base = picture.committed scene.source → later = standing.view) (drain : DrainOrder) :
    pipeline.Fresh later (Staging.publish scene.executor.staging scene.shared drain) := by
  apply fresh.publish drain
  · intro id uncleared handler invokes used
    apply stays
    intro sql ran changes
    have cleared := coherent.cleared sql id ⟨handler, invokes, used, changes⟩ (.inl ran)
    rw [uncleared] at cleared
    cases cleared
  · intro id entry mem
    obtain ⟨standing, begun, right⟩ := coherent.staged id entry mem
    have kept := current id (List.ne_nil_of_mem mem)
    rw [begun] at kept stays
    rcases kept with base | still
    · rw [agrees standing begun base]
      exact right
    · apply right.congr
      intro handler invokes used
      obtain ⟨untouched, base⟩ := still handler invokes used
      obtain ⟨c, -, found⟩ := Option.bind_eq_some_iff.1 begun
      calc later (handler.request pipeline)
          = picture.committed scene.source (handler.request pipeline) := stays _ untouched
        _ = standing.base (handler.request pipeline) := base.symm
        _ = standing.view (handler.request pipeline) :=
            (regular.isolates.untouched scene.source c standing _ found untouched).symm

theorem fresh_publish_of_idle {scene : Scene σ} (coherent : scene.Coherent picture pipeline queued)
    (fresh : pipeline.Fresh (picture.committed scene.source) scene.shared)
    (current : scene.Current picture pipeline) (idle : updatesOf (scene.standing picture) = [])
    (drain : DrainOrder) :
    pipeline.Fresh (picture.committed scene.source)
      (Staging.publish scene.executor.staging scene.shared drain) := by
  refine fresh_publish regular coherent fresh current (fun _ _ => rfl) (fun standing begun base => ?_)
    drain
  rw [begun] at idle
  obtain ⟨c, -, found⟩ := Option.bind_eq_some_iff.1 begun
  funext request
  have none (sql : String) (ran : sql ∈ standing.updates) : ¬picture.changes sql request := by
    have nothing : standing.updates = [] := idle
    rw [nothing] at ran
    cases ran
  rw [← base]
  exact (regular.isolates.untouched scene.source c standing request found none).symm

end Executor

end MappedSql
