import MappedSql.Proofs.Cache.Overlay
import MappedSql.Proofs.Execution.Prepared
import MappedSql.Proofs.Execution.Provenance
import MappedSql.Proofs.Tracking

namespace MappedSql

open MappedSql.Action (Tracks)

structure Recording.Drifts (own : StatementId → Prop) (before after : Recording) : Prop where
  script : after.script = before.script
  log : after.log = before.log
  nextKey : after.nextKey = before.nextKey
  connections : after.connections = before.connections
  length : after.statements.length = before.statements.length
  others : ∀ id, ¬own id → after.statement id = before.statement id

theorem Recording.Drifts.refl (own : StatementId → Prop) (recording : Recording) :
    recording.Drifts own recording :=
  ⟨rfl, rfl, rfl, rfl, rfl, fun _ _ => rfl⟩

theorem Recording.Drifts.trans {own : StatementId → Prop} {first second third : Recording}
    (left : first.Drifts own second) (right : second.Drifts own third) : first.Drifts own third where
  script := right.script.trans left.script
  log := right.log.trans left.log
  nextKey := right.nextKey.trans left.nextKey
  connections := right.connections.trans left.connections
  length := right.length.trans left.length
  others := fun id foreign => (right.others id foreign).trans (left.others id foreign)

theorem Recording.Drifts.mono {own more : StatementId → Prop} {before after : Recording}
    (drifts : before.Drifts own after) (wider : ∀ id, own id → more id) : before.Drifts more after :=
  { drifts with others := fun id foreign => drifts.others id fun mine => foreign (wider id mine) }

theorem Recording.Closed.drifts {own : StatementId → Prop} {id : StatementId} {before after : Recording}
    (closed : before.Closed id after) (mem : own id) : before.Drifts own after where
  script := closed.script
  log := closed.log
  nextKey := closed.nextKey
  connections := closed.connections
  length := closed.length
  others := fun other foreign => closed.others other fun same => foreign (same ▸ mem)

/-- How the databases of two units of work are related, given the statements that cursors own in the one,
and what its updates still owe: the parameter and the count that the simple one had of each. -/
abbrev Kin : Type :=
  List StatementId → List (Value × Nat) → Strategy → Transaction → Recording → Recording → Prop

structure Scene.Twins (kin : Kin) (alike : Prop) (apart : List StatementId) (due : List (Value × Nat))
    (s t : Scene Recording) : Prop where
  sharing : Sharing s.executor.staging s.shared t.shared s.executor.drains t.executor.drains
  parameter : alike → s.parameter = t.parameter
  executor : t.executor = { s.executor with strategy := .simple, drains := t.executor.drains }
  kin : kin apart due s.executor.strategy s.executor.transaction s.source t.source

/-- A change of an executor that sees neither how statements are run nor in which orders what is
staged will be written. -/
structure Executor.Passive (change : Executor → Executor) : Prop where
  strategy : ∀ executor, (change executor).strategy = executor.strategy
  transaction : ∀ executor, (change executor).transaction = executor.transaction
  drains : ∀ executor, (change executor).drains = executor.drains
  distinct : ∀ executor, executor.staging.Distinct → (change executor).staging.Distinct
  blind : ∀ executor drains, change { executor with strategy := .simple, drains := drains } =
    { change executor with strategy := .simple, drains := drains }

def Calm (due due' : List (Value × Nat)) : Prop :=
  due' = due ∨ due' = []

structure Cursor.Twins (apart : List StatementId) (left right : Cursor) : Prop where
  same : right = { left with statement := right.statement }
  statement : ∀ st, left.statement = some st → st ∈ apart

def Pipeline.Admits (pipeline : Pipeline Recording) (admits : Handler → Prop)
    (statement : MappedStatement) (parameter : Value) : Prop :=
  ∀ bound bounds, statement.boundSql parameter pipeline.setting = .ok bound →
    admits ⟨statement, bound, bounds⟩

open Scene (Twins)

structure Lockstep (pipeline : Pipeline Recording) (strict : Prop) (admits : Handler → Prop)
    (kin : Kin) : Prop where
  rowSources : ∀ {apart due strategy transaction s t}, kin apart due strategy transaction s t →
    s.rowSources = t.rowSources
  connections : ∀ {apart due strategy transaction s t}, kin apart due strategy transaction s t →
    s.connections = t.connections
  drifts : ∀ {apart due strategy transaction s t s' t'}, kin apart due strategy transaction s t →
    s.Drifts (· ∈ apart) s' → t.Drifts (fun _ => True) t' → s'.rowSources = t'.rowSources →
      kin apart due strategy transaction s' t'
  update : ∀ apart due statement, Tracks strict
    (fun s t => pipeline.Admits admits statement t.parameter ∧ Twins kin True apart due s t)
    (Strategy.update pipeline statement) (Strategy.update pipeline statement)
    (fun a b s t => (strict → a = b) ∧ Twins kin strict apart (due ++ [(t.parameter, b)]) s t)
    (Twins kin True apart due)
  query : ∀ alike apart due handler, admits handler → Tracks strict (Twins kin alike apart due)
    (Strategy.query pipeline handler) (Strategy.query pipeline handler)
    (fun a b s t => a = b ∧ ∃ due', Calm due due' ∧ Twins kin alike apart due' s t)
    (Twins kin alike apart due)
  openCursor : ∀ alike apart due handler, admits handler → Tracks strict (Twins kin alike apart due)
    (Strategy.openCursor pipeline handler) (Strategy.openCursor pipeline handler)
    (fun a b s t => ∃ apart' due', a.Twins (apart' ++ apart) b ∧ Calm due due' ∧
      Twins kin alike (apart' ++ apart) due' s t)
    (Twins kin alike apart due)
  flush : ∀ alike apart due, Tracks strict (Twins kin alike apart due)
    (Strategy.flush pipeline false) (Strategy.flush pipeline false)
    (fun a b s t => (strict → a = b) ∧ Twins kin alike apart [] s t) (Twins kin alike apart due)
  giveUp : strict → ∀ alike apart due, Tracks strict (Twins kin alike apart due)
    (Strategy.flush pipeline true) (Strategy.flush pipeline true)
    (fun a b s t => a = b ∧ Twins kin alike apart due s t ∧ s.executor.strategy.held = [])
    (fun s t => Twins kin alike apart due s t ∧ s.executor.strategy.held = [])
  ends : strict → ∀ {apart due strategy transaction s t}, kin apart due strategy transaction s t →
    strategy.held = [] → ∀ transaction' connections, kin apart due strategy transaction'
      { s with connections := connections } { t with connections := connections }

namespace Scene.Twins

variable {kin : Kin} {alike : Prop} {apart : List StatementId} {due : List (Value × Nat)}
  {s t : Scene Recording}

theorem closed (twins : Twins kin alike apart due s t) : t.executor.closed = s.executor.closed := by
  rw [twins.executor]

theorem localCache (twins : Twins kin alike apart due s t) :
    t.executor.localCache = s.executor.localCache := by
  rw [twins.executor]

theorem staging (twins : Twins kin alike apart due s t) : t.executor.staging = s.executor.staging := by
  rw [twins.executor]

theorem transaction (twins : Twins kin alike apart due s t) :
    t.executor.transaction = s.executor.transaction := by
  rw [twins.executor]

theorem strategy (twins : Twins kin alike apart due s t) : t.executor.strategy = .simple := by
  rw [twins.executor]

theorem weaken {less : Prop} (twins : Twins kin alike apart due s t) (weaker : less → alike) :
    Twins kin less apart due s t :=
  ⟨twins.sharing, fun holds => twins.parameter (weaker holds), twins.executor, twins.kin⟩

theorem change (twins : Twins kin alike apart due s t) {change : Executor → Executor}
    (passive : Executor.Passive change) :
    Twins kin alike apart due { s with executor := change s.executor }
      { t with executor := change t.executor } := by
  refine ⟨?_, twins.parameter, ?_, ?_⟩
  · dsimp only
    rw [passive.drains, passive.drains]
    exact twins.sharing.restage (passive.distinct _ twins.sharing.distinct)
  · dsimp only
    rw [passive.drains, twins.executor, passive.blind]
  · dsimp only
    rw [passive.strategy, passive.transaction]
    exact twins.kin

end Scene.Twins

theorem Calm.refl (due : List (Value × Nat)) : Calm due due :=
  .inl rfl

def Scene.CalmTwins (kin : Kin) (alike : Prop) (apart : List StatementId) (due : List (Value × Nat))
    (s t : Scene Recording) : Prop :=
  ∃ due', Calm due due' ∧ Twins kin alike apart due' s t

theorem Scene.Twins.calm {kin : Kin} {alike : Prop} {apart : List StatementId}
    {due : List (Value × Nat)} {s t : Scene Recording} (twins : Twins kin alike apart due s t) :
    CalmTwins kin alike apart due s t :=
  ⟨due, .refl due, twins⟩

theorem Scene.CalmTwins.change {kin : Kin} {alike : Prop} {apart : List StatementId}
    {due : List (Value × Nat)} {s t : Scene Recording} (calm : CalmTwins kin alike apart due s t)
    {change : Executor → Executor} (passive : Executor.Passive change) :
    CalmTwins kin alike apart due { s with executor := change s.executor }
      { t with executor := change t.executor } := by
  obtain ⟨due', calm, twins⟩ := calm
  exact ⟨due', calm, twins.change passive⟩

def Work.DriftsThrough (act : Work Recording Unit) : Prop :=
  ∀ own scene, ∃ after, act scene = (.ok (), scene.withSource after) ∧
    scene.source.Drifts own after ∧ after.rowSources = scene.source.rowSources

namespace Transaction

theorem driftsThrough_commit :
    Work.DriftsThrough (Work.onTransaction (commit Recording.source)) := by
  intro own scene
  unfold Work.onTransaction Action.within commit
  dsimp only
  rw [Action.bind_apply, Action.get_apply]
  dsimp only
  cases manual? Recording.source scene.source scene.executor.transaction with
  | none => exact ⟨scene.source, rfl, .refl own _, rfl⟩
  | some c => exact ⟨_, rfl, ⟨rfl, rfl, rfl, rfl, rfl, fun _ _ => rfl⟩, rfl⟩

theorem driftsThrough_rollback :
    Work.DriftsThrough (Work.onTransaction (rollback Recording.source)) := by
  intro own scene
  unfold Work.onTransaction Action.within rollback
  dsimp only
  rw [Action.bind_apply, Action.get_apply]
  dsimp only
  cases manual? Recording.source scene.source scene.executor.transaction with
  | none => exact ⟨scene.source, rfl, .refl own _, rfl⟩
  | some c => exact ⟨_, rfl, ⟨rfl, rfl, rfl, rfl, rfl, fun _ _ => rfl⟩, rfl⟩

def closing (transaction : Transaction) (recording : Recording) : List RecordedConnection :=
  match transaction.connection with
  | some c => recording.closing c
  | none => recording.connections

theorem close_apply (scene : Scene Recording) :
    ∃ counters, Work.onTransaction (close Recording.source) scene =
      (.ok (), { scene with
        source := { scene.source with
          counters := counters
          connections := scene.executor.transaction.closing scene.source }
        executor := { scene.executor with
          transaction :=
            { scene.executor.transaction with closed := true, connection := none } } }) := by
  have set_apply (after before : Recording × Transaction) :
      (set after : Action (Recording × Transaction) PUnit) before = (.ok (), after) := rfl
  unfold Work.onTransaction Action.within close closing
  dsimp only
  cases own : scene.executor.transaction.connection with
  | none =>
      refine ⟨scene.source.counters, ?_⟩
      simp only [Action.bind_apply, Action.get_apply, set_apply, own]
      rfl
  | some c =>
      rcases Bool.eq_false_or_eq_true (Recording.source.isAutocommit scene.source c) with
        manual | manual
      · obtain ⟨counters, closed⟩ := Recording.closeConnection_apply scene.source c
        refine ⟨counters, ?_⟩
        simp only [Action.bind_apply, Action.get_apply, set_apply, own, manual, Bool.not_true,
          Bool.false_eq_true, if_false, Action.onFirst, Action.within, Action.attempt]
        dsimp only [Recording.source]
        rw [closed]
        rfl
      · obtain ⟨counters, closed⟩ := Recording.closeConnection_apply
          (Recording.rollback c scene.source).2 c
        refine ⟨counters, ?_⟩
        simp only [Action.bind_apply, Action.get_apply, set_apply, own, manual, Bool.not_false, if_true,
          Action.onFirst, Action.within, Action.attempt, Action.quietly]
        dsimp only [Recording.source]
        rw [closed]
        rfl

end Transaction

theorem Lockstep.drift {pipeline : Pipeline Recording} {strict alike : Prop} {admits : Handler → Prop}
    {kin : Kin} (lockstep : Lockstep pipeline strict admits kin) {apart : List StatementId}
    {due : List (Value × Nat)} {s t : Scene Recording} (twins : Twins kin alike apart due s t)
    {after after' : Recording} (own : s.source.Drifts (· ∈ apart) after)
    (other : t.source.Drifts (fun _ => True) after') (rows : after.rowSources = after'.rowSources) :
    Twins kin alike apart due (s.withSource after) (t.withSource after') :=
  ⟨twins.sharing, twins.parameter, twins.executor, lockstep.drifts twins.kin own other rows⟩

namespace Executor

open Scene (CalmTwins)

variable {pipeline : Pipeline Recording} {strict : Prop} {admits : Handler → Prop} {kin : Kin}
  {alike : Prop} {apart : List StatementId} {due : List (Value × Nat)}

theorem tracks_ensureOpen : Tracks strict (Twins kin alike apart due) ensureOpen ensureOpen
    (fun _ _ => Twins kin alike apart due) (Twins kin alike apart due) := by
  intro s t twins
  have same := twins.closed
  unfold ensureOpen
  simp only [Action.bind_apply, Work.executor_apply, same]
  split
  · exact ⟨fun _ no => (by cases no), fun _ _ failed => ⟨failed, twins⟩⟩
  · exact ⟨fun _ _ => ⟨(), rfl, twins⟩, fun _ _ no => by cases no⟩

theorem passive_clearLocal :
    Passive fun executor =>
      if executor.closed then executor else { executor with localCache := [] } where
  strategy := fun executor => by split <;> rfl
  transaction := fun executor => by split <;> rfl
  drains := fun executor => by split <;> rfl
  distinct := fun executor distinct => by split <;> exact distinct
  blind := fun executor drains => by dsimp only; split <;> rfl

theorem passive_setStaging {staging : Staging} (distinct : staging.Distinct) :
    Passive fun executor => { executor with staging := staging } :=
  ⟨fun _ => rfl, fun _ => rfl, fun _ => rfl, fun _ _ => distinct, fun _ _ => rfl⟩

theorem passive_keepRows (key : CacheKey) (rows : List Value) :
    Passive fun executor =>
      { executor with localCache := Entries.put executor.localCache key (.rows rows) } :=
  ⟨fun _ => rfl, fun _ => rfl, fun _ => rfl, fun _ => id, fun _ _ => rfl⟩

theorem tracks_clearLocal : Tracks strict (Twins kin alike apart due) clearLocal clearLocal
    (fun _ _ => Twins kin alike apart due) (Twins kin alike apart due) :=
  Tracks.modify fun _ _ twins => twins.change passive_clearLocal

theorem ensureOpen_after (scene : Scene Recording) : (ensureOpen scene).2 = scene := by
  cases ended : scene.executor.closed with
  | true => rw [ensureOpen_of_closed ended]
  | false => rw [ensureOpen_of_open ended]

variable (lockstep : Lockstep pipeline strict admits kin)

namespace Local

include lockstep

theorem tracks_update (statement : MappedStatement) :
    Tracks strict
      (fun s t => pipeline.Admits admits statement t.parameter ∧ Twins kin True apart due s t)
      (update pipeline statement) (update pipeline statement)
      (fun a b s t => (strict → a = b) ∧ Twins kin strict apart (due ++ [(t.parameter, b)]) s t)
      (Twins kin True apart due) := by
  let admitted (_ t : Scene Recording) : Prop := pipeline.Admits admits statement t.parameter
  have opened : Tracks strict (fun s t => admitted s t ∧ Twins kin True apart due s t) ensureOpen
      ensureOpen (fun _ _ s t => admitted s t ∧ Twins kin True apart due s t)
      (fun s t => admitted s t ∧ Twins kin True apart due s t) :=
    tracks_ensureOpen.carry fun s t holds => by rwa [ensureOpen_after, ensureOpen_after]
  have cleared : Tracks strict (fun s t => admitted s t ∧ Twins kin True apart due s t) clearLocal
      clearLocal (fun _ _ s t => admitted s t ∧ Twins kin True apart due s t)
      (fun s t => admitted s t ∧ Twins kin True apart due s t) :=
    tracks_clearLocal.carry fun s t holds => holds
  have forget {s t : Scene Recording} (held : admitted s t ∧ Twins kin True apart due s t) := held.2
  refine (opened.failing fun _ _ => forget).bind fun _ _ => ?_
  refine (cleared.failing fun _ _ => forget).bind fun _ _ => ?_
  exact lockstep.update apart due statement

theorem tracks_rowsFor (statement : MappedStatement) (bounds : RowBounds) (key : CacheKey)
    (bound : BoundSql) (admitted : admits ⟨statement, bound, bounds⟩) :
    Tracks strict (Twins kin alike apart due) (rowsFor pipeline statement bounds key bound)
      (rowsFor pipeline statement bounds key bound)
      (fun a b s t => a = b ∧ CalmTwins kin alike apart due s t) (CalmTwins kin alike apart due) := by
  unfold rowsFor
  refine Tracks.read_bind (fun e e' => e.localCache = e'.localCache)
    (fun s t twins => twins.localCache.symm) ?_
  intro e e' same
  rw [same]
  cases Entries.get? e'.localCache key with
  | some cached => exact Tracks.pure fun s t twins => ⟨rfl, twins.calm⟩
  | none =>
      have queried := (lockstep.query alike apart due ⟨statement, bound, bounds⟩ admitted).failing
        fun s t twins => twins.calm
      refine queried.bind_same fun rows => ?_
      refine (Tracks.modify fun s t calm => ?_).bind fun _ _ => Tracks.pure fun s t held => ⟨rfl, held⟩
      exact Scene.CalmTwins.change calm (passive_keepRows key rows)

theorem tracks_keyedQuery (statement : MappedStatement) (bounds : RowBounds) (key : CacheKey)
    (bound : BoundSql) (admitted : admits ⟨statement, bound, bounds⟩) :
    Tracks strict (Twins kin alike apart due) (keyedQuery pipeline statement bounds key bound)
      (keyedQuery pipeline statement bounds key bound)
      (fun a b s t => a = b ∧ CalmTwins kin alike apart due s t) (CalmTwins kin alike apart due) := by
  have answered := @tracks_rowsFor pipeline strict admits kin alike apart due lockstep statement bounds
    key bound admitted
  have finished : Tracks strict (Twins kin alike apart due)
      (do
        let result ← (rowsFor pipeline statement bounds key bound).attempt
        if pipeline.configuration.settings.localScope = .statement then clearLocal
        result)
      (do
        let result ← (rowsFor pipeline statement bounds key bound).attempt
        if pipeline.configuration.settings.localScope = .statement then clearLocal
        result)
      (fun a b s t => a = b ∧ CalmTwins kin alike apart due s t) (CalmTwins kin alike apart due) := by
    by_cases scope : pipeline.configuration.settings.localScope = .statement
    · simp only [if_pos scope]
      exact answered.ensuring (fun _ => rfl) (fun _ => rfl)
        (fun _ _ _ _ held => ⟨held.1, held.2.change passive_clearLocal⟩)
        fun _ _ held => held.change passive_clearLocal
    · simp only [if_neg scope]
      exact @Tracks.ensuring _ _ _ _ _ _ _ _ _ _ (pure ()) (pure ()) _ _ answered (fun _ => rfl)
        (fun _ => rfl) (fun _ _ _ _ => id) fun _ _ => id
  unfold keyedQuery
  refine (tracks_ensureOpen.failing fun _ _ twins => twins.calm).bind fun _ _ => ?_
  by_cases flushes : statement.flushCache = true
  · simp only [if_pos flushes]
    exact (tracks_clearLocal.failing fun _ _ twins => twins.calm).bind fun _ _ => finished
  · simp only [if_neg flushes]
    exact finished

theorem tracks_queryCursor (statement : MappedStatement) (parameter : Value) (bounds : RowBounds)
    (admitted : pipeline.Admits admits statement parameter) :
    Tracks strict (Twins kin alike apart due) (queryCursor pipeline statement parameter bounds)
      (queryCursor pipeline statement parameter bounds)
      (fun a b s t => ∃ apart', a.Twins (apart' ++ apart) b ∧
        CalmTwins kin alike (apart' ++ apart) due s t)
      (Twins kin alike apart due) := by
  refine tracks_ensureOpen.bind fun _ _ => ?_
  refine Tracks.same_bind _ (fun bound found => ?_) fun _ _ => id
  refine (lockstep.openCursor alike apart due _ (admitted bound bounds found)).weaken (fun _ _ => id)
    ?_ (fun _ _ => id) id
  rintro a b s t ⟨apart', due', twin, calm, twins⟩
  exact ⟨apart', twin, due', calm, twins⟩

theorem tracks_flush :
    Tracks strict (Twins kin alike apart due) (flush pipeline) (flush pipeline)
      (fun a b s t => (strict → a = b) ∧ Twins kin alike apart [] s t) (Twins kin alike apart due) :=
  tracks_ensureOpen.bind fun _ _ => lockstep.flush alike apart due

theorem tracks_drifting {fails : Scene Recording → Scene Recording → Prop} {act : Work Recording Unit}
    (drifts : act.DriftsThrough) :
    Tracks strict (Twins kin alike apart due) act act (fun _ _ => Twins kin alike apart due) fails := by
  refine Tracks.through fun s t twins => ?_
  obtain ⟨after, went, own, rows⟩ := drifts (· ∈ apart) s
  obtain ⟨after', went', other, rows'⟩ := drifts (fun _ => True) t
  refine ⟨(), (), by rw [went], by rw [went'], ?_⟩
  rw [went, went']
  exact lockstep.drift twins own other
    (rows.trans ((lockstep.rowSources twins.kin).trans rows'.symm))

theorem tracks_commit (recorded : pipeline.source = Recording.source) (required : Bool) :
    Tracks strict (Twins kin alike apart due) (commit pipeline required) (commit pipeline required)
      (fun _ _ => Twins kin alike apart []) (CalmTwins kin alike apart due) := by
  have finished : Tracks strict (Twins kin alike apart due) (finishCommit pipeline required)
      (finishCommit pipeline required) (fun _ _ => Twins kin alike apart [])
      (CalmTwins kin alike apart due) := by
    refine ((tracks_flush lockstep).failing fun _ _ twins => twins.calm).bind fun _ _ => ?_
    refine Tracks.under ?_ fun _ _ held => held.2
    split
    · rw [recorded]
      exact tracks_drifting lockstep Transaction.driftsThrough_commit
    · exact Tracks.pure fun _ _ => id
  intro s t twins
  cases ended : s.executor.closed with
  | true =>
      rw [commit_of_closed ended, commit_of_closed (twins.closed.trans ended)]
      exact ⟨fun _ no => (by cases no), fun _ _ failed => ⟨failed, twins.calm⟩⟩
  | false =>
      rw [commit_of_open ended, commit_of_open (twins.closed.trans ended)]
      exact finished _ _ (twins.change passive_clearLocal)

def Settled (kin : Kin) (alike : Prop) (apart : List StatementId) (due : List (Value × Nat))
    (s t : Scene Recording) : Prop :=
  Twins kin alike apart due s t ∧ s.executor.strategy.held = []

theorem Settled.drift {act : Work Recording Unit} (drifts : act.DriftsThrough)
    {s t : Scene Recording} (settled : Settled kin alike apart due s t) :
    Settled kin alike apart due (act s).2 (act t).2 := by
  obtain ⟨twins, nothing⟩ := settled
  obtain ⟨after, went, own, rows⟩ := drifts (· ∈ apart) s
  obtain ⟨after', went', other, rows'⟩ := drifts (fun _ => True) t
  rw [went, went']
  exact ⟨lockstep.drift twins own other
    (rows.trans ((lockstep.rowSources twins.kin).trans rows'.symm)), nothing⟩

theorem tracks_finishRollback (recorded : pipeline.source = Recording.source) (isStrict : strict)
    (required : Bool) :
    Tracks strict (Twins kin alike apart due) (finishRollback pipeline required)
      (finishRollback pipeline required) (fun _ _ => Settled kin alike apart due)
      (Settled kin alike apart due) := by
  have drifts := Transaction.driftsThrough_rollback
  have through (scene : Scene Recording) :
      (Work.onTransaction (Transaction.rollback Recording.source) scene).1 = .ok () := by
    obtain ⟨after, went, -⟩ := drifts (fun _ => False) scene
    rw [went]
  have given := (lockstep.giveUp isStrict alike apart due).weaken (fun _ _ => id)
    (fun _ _ _ _ held => held.2) (fun _ _ => id) id
  have ended : Tracks strict (Twins kin alike apart due)
      ((Strategy.flush pipeline true).attempt >>= fun flushed =>
        Work.onTransaction (Transaction.rollback Recording.source) >>= fun _ => liftM flushed)
      ((Strategy.flush pipeline true).attempt >>= fun flushed =>
        Work.onTransaction (Transaction.rollback Recording.source) >>= fun _ => liftM flushed)
      (fun _ _ => Settled kin alike apart due) (Settled kin alike apart due) :=
    given.ensuring through through (fun _ _ _ _ held => Settled.drift lockstep drifts held)
      fun _ _ held => Settled.drift lockstep drifts held
  have plainly : Tracks strict (Twins kin alike apart due)
      ((Strategy.flush pipeline true).attempt >>= fun flushed => pure () >>= fun _ => liftM flushed)
      ((Strategy.flush pipeline true).attempt >>= fun flushed => pure () >>= fun _ => liftM flushed)
      (fun _ _ => Settled kin alike apart due) (Settled kin alike apart due) :=
    given.ensuring (fun _ => rfl) (fun _ => rfl) (fun _ _ _ _ => id) fun _ _ => id
  have done (_ _ : List BatchResult) : Tracks strict (Settled kin alike apart due)
      (pure () : Work Recording Unit) (pure () : Work Recording Unit)
      (fun _ _ => Settled kin alike apart due) (Settled kin alike apart due) :=
    Tracks.pure fun _ _ => id
  unfold finishRollback
  rw [recorded]
  cases required with
  | true =>
      have both := ended.bind done
      simp only [Action.bind_assoc] at both
      exact both
  | false =>
      have both := plainly.bind done
      simp only [Action.bind_assoc] at both
      exact both

theorem tracks_rollback (recorded : pipeline.source = Recording.source) (isStrict : strict)
    (required : Bool) :
    Tracks strict (Twins kin alike apart due) (rollback pipeline required)
      (rollback pipeline required) (fun _ _ => Twins kin alike apart due)
      (Twins kin alike apart due) := by
  intro s t twins
  cases ended : s.executor.closed with
  | true =>
      rw [rollback_of_closed ended, rollback_of_closed (twins.closed.trans ended)]
      exact ⟨fun _ _ => ⟨(), rfl, twins⟩, fun _ _ no => by cases no⟩
  | false =>
      rw [rollback_of_open ended, rollback_of_open (twins.closed.trans ended)]
      have finished := (tracks_finishRollback lockstep recorded isStrict required).weaken
        (fun _ _ => id) (fun _ _ _ _ (held : Settled kin alike apart due _ _) => held.1)
        (fun _ _ held => held.1) id
      exact finished _ _ (twins.change passive_clearLocal)

omit lockstep in
theorem close_through (required : Bool) (scene : Scene Recording) :
    (close pipeline required scene).1 = .ok () := by
  cases ended : scene.executor.closed with
  | true => rw [close_of_closed ended]
  | false =>
      simp only [close, Action.bind_apply, Work.executor_apply, ended]
      rfl

theorem tracks_close (recorded : pipeline.source = Recording.source) (isStrict : strict)
    (required : Bool) :
    Tracks strict (Twins kin alike apart due) (close pipeline required) (close pipeline required)
      (fun _ _ => Twins kin alike apart due) (Twins kin alike apart due) := by
  refine Tracks.through fun s t twins =>
    ⟨(), (), close_through required s, close_through required t, ?_⟩
  cases ended : s.executor.closed with
  | true =>
      rw [close_of_closed ended, close_of_closed (twins.closed.trans ended)]
      exact twins
  | false =>
      rw [close_of_open ended, close_of_open (twins.closed.trans ended), rollback_of_open ended,
        rollback_of_open (twins.closed.trans ended), recorded]
      have rolled : Settled kin alike apart due (finishRollback pipeline required (clearLocal s).2).2
          (finishRollback pipeline required (clearLocal t).2).2 :=
        (tracks_finishRollback lockstep recorded isStrict required).after isStrict
          (twins.change passive_clearLocal)
      obtain ⟨settled, nothing⟩ := rolled
      generalize (finishRollback pipeline required (clearLocal s).2).2 = s' at settled nothing
      generalize (finishRollback pipeline required (clearLocal t).2).2 = t' at settled
      have transaction := settled.transaction
      have rows := lockstep.rowSources settled.kin
      have same : s'.executor.transaction.closing s'.source =
          t'.executor.transaction.closing t'.source := by
        have connections := lockstep.connections settled.kin
        unfold Transaction.closing Recording.closing Recording.isConnectionClosed
        rw [transaction, connections]
      obtain ⟨counters, closed⟩ := Transaction.close_apply s'
      obtain ⟨counters', closed'⟩ := Transaction.close_apply t'
      rw [closed, closed']
      have still := lockstep.ends isStrict settled.kin nothing
        { s'.executor.transaction with closed := true, connection := none }
        (s'.executor.transaction.closing s'.source)
      refine ⟨settled.sharing, settled.parameter, ?_, ?_⟩
      · dsimp only
        rw [settled.executor]
      · refine lockstep.drifts still ⟨rfl, rfl, rfl, rfl, rfl, fun _ _ => rfl⟩
          ⟨rfl, rfl, rfl, same.symm, rfl, fun _ _ => rfl⟩ rows

end Local

namespace Shared

theorem tracks_setStaging (change : Staging → Staging)
    (keeps : ∀ staging : Staging, staging.Distinct → (change staging).Distinct) :
    Tracks strict (Twins kin alike apart due)
      (do setStaging (change (← Work.executor).staging))
      (do setStaging (change (← Work.executor).staging))
      (fun _ _ => Twins kin alike apart due) (Twins kin alike apart due) := by
  refine Tracks.read_bind (fun e e' => e.staging = e'.staging ∧ e.staging.Distinct)
    (fun s t twins => ⟨twins.staging.symm, twins.sharing.distinct⟩) ?_
  rintro e e' ⟨same, distinct⟩
  rw [← same]
  exact Tracks.modify fun s t twins => twins.change (passive_setStaging (keeps e.staging distinct))

theorem tracks_flushIfRequired (statement : MappedStatement) :
    Tracks strict (Twins kin alike apart due) (flushIfRequired statement) (flushIfRequired statement)
      (fun _ _ => Twins kin alike apart due) (Twins kin alike apart due) := by
  unfold flushIfRequired
  cases statement.cache with
  | none => exact Tracks.pure fun _ _ => id
  | some cache =>
      cases statement.flushCache with
      | false => exact Tracks.pure fun _ _ => id
      | true =>
          exact tracks_setStaging (fun staging => staging.clear cache) fun _ distinct =>
            distinct.clear cache

theorem flushIfRequired_parameter (statement : MappedStatement) (scene : Scene Recording) :
    (flushIfRequired statement scene).2.parameter = scene.parameter := by
  unfold flushIfRequired
  cases statement.cache with
  | none => rfl
  | some cache => cases statement.flushCache <;> rfl

theorem tracks_lookUp (id : String) (key : CacheKey) :
    Tracks strict (Twins kin alike apart due) (lookUp id key) (lookUp id key)
      (fun a b s t => a = b ∧ Twins kin alike apart due s t) (Twins kin alike apart due) := by
  refine Tracks.through fun s t twins => ?_
  obtain ⟨found, sharing⟩ := twins.sharing.get? id key
  have same : Staging.get? t.executor.staging id key t.shared =
      Staging.get? s.executor.staging id key t.shared := by
    rw [twins.staging]
  refine ⟨_, _, rfl, rfl, found.trans (congrArg Prod.fst same.symm), ?_⟩
  rw [← same] at sharing
  exact ⟨sharing, twins.parameter, twins.executor, twins.kin⟩

theorem tracks_publish :
    Tracks strict (Twins kin alike apart due) publish publish
      (fun _ _ => Twins kin alike apart due) (Twins kin alike apart due) := by
  refine Tracks.modify fun s t twins => ?_
  refine ⟨?_, twins.parameter, ?_, twins.kin⟩
  · dsimp only
    rw [twins.staging]
    exact twins.sharing.publish
  · dsimp only
    rw [twins.executor]

include lockstep

theorem tracks_update (statement : MappedStatement) :
    Tracks strict
      (fun s t => pipeline.Admits admits statement t.parameter ∧ Twins kin True apart due s t)
      (update pipeline statement) (update pipeline statement)
      (fun a b s t => (strict → a = b) ∧ Twins kin strict apart (due ++ [(t.parameter, b)]) s t)
      (Twins kin True apart due) := by
  have flushed : Tracks strict
      (fun s t => pipeline.Admits admits statement t.parameter ∧ Twins kin True apart due s t)
      (flushIfRequired statement) (flushIfRequired statement)
      (fun _ _ s t => pipeline.Admits admits statement t.parameter ∧ Twins kin True apart due s t)
      (fun s t => pipeline.Admits admits statement t.parameter ∧ Twins kin True apart due s t) :=
    (tracks_flushIfRequired statement).carry fun s t admitted => by
      rwa [flushIfRequired_parameter]
  exact (flushed.failing fun _ _ held => held.2).bind fun _ _ => Local.tracks_update lockstep statement

theorem tracks_rowsFor (statement : MappedStatement) (bounds : RowBounds) (key : CacheKey)
    (bound : BoundSql) (id : String) (admitted : admits ⟨statement, bound, bounds⟩) :
    Tracks strict (Twins kin alike apart due) (rowsFor pipeline statement bounds key bound id)
      (rowsFor pipeline statement bounds key bound id)
      (fun a b s t => a = b ∧ CalmTwins kin alike apart due s t) (CalmTwins kin alike apart due) := by
  have looked := @tracks_lookUp strict kin alike apart due id key
  refine (looked.failing fun _ _ twins => twins.calm).bind_same fun found => ?_
  cases found with
  | some hit => exact Tracks.pure fun s t twins => ⟨rfl, twins.calm⟩
  | none =>
      refine (Local.tracks_keyedQuery lockstep statement bounds key bound admitted).bind_same
        fun rows => ?_
      refine Tracks.whichever fun due' => Tracks.given fun calm => ?_
      have staged := (@tracks_setStaging strict kin alike apart due'
        (fun staging => staging.put id key (.rows rows))
        fun _ distinct => distinct.put id key (.rows rows)).failing fun s t twins =>
          (⟨due', calm, twins⟩ : CalmTwins kin alike apart due s t)
      have answered := staged.bind fun _ _ => @Tracks.pure _ _ _ _ strict _
        (CalmTwins kin alike apart due) (fun a b s t => a = b ∧ CalmTwins kin alike apart due s t)
        rows rows fun s t twins => ⟨rfl, due', calm, twins⟩
      simp only [Action.bind_assoc] at answered
      exact answered

theorem tracks_keyedQuery (statement : MappedStatement) (bounds : RowBounds) (key : CacheKey)
    (bound : BoundSql) (admitted : admits ⟨statement, bound, bounds⟩) :
    Tracks strict (Twins kin alike apart due) (keyedQuery pipeline statement bounds key bound)
      (keyedQuery pipeline statement bounds key bound)
      (fun a b s t => a = b ∧ CalmTwins kin alike apart due s t) (CalmTwins kin alike apart due) := by
  unfold keyedQuery
  cases statement.cache with
  | none => exact Local.tracks_keyedQuery lockstep statement bounds key bound admitted
  | some id =>
      have flushed := (@tracks_flushIfRequired strict kin alike apart due statement).failing
        fun _ _ twins => twins.calm
      cases statement.useCache with
      | true =>
          refine Tracks.same_bind _ (fun _ _ => ?_) fun _ _ twins => twins.calm
          exact flushed.bind fun _ _ => tracks_rowsFor lockstep statement bounds key bound id admitted
      | false =>
          exact flushed.bind fun _ _ =>
            Local.tracks_keyedQuery lockstep statement bounds key bound admitted

theorem tracks_queryCursor (statement : MappedStatement) (parameter : Value) (bounds : RowBounds)
    (admitted : pipeline.Admits admits statement parameter) :
    Tracks strict (Twins kin alike apart due) (queryCursor pipeline statement parameter bounds)
      (queryCursor pipeline statement parameter bounds)
      (fun a b s t => ∃ apart', a.Twins (apart' ++ apart) b ∧
        CalmTwins kin alike (apart' ++ apart) due s t)
      (Twins kin alike apart due) :=
  (tracks_flushIfRequired statement).bind fun _ _ =>
    Local.tracks_queryCursor lockstep statement parameter bounds admitted

theorem tracks_commit (recorded : pipeline.source = Recording.source) (required : Bool) :
    Tracks strict (Twins kin alike apart due) (commit pipeline required) (commit pipeline required)
      (fun _ _ => Twins kin alike apart []) (CalmTwins kin alike apart due) :=
  (Local.tracks_commit lockstep recorded required).bind fun _ _ =>
    tracks_publish.failing fun _ _ twins => ⟨[], .inr rfl, twins⟩

theorem tracks_rollback (recorded : pipeline.source = Recording.source) (isStrict : strict)
    (required : Bool) :
    Tracks strict (Twins kin alike apart due) (rollback pipeline required)
      (rollback pipeline required) (fun _ _ => Twins kin alike apart due)
      (Twins kin alike apart due) := by
  have rolled := @Local.tracks_rollback pipeline strict admits kin alike apart due lockstep recorded
    isStrict required
  exact rolled.ensuring (fun _ => rfl) (fun _ => rfl)
    (fun _ _ _ _ twins => twins.change (passive_setStaging Staging.distinct_nil))
    fun _ _ twins => twins.change (passive_setStaging Staging.distinct_nil)

theorem tracks_close (recorded : pipeline.source = Recording.source) (isStrict : strict)
    (required : Bool) :
    Tracks strict (Twins kin alike apart due) (close pipeline required) (close pipeline required)
      (fun _ _ => Twins kin alike apart due) (Twins kin alike apart due) := by
  have closed := @Local.tracks_close pipeline strict admits kin alike apart due lockstep recorded
    isStrict required
  unfold close
  cases required with
  | true =>
      refine Tracks.bind (Tracks.modify fun s t twins => ?_) fun _ _ => closed
      exact Scene.Twins.change twins (passive_setStaging Staging.distinct_nil)
  | false => exact tracks_publish.bind fun _ _ => closed

end Shared

include lockstep

theorem tracks_update (plain : pipeline.Plain) (statement : MappedStatement) :
    Tracks strict
      (fun s t => pipeline.Admits admits statement t.parameter ∧ Twins kin True apart due s t)
      (update pipeline statement) (update pipeline statement)
      (fun a b s t => (strict → a = b) ∧ Twins kin strict apart (due ++ [(t.parameter, b)]) s t)
      (Twins kin True apart due) := by
  rw [update, plain.call_eq]
  dsimp only [choose]
  split
  · exact Shared.tracks_update lockstep statement
  · exact Local.tracks_update lockstep statement

theorem tracks_query (plain : pipeline.Plain) (statement : MappedStatement) (parameter : Value)
    (bounds : RowBounds) (admitted : pipeline.Admits admits statement parameter) :
    Tracks strict (Twins kin alike apart due) (query pipeline statement parameter bounds)
      (query pipeline statement parameter bounds)
      (fun a b s t => a = b ∧ CalmTwins kin alike apart due s t) (CalmTwins kin alike apart due) := by
  rw [query, plain.call_eq]
  refine Tracks.same_bind _ (fun bound found => ?_) fun _ _ twins => twins.calm
  have keyed : Tracks strict (Twins kin alike apart due) (cacheKey pipeline statement bounds bound)
      (cacheKey pipeline statement bounds bound)
      (fun a b s t => a = b ∧ Twins kin alike apart due s t) (Twins kin alike apart due) :=
    tracks_ensureOpen.bind fun _ _ =>
      Tracks.same _ (fun key _ s t twins => ⟨rfl, twins⟩) fun _ _ => id
  refine (keyed.failing fun _ _ twins => twins.calm).bind_same fun key => ?_
  dsimp only [answerKeyed, choose]
  split
  · exact Shared.tracks_keyedQuery lockstep statement bounds key bound (admitted bound bounds found)
  · exact Local.tracks_keyedQuery lockstep statement bounds key bound (admitted bound bounds found)

theorem tracks_queryCursor (plain : pipeline.Plain) (statement : MappedStatement)
    (parameter : Value) (bounds : RowBounds)
    (admitted : pipeline.Admits admits statement parameter) :
    Tracks strict (Twins kin alike apart due) (queryCursor pipeline statement parameter bounds)
      (queryCursor pipeline statement parameter bounds)
      (fun a b s t => ∃ apart', a.Twins (apart' ++ apart) b ∧
        CalmTwins kin alike (apart' ++ apart) due s t)
      (Twins kin alike apart due) := by
  rw [queryCursor, plain.call_eq]
  dsimp only [choose]
  split
  · exact Shared.tracks_queryCursor lockstep statement parameter bounds admitted
  · exact Local.tracks_queryCursor lockstep statement parameter bounds admitted

theorem tracks_flush (plain : pipeline.Plain) :
    Tracks strict (Twins kin alike apart due) (flush pipeline) (flush pipeline)
      (fun a b s t => (strict → a = b) ∧ Twins kin alike apart [] s t)
      (Twins kin alike apart due) := by
  rw [flush, plain.call_eq]
  exact Local.tracks_flush lockstep

theorem tracks_commit (plain : pipeline.Plain) (recorded : pipeline.source = Recording.source)
    (required : Bool) :
    Tracks strict (Twins kin alike apart due) (commit pipeline required) (commit pipeline required)
      (fun _ _ => Twins kin alike apart []) (CalmTwins kin alike apart due) := by
  rw [commit, plain.call_eq]
  dsimp only [choose]
  split
  · exact Shared.tracks_commit lockstep recorded required
  · exact Local.tracks_commit lockstep recorded required

theorem tracks_rollback (plain : pipeline.Plain) (recorded : pipeline.source = Recording.source)
    (isStrict : strict) (required : Bool) :
    Tracks strict (Twins kin alike apart due) (rollback pipeline required)
      (rollback pipeline required) (fun _ _ => Twins kin alike apart due)
      (Twins kin alike apart due) := by
  rw [rollback, plain.call_eq]
  dsimp only [choose]
  split
  · exact Shared.tracks_rollback lockstep recorded isStrict required
  · exact Local.tracks_rollback lockstep recorded isStrict required

theorem tracks_close (recorded : pipeline.source = Recording.source) (isStrict : strict)
    (required : Bool) :
    Tracks strict (Twins kin alike apart due) (close pipeline required) (close pipeline required)
      (fun _ _ => Twins kin alike apart due) (Twins kin alike apart due) := by
  unfold close choose
  split
  · exact Shared.tracks_close lockstep recorded isStrict required
  · exact Local.tracks_close lockstep recorded isStrict required

end Executor

end MappedSql
