import MappedSql.Proofs.Execution.Beside

namespace MappedSql

open MappedSql.Action (Tracks)
open Scene (Twins)

variable {pipeline : Pipeline Recording} {admits : Handler → Prop}

def Kin.reuse (pipeline : Pipeline Recording) (admits : Handler → Prop) : Kin :=
  fun apart due strategy transaction s t =>
    ∃ held, Kin.abreast pipeline admits (.reuse held) held apart due strategy transaction s t

section

variable {alike : Prop} {apart : List StatementId} {due : List (Value × Nat)} {s t : Scene Recording}
  {held : List (String × StatementId)}

theorem twins_reuse_iff :
    Twins (Kin.reuse pipeline admits) alike apart due s t ↔
      ∃ held, Twins (Kin.abreast pipeline admits (.reuse held) held) alike apart due s t :=
  ⟨fun twins => twins.kin.elim fun held kin =>
      ⟨held, twins.sharing, twins.parameter, twins.executor, kin⟩,
    fun ⟨held, twins⟩ => ⟨twins.sharing, twins.parameter, twins.executor, held, twins.kin⟩⟩

theorem twins_reuse_of_abreast
    (twins : Twins (Kin.abreast pipeline admits (.reuse held) held) alike apart due s t) :
    Twins (Kin.reuse pipeline admits) alike apart due s t :=
  twins_reuse_iff.2 ⟨held, twins⟩

theorem twins_reuse_due (twins : Twins (Kin.reuse pipeline admits) alike apart due s t)
    (due' : List (Value × Nat)) : Twins (Kin.reuse pipeline admits) alike apart due' s t :=
  ⟨twins.sharing, twins.parameter, twins.executor, twins.kin⟩

theorem twins_reuse_closed {r : StatementId} {after : Recording}
    (twins : Twins (Kin.reuse pipeline admits) alike apart due s t)
    (closed : t.source.Closed r after) :
    Twins (Kin.reuse pipeline admits) alike apart due s (t.withSource after) := by
  obtain ⟨held, strategy, abreast⟩ := twins.kin
  exact ⟨twins.sharing, twins.parameter, twins.executor, held, strategy,
    abreast.drifts (.refl _ _) (closed.drifts trivial)
      (abreast.even.rowSources.trans closed.rowSources.symm)⟩

def AtHand (pipeline : Pipeline Recording) (admits : Handler → Prop) (handler : Handler) (alike : Prop)
    (apart : List StatementId) (due : List (Value × Nat))
    (known : StatementId → StatementId → Recording → Recording → Prop) (l r : StatementId)
    (s t : Scene Recording) : Prop :=
  ∃ held, (handler.bound.sql, l) ∈ held ∧
    Twins (Kin.abreast pipeline admits (.reuse held) held) alike apart due s t ∧
    known l r s.source t.source

namespace Strategy

variable {handler : Handler}

def acquireHeld (pipeline : Pipeline Recording) (handler : Handler) : Work Recording StatementId := do
  let held := (← Work.executor).strategy.held
  let source := (← get).source
  match (held.lookup handler.bound.sql).filter fun id => !pipeline.source.isClosed source id with
  | some statement => return statement
  | none =>
      let statement ← handler.prepareInTransaction pipeline
      hold pipeline handler.bound.sql statement
      return statement

theorem obtainHeld_eq (pipeline : Pipeline Recording) (handler : Handler) :
    obtainHeld pipeline handler = acquireHeld pipeline handler >>= fun statement =>
      handler.parameterize pipeline statement >>= fun _ => pure statement := by
  unfold obtainHeld acquireHeld
  rw [Action.bind_assoc]
  congr 1
  funext executor
  dsimp only
  rw [Action.bind_assoc]
  congr 1
  funext scene
  cases (executor.strategy.held.lookup handler.bound.sql).filter
      fun id => !pipeline.source.isClosed scene.source id with
  | some statement => rfl
  | none =>
      dsimp only
      rw [Action.bind_assoc]
      congr 1
      funext statement
      rw [Action.bind_assoc]
      rfl

theorem acquireHeld_apply (scene : Scene Recording) :
    acquireHeld pipeline handler scene =
      match (scene.executor.strategy.held.lookup handler.bound.sql).filter
          fun id => !pipeline.source.isClosed scene.source id with
      | some statement => (.ok statement, scene)
      | none => (handler.prepareInTransaction pipeline >>= fun statement =>
          hold pipeline handler.bound.sql statement >>= fun _ => pure statement) scene := by
  unfold acquireHeld
  rw [Action.bind_apply, Work.executor_apply]
  dsimp only
  rw [Action.bind_apply, Action.get_apply]
  dsimp only
  cases (scene.executor.strategy.held.lookup handler.bound.sql).filter
      fun id => !pipeline.source.isClosed scene.source id with
  | some statement => rfl
  | none => rfl

theorem hold_apply {scene : Scene Recording} {held : List (String × StatementId)} {sql : String}
    {st : StatementId} (own : scene.executor.strategy.held = held) (none : held.lookup sql = none) :
    hold pipeline sql st scene = (.ok (), { scene with
      executor := { scene.executor with
        strategy := .reuse ((sql, st) :: held.filter (·.1 != sql)) } }) := by
  unfold hold
  rw [Action.bind_apply, Work.executor_apply]
  dsimp only
  rw [own, none]
  rfl

variable (plain : pipeline.Plain) (recorded : pipeline.source = Recording.source)

section

variable (steady : Steady admits) (admitted : admits handler)

include plain recorded steady admitted

theorem tracks_takeHeld {l : StatementId} (mem : (handler.bound.sql, l) ∈ held) :
    Tracks True (Twins (Kin.abreast pipeline admits (.reuse held) held) alike apart due)
      (pure l) (handler.prepareInTransaction pipeline)
      (AtHand pipeline admits handler alike apart due (InHand pipeline handler))
      (Twins (Kin.reuse pipeline admits) alike apart due) := by
  intro s t twins
  obtain ⟨strategy, abreast⟩ := twins.kin
  have connections : t.source.connections = s.source.connections := abreast.even.connections.symm
  have connected : t.executor.transaction.Connected t.source.connections := by
    rw [twins.transaction, connections]
    exact abreast.connected (List.ne_nil_of_mem mem)
  obtain ⟨after, prepared, readied⟩ :=
    handler.prepareInTransaction_of_connected plain recorded connected
  have even : s.source.Even after.source := by
    have even := abreast.even
    exact ⟨even.script.trans readied.script.symm, even.log.trans readied.log.symm,
      even.nextKey.trans readied.nextKey.symm, even.connections.trans readied.connections.symm,
      even.rowSources.trans readied.rowSources.symm⟩
  rw [prepared]
  refine ⟨fun r done => ⟨l, rfl, held, mem, ⟨?_, fun alike => ?_, ?_, strategy, ?_⟩, ?_, ?_⟩,
    fun _ e no => by cases no⟩
  · rw [readied.scene]
    exact twins.sharing
  · rw [readied.scene]
    exact twins.parameter alike
  · rw [readied.scene]
    exact twins.executor
  · exact abreast.moved even rfl (Nat.le_refl _) fun _ _ _ => id
  · obtain ⟨other, admitted', sql, keeps⟩ := abreast.kept _ mem
    exact keeps.of_agrees (steady other handler admitted' admitted) sql
  · obtain rfl := Except.ok.inj done
    rw [readied.prepared]
    exact Handler.keeps_fresh _

omit steady in
theorem tracks_prepareHeld (none : held.lookup handler.bound.sql = none) :
    Tracks True (Twins (Kin.abreast pipeline admits (.reuse held) held) alike apart due)
      (handler.prepareInTransaction pipeline >>= fun l =>
        hold pipeline handler.bound.sql l >>= fun _ => pure l)
      (handler.prepareInTransaction pipeline)
      (AtHand pipeline admits handler alike apart due (InHand pipeline handler))
      (Twins (Kin.reuse pipeline admits) alike apart due) := by
  intro s t twins
  obtain ⟨goes, stops⟩ := handler.tracks_prepareInTransaction plain recorded s t twins
  rw [Action.bind_apply]
  rcases ran : handler.prepareInTransaction pipeline s with ⟨e' | l, after⟩ <;>
    rw [ran] at goes stops
  · refine ⟨fun r done => ?_, fun _ e failed => ?_⟩
    · obtain ⟨l, no, -⟩ := goes r done
      cases no
    · obtain ⟨same, still⟩ := stops trivial e failed
      exact ⟨same, twins_reuse_of_abreast still⟩
  · refine ⟨fun r done => ?_, fun _ e failed => ?_⟩
    · obtain ⟨l', same, ⟨unheld, unowned⟩, ⟨still, inHand⟩, connected⟩ := goes r done
      obtain rfl := Except.ok.inj same
      obtain ⟨strategy, abreast⟩ := still.kin
      have own : after.executor.strategy.held = held := by rw [strategy]; rfl
      dsimp only
      rw [Action.bind_apply, hold_apply own none]
      exact ⟨l, rfl, _, List.mem_cons_self, ⟨still.sharing, still.parameter, still.executor, rfl,
        abreast.holding admitted inHand.left unheld unowned connected⟩, inHand⟩
    · obtain ⟨no, -⟩ := stops trivial e failed
      cases no

theorem tracks_acquireHeld :
    Tracks True (Twins (Kin.reuse pipeline admits) alike apart due) (acquireHeld pipeline handler)
      (handler.prepareInTransaction pipeline)
      (AtHand pipeline admits handler alike apart due (InHand pipeline handler))
      (Twins (Kin.reuse pipeline admits) alike apart due) := by
  intro s t twins
  obtain ⟨held, twins⟩ := twins_reuse_iff.1 twins
  obtain ⟨strategy, abreast⟩ := twins.kin
  have own : s.executor.strategy.held = held := by rw [strategy]; rfl
  rw [acquireHeld_apply, own]
  cases found : held.lookup handler.bound.sql with
  | some l =>
      have mem : (handler.bound.sql, l) ∈ held := by
        obtain ⟨before, after, split, -⟩ := List.lookup_eq_some_iff.1 found
        simp [split]
      have alive : pipeline.source.isClosed s.source l = false := by
        rw [recorded]
        exact abreast.isOpen mem
      have stays : (some l).filter (fun id => !pipeline.source.isClosed s.source id) = some l := by
        simp [Option.filter, alive]
      rw [stays]
      exact tracks_takeHeld plain recorded steady admitted mem s t twins
  | none => exact tracks_prepareHeld plain recorded admitted found s t twins

end

section

include plain recorded

theorem tracks_parameterizeHeld (admitted : admits handler) (l r : StatementId) :
    Tracks True (AtHand pipeline admits handler alike apart due (InHand pipeline handler) l r)
      (handler.parameterize pipeline l) (handler.parameterize pipeline r)
      (fun _ _ => AtHand pipeline admits handler alike apart due (Loaded pipeline handler) l r)
      (Twins (Kin.reuse pipeline admits) alike apart due) := by
  rintro s t ⟨held, mem, twins, inHand⟩
  obtain ⟨strategy, abreast⟩ := twins.kin
  have fits (sql : String) (mem' : (sql, l) ∈ held) : admits handler ∧ handler.bound.sql = sql :=
    ⟨admitted, congrArg Prod.fst (abreast.held_unique mem mem' rfl)⟩
  obtain ⟨goes, stops⟩ := handler.tracks_parameterize plain recorded fits s t ⟨twins, inHand⟩
  refine ⟨fun b done => ?_, fun _ e failed => ?_⟩
  · obtain ⟨a, ran, still, loaded⟩ := goes b done
    exact ⟨a, ran, held, mem, still, loaded⟩
  · obtain ⟨ran, still⟩ := stops trivial e failed
    exact ⟨ran, twins_reuse_of_abreast still⟩

end

section

include recorded

theorem tracks_withStatementHeld {α : Type} {pre : Scene Recording → Scene Recording → Prop}
    {r : StatementId} {left right : Work Recording α}
    (tracks : Tracks True pre left right
      (fun a b s t => a = b ∧ Twins (Kin.reuse pipeline admits) alike apart due s t)
      (Twins (Kin.reuse pipeline admits) alike apart due)) :
    Tracks True pre left (withStatement pipeline r right)
      (fun a b s t => a = b ∧ Twins (Kin.reuse pipeline admits) alike apart due s t)
      (Twins (Kin.reuse pipeline admits) alike apart due) := by
  intro s t held
  obtain ⟨goes, stops⟩ := tracks s t held
  obtain ⟨after, closed, used⟩ := withStatement_apply recorded r right t
  rw [used]
  refine ⟨fun b done => ?_, fun isStrict e failed => ?_⟩
  · obtain ⟨a, ran, same, twins⟩ := goes b done
    exact ⟨a, ran, same, twins_reuse_closed twins closed⟩
  · obtain ⟨ran, twins⟩ := stops isStrict e failed
    exact ⟨ran, twins_reuse_closed twins closed⟩

theorem closeHeld_apply (held : List (String × StatementId)) (scene : Scene Recording) :
    ∃ after, closeHeld pipeline held scene = (.ok (), scene.withSource after) ∧
      scene.source.Drifts (· ∈ held.map Prod.snd) after ∧
      after.rowSources = scene.source.rowSources := by
  induction held generalizing scene with
  | nil => exact ⟨scene.source, rfl, .refl _ _, rfl⟩
  | cons entry rest ih =>
      obtain ⟨middle, closed, quiet⟩ := closeQuietly_apply recorded entry.2 scene
      obtain ⟨after, closes, drifts, rows⟩ := ih (scene.withSource middle)
      refine ⟨after, ?_, ?_, rows.trans closed.rowSources⟩
      · rw [closeHeld, Action.bind_apply, quiet]
        exact closes
      · exact (closed.drifts List.mem_cons_self).trans (drifts.mono fun st mem => .tail _ mem)

theorem tracks_flush_reuse (givingUp : Bool) (due' : List (Value × Nat)) :
    Tracks True (Twins (Kin.reuse pipeline admits) alike apart due) (flush pipeline givingUp)
      (flush pipeline givingUp)
      (fun a b s t => a = b ∧ Twins (Kin.reuse pipeline admits) alike apart due' s t ∧
        s.executor.strategy.held = [])
      (fun s t => Twins (Kin.reuse pipeline admits) alike apart due s t ∧
        s.executor.strategy.held = []) := by
  refine Tracks.through fun s t twins => ?_
  obtain ⟨held, strategy, abreast⟩ := twins.kin
  obtain ⟨after, closes, drifts, rows⟩ := closeHeld_apply recorded held
    { s with executor := { s.executor with strategy := .reuse [] } }
  have left : flush pipeline givingUp s = (.ok [],
      { s with source := after, executor := { s.executor with strategy := .reuse [] } }) := by
    have set : Work.setStrategy (.reuse []) s =
        (.ok (), { s with executor := { s.executor with strategy := .reuse [] } }) := rfl
    rw [flush_apply, strategy]
    dsimp only
    rw [Action.bind_apply, set]
    dsimp only
    rw [Action.bind_apply, closes]
    rfl
  have right : flush pipeline givingUp t = (.ok [], t) := by
    rw [flush_apply, twins.strategy]
  rw [left, right]
  exact ⟨[], [], rfl, rfl, rfl, ⟨twins.sharing, twins.parameter, twins.executor, [], rfl,
    abreast.letGo drifts rows⟩, rfl⟩

end

section

variable (steady : Steady admits) (admitted : admits handler)

include plain recorded steady admitted

theorem tracks_updateHeld :
    Tracks True (Twins (Kin.reuse pipeline admits) True apart due) (updateHeld pipeline handler)
      (updateOnce pipeline handler)
      (fun a b s t => a = b ∧ Twins (Kin.reuse pipeline admits) True apart due s t)
      (Twins (Kin.reuse pipeline admits) True apart due) := by
  unfold updateHeld updateOnce
  rw [obtainHeld_eq, Action.bind_assoc]
  refine (tracks_acquireHeld plain recorded steady admitted).bind fun l r =>
    tracks_withStatementHeld recorded ?_
  rw [Action.bind_assoc]
  refine (tracks_parameterizeHeld plain recorded admitted l r).bind fun _ _ =>
    Tracks.whichever fun held => Tracks.given fun _ => ?_
  exact (handler.tracks_update plain recorded).weaken (fun _ _ => id)
    (fun _ _ _ _ done => ⟨done.1, twins_reuse_of_abreast done.2⟩)
    (fun _ _ => twins_reuse_of_abreast) id

theorem tracks_queryHeld :
    Tracks True (Twins (Kin.reuse pipeline admits) alike apart due) (queryHeld pipeline handler)
      (queryOnce pipeline handler)
      (fun a b s t => a = b ∧ Twins (Kin.reuse pipeline admits) alike apart due s t)
      (Twins (Kin.reuse pipeline admits) alike apart due) := by
  unfold queryHeld queryOnce
  rw [obtainHeld_eq, Action.bind_assoc]
  refine (tracks_acquireHeld plain recorded steady admitted).bind fun l r =>
    tracks_withStatementHeld recorded ?_
  rw [Action.bind_assoc]
  refine (tracks_parameterizeHeld plain recorded admitted l r).bind fun _ _ =>
    Tracks.whichever fun held => Tracks.given fun _ => ?_
  exact (handler.tracks_query plain recorded).weaken (fun _ _ => id)
    (fun _ _ _ _ done => ⟨done.1, twins_reuse_of_abreast done.2⟩)
    (fun _ _ => twins_reuse_of_abreast) id

omit steady admitted in
theorem tracks_releaseHeld (l r : StatementId) :
    Tracks True (AtHand pipeline admits handler alike apart due (Loaded pipeline handler) l r)
      (pure l >>= fun st => Work.executor >>= fun executor =>
        Work.setStrategy (.reuse (executor.strategy.held.filter (·.1 != handler.bound.sql))) >>=
          fun _ => handler.queryCursor pipeline st)
      (handler.queryCursor pipeline r)
      (fun a b s t => a.Twins (l :: apart) b ∧
        Twins (Kin.reuse pipeline admits) alike (l :: apart) due s t)
      (Twins (Kin.reuse pipeline admits) alike apart due) := by
  rintro s t ⟨held, mem, twins, loaded⟩
  obtain ⟨strategy, abreast⟩ := twins.kin
  have own : s.executor.strategy.held = held := by rw [strategy]; rfl
  have set (strategy : Strategy) : Work.setStrategy strategy s =
      (.ok (), { s with executor := { s.executor with strategy := strategy } }) := rfl
  simp only [Action.bind_apply, Action.pure_apply, Work.executor_apply, own, set]
  obtain ⟨still, unheld⟩ := abreast.released mem
  have released : Twins (Kin.abreast pipeline admits
      (.reuse (held.filter (·.1 != handler.bound.sql))) (held.filter (·.1 != handler.bound.sql)))
      alike apart due { s with executor := { s.executor with
        strategy := .reuse (held.filter (·.1 != handler.bound.sql)) } } t :=
    ⟨twins.sharing, twins.parameter, twins.executor, rfl, still⟩
  obtain ⟨goes, stops⟩ := handler.tracks_queryCursor plain recorded unheld _ t ⟨released, loaded⟩
  refine ⟨fun b done => ?_, fun _ e failed => ?_⟩
  · obtain ⟨a, ran, cursor, twins⟩ := goes b done
    exact ⟨a, ran, cursor, twins_reuse_of_abreast twins⟩
  · obtain ⟨ran, twins⟩ := stops trivial e failed
    exact ⟨ran, twins_reuse_of_abreast twins⟩

theorem tracks_openHeld :
    Tracks True (Twins (Kin.reuse pipeline admits) alike apart due) (openHeld pipeline handler)
      (openOnce pipeline handler)
      (fun a b s t => ∃ l, a.Twins (l :: apart) b ∧
        Twins (Kin.reuse pipeline admits) alike (l :: apart) due s t)
      (Twins (Kin.reuse pipeline admits) alike apart due) := by
  unfold openHeld openOnce
  rw [obtainHeld_eq, Action.bind_assoc]
  refine (tracks_acquireHeld plain recorded steady admitted).bind fun l r => ?_
  rw [Action.bind_assoc]
  refine (tracks_parameterizeHeld plain recorded admitted l r).bind_attempt (fun _ _ => ?_) ?_
  · exact (tracks_releaseHeld plain recorded l r).weaken (fun _ _ => id)
      (fun _ _ _ _ opened => ⟨l, opened⟩) (fun _ _ => id) id
  · intro e s t twins
    obtain ⟨after, closed, quiet⟩ := closeQuietly_apply recorded r t
    dsimp only
    rw [Action.bind_apply, quiet]
    exact ⟨rfl, twins_reuse_closed twins closed⟩

end

end Strategy

open Strategy in
/-- Statements that are held are run in lockstep with those that are not, if invocations of the same SQL
agree on what a statement is prepared with. -/
theorem lockstep_reuse (plain : pipeline.Plain) (recorded : pipeline.source = Recording.source)
    (steady : Steady admits) : Lockstep pipeline True admits (Kin.reuse pipeline admits) where
  rowSources := fun ⟨_, _, abreast⟩ => abreast.even.rowSources
  connections := fun ⟨_, _, abreast⟩ => abreast.even.connections
  drifts := fun ⟨held, strategy, abreast⟩ own other rows =>
    ⟨held, strategy, abreast.drifts_apart own other rows⟩
  update := by
    rintro apart due statement s t ⟨admitted, twins⟩
    obtain ⟨held, strategy, -⟩ := twins.kin
    have same := twins.parameter trivial
    cases found : statement.boundSql t.parameter pipeline.setting with
    | error e =>
        rw [update_of_unbound found, update_of_unbound (same ▸ found)]
        exact ⟨fun b no => (by cases no), fun _ e failed => ⟨failed, twins⟩⟩
    | ok bound =>
        rw [update_of_bound found, update_of_bound (same ▸ found), strategy, twins.strategy]
        obtain ⟨goes, stops⟩ := tracks_updateHeld plain recorded steady
          (admitted bound .unbounded found) s t twins
        refine ⟨fun b done => ?_, stops⟩
        obtain ⟨a, ran, same, twins⟩ := goes b done
        exact ⟨a, ran, fun _ => same, twins_reuse_due twins _⟩
  query := by
    intro alike apart due handler admitted s t twins
    obtain ⟨held, strategy, -⟩ := twins.kin
    rw [query_apply, query_apply, strategy, twins.strategy]
    obtain ⟨goes, stops⟩ := tracks_queryHeld plain recorded steady admitted s t twins
    refine ⟨fun b done => ?_, stops⟩
    obtain ⟨a, ran, same, twins⟩ := goes b done
    exact ⟨a, ran, same, due, .refl due, twins⟩
  openCursor := by
    intro alike apart due handler admitted s t twins
    obtain ⟨held, strategy, -⟩ := twins.kin
    rw [openCursor_apply, openCursor_apply, strategy, twins.strategy]
    obtain ⟨goes, stops⟩ := tracks_openHeld plain recorded steady admitted s t twins
    refine ⟨fun b done => ?_, stops⟩
    obtain ⟨a, ran, l, cursor, twins⟩ := goes b done
    exact ⟨a, ran, [l], due, cursor, .refl due, twins⟩
  flush := fun alike apart due => (tracks_flush_reuse recorded false []).weaken (fun _ _ => id)
    (fun _ _ _ _ held => ⟨fun _ => held.1, held.2.1⟩) (fun _ _ => And.left) id
  giveUp := fun _ alike apart due => tracks_flush_reuse recorded true due
  -- a unit of work that ends has let go of all it held
  ends := by
    rintro - apart due strategy transaction s t ⟨held, rfl, abreast⟩ nothing transaction' connections
    obtain rfl : held = [] := nothing
    have even := abreast.even
    exact ⟨[], rfl, ⟨even.script, even.log, even.nextKey, rfl, even.rowSources⟩, abreast.kept,
      abreast.distinct, abreast.foreign, fun some => absurd rfl some⟩

end

end MappedSql
