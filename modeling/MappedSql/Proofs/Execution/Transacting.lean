import MappedSql.Proofs.Execution.Reading
import MappedSql.Proofs.Execution.Steps

namespace MappedSql

open MappedSql.Action (Accomplishes)

variable {τ α : Type}

namespace Transaction

variable (source : DataSource τ)

def Sound (state : τ × Transaction) : Prop :=
  ∀ c, state.2.connection = some c → source.isAutocommit state.1 c = state.2.autocommit

structure Carries (before : τ × Transaction) (deeds : List Deed) (after : τ × Transaction) : Prop where
  autocommit : after.2.autocommit = before.2.autocommit
  closed : after.2.closed = before.2.closed
  opens : (Deed.asked τ deeds).countP Event.opens + before.2.connection.isSome.toNat =
    after.2.connection.isSome.toNat
  barred : before.2.closed = true → Event.Without Operation.begins (Deed.asked τ deeds)
  sound : source.KeepsModes → Sound source before → Sound source after
  calm : source.KeepsModes → Sound source before → before.2.autocommit = true →
    Event.Without Operation.settles (Deed.asked τ deeds)
  stays : Event.Without Operation.isCloseConnection (Deed.asked τ deeds)

variable {source}

namespace Carries

theorem append {first second third : τ × Transaction} {deeds more : List Deed}
    (left : Carries source first deeds second) (right : Carries source second more third) :
    Carries source first (deeds ++ more) third where
  autocommit := right.autocommit.trans left.autocommit
  closed := right.closed.trans left.closed
  opens := by
    rw [Deed.asked_append, List.countP_append, ← right.opens, ← left.opens]
    omega
  barred := fun closed => by
    rw [Deed.asked_append]
    exact List.forall_mem_append.2 ⟨left.barred closed, right.barred (left.closed.trans closed)⟩
  sound := fun keeps sound => right.sound keeps (left.sound keeps sound)
  calm := fun keeps sound automatic => by
    rw [Deed.asked_append]
    exact List.forall_mem_append.2 ⟨left.calm keeps sound automatic,
      right.calm keeps (left.sound keeps sound) (left.autocommit.trans automatic)⟩
  stays := by
    rw [Deed.asked_append]
    exact List.forall_mem_append.2 ⟨left.stays, right.stays⟩

theorem of_asking {kind : Operation → Bool}
    (aside : ∀ operation, kind operation = true → operation.aside = true)
    {before after : τ} {deeds : List Deed} (transaction : Transaction)
    (asking : Asking source kind before deeds after) :
    Carries source (before, transaction) deeds (after, transaction) := by
  have begins : Event.Without Operation.begins (Deed.asked τ deeds) :=
    asking.kind.without fun operation is => Operation.begins_of_aside (aside operation is)
  exact
    { autocommit := rfl
      closed := rfl
      opens := by rw [begins.connects.countP_opens, Nat.zero_add]
      barred := fun _ => begins
      sound := fun keeps sound c held => (congrFun (asking.mode keeps) c).trans (sound c held)
      calm := fun _ _ _ => asking.kind.without fun operation is =>
        Operation.settles_of_aside (aside operation is)
      stays := asking.kind.without fun operation is => Operation.stays_of_aside (aside operation is) }

theorem of_reads {before after : τ} {deeds : List Deed} (transaction : Transaction)
    (asking : Asking source Operation.reads before deeds after) :
    Carries source (before, transaction) deeds (after, transaction) := by
  refine of_asking (fun operation is => ?_) transaction asking
  cases operation <;> first | rfl | cases is

theorem quiet {before after : τ} (transaction : Transaction)
    (mode : source.KeepsModes → source.isAutocommit after = source.isAutocommit before) :
    Carries source (before, transaction) [] (after, transaction) :=
  of_asking (fun _ (is : false = true) => nomatch is) transaction (.quiet mode)

theorem performs {before after : τ × Transaction} {inner : List Deed} (method : Method)
    (carries : Carries source before inner after) :
    Carries source before [.performs method inner] after := by
  have same : Deed.asked τ [.performs method inner] = Deed.asked τ inner := by
    rw [Deed.asked_performs]
    exact List.append_nil _
  exact
    { carries with
      opens := same ▸ carries.opens
      barred := same ▸ carries.barred
      calm := same ▸ carries.calm
      stays := same ▸ carries.stays }

theorem begins {before after : τ × Transaction} {operation : Operation} {answered : Bool}
    (open' : before.2.closed = false) (begins : operation.begins = true)
    (autocommit : after.2.autocommit = before.2.autocommit)
    (closed : after.2.closed = before.2.closed)
    (opens : (operation.isConnect && answered).toNat + before.2.connection.isSome.toNat =
      after.2.connection.isSome.toNat)
    (sound : source.KeepsModes → Sound source before → Sound source after) :
    Carries source before [.asks operation answered] after where
  autocommit := autocommit
  closed := closed
  opens := by
    rw [Deed.asked_asks, ← opens, List.countP_cons]
    show 0 + (if (operation.isConnect && answered) = true then 1 else 0) + _ = _
    cases operation.isConnect && answered <;> rfl
  barred := fun closed => absurd (open'.symm.trans closed) Bool.false_ne_true
  sound := sound
  calm := fun _ _ _ event mem => by
    obtain rfl := List.mem_singleton.1 mem
    cases operation <;> first | rfl | cases begins
  stays := fun event mem => by
    obtain rfl := List.mem_singleton.1 mem
    cases operation <;> first | rfl | cases begins

theorem settles {before after : τ} {transaction : Transaction} {c : ConnectionId}
    {operation : Operation} {answered : Bool}
    (manual : transaction.manual? source before = some c) (settles : operation.settles = true)
    (mode : source.KeepsModes → source.isAutocommit after = source.isAutocommit before) :
    Carries source (before, transaction) [.asks operation answered] (after, transaction) where
  autocommit := rfl
  closed := rfl
  opens := by
    have other : operation.isConnect = false := by
      cases operation <;> first | rfl | cases settles
    simp [Deed.asked_asks, Event.opens, other, Deed.eventsOf]
  barred := fun _ event mem => by
    obtain rfl := List.mem_singleton.1 mem
    cases operation <;> first | rfl | cases settles
  sound := fun keeps sound c held => (congrFun (mode keeps) c).trans (sound c held)
  calm := fun keeps sound automatic => by
    obtain ⟨held, differs⟩ := Option.filter_eq_some_iff.1 manual
    rw [sound c held, automatic] at differs
    cases differs
  stays := fun event mem => by
    obtain rfl := List.mem_singleton.1 mem
    cases operation <;> first | rfl | cases settles

end Carries

variable (source)

def AtMost (kind : Operation → Bool) (deeds : List Deed) : Prop :=
  deeds = [] ∨ ∃ operation answered, deeds = [.asks operation answered] ∧ kind operation = true

theorem AtMost.fits {kind : Operation → Bool} {deeds : List Deed} {parent : Option Method}
    (most : AtMost kind deeds) (allowed : ∀ operation, kind operation = true →
      operation.under parent = true ∧ operation.leadsTo = none) : Deed.Fits parent deeds := by
  obtain rfl | ⟨operation, answered, rfl, is⟩ := most
  · exact .nil
  · exact .asks (allowed operation is).1 (fun _ => (allowed operation is).2) .nil

theorem accomplishes_obtain :
    Accomplishes (besides Traced.mk)
      (fun before deeds after =>
        AtMost Operation.isConnect deeds ∧ Carries source before deeds after)
      fun _ : Chain (Traced τ) => obtain (Traced.around source) := by
  rintro ⟨state, transaction⟩
  cases closed : transaction.closed with
  | true =>
      refine ⟨.error (.of (.closed "transaction already closed")), (state, transaction), [],
        ⟨.inl rfl, .quiet _ fun _ => rfl⟩, fun chain _ trace => ?_⟩
      rw [Deed.eventsOf, List.append_nil]
      exact obtain_of_closed closed
  | false =>
      cases own : transaction.connection with
      | some c =>
          refine ⟨.ok c, (state, transaction), [], ⟨.inl rfl, .quiet _ fun _ => rfl⟩,
            fun chain _ trace => ?_⟩
          rw [Deed.eventsOf, List.append_nil]
          exact obtain_of_connected closed own
      | none =>
          have asked (trace : List Event) : (Traced.around source).connect transaction.autocommit
              ⟨state, trace⟩ = ((source.connect transaction.autocommit state).1,
                ⟨(source.connect transaction.autocommit state).2,
                  trace ++ [.asked (.connect transaction.autocommit)
                    (source.connect transaction.autocommit state).1.isOk]⟩) := rfl
          rcases went : source.connect transaction.autocommit state with ⟨e | c, after⟩
          · refine ⟨.error e, (after, transaction), [.asks (.connect transaction.autocommit) false],
              ⟨.inr ⟨_, _, rfl, rfl⟩, .begins closed rfl rfl rfl (Nat.zero_add _) fun _ _ c held => ?_⟩,
              fun chain _ trace => ?_⟩
            · exact (Option.some_ne_none _ (held.symm.trans own)).elim
            · refine obtain_of_refused closed own ((asked trace).trans ?_)
              rw [went]
              rfl
          · refine ⟨.ok c, (after, { transaction with connection := some c }),
              [.asks (.connect transaction.autocommit) true],
              ⟨.inr ⟨_, _, rfl, rfl⟩, .begins closed rfl rfl rfl ?_ fun keeps _ other held => ?_⟩,
              fun chain _ trace => ?_⟩
            · rw [own]
              rfl
            · cases held
              exact keeps.connected _ _ _ _ went
            · refine obtain_of_opened closed own ((asked trace).trans ?_)
              rw [went]
              rfl

theorem accomplishes_settle {kind : Operation → Bool} (operation : ConnectionId → Operation)
    {ends : ConnectionId → Action τ Unit} {act : Action (Traced τ × Transaction) Unit}
    (is : ∀ c, kind (operation c) = true) (settles : ∀ c, (operation c).settles = true)
    (mode : source.KeepsModes → ∀ c state,
      source.isAutocommit (ends c state).2 = source.isAutocommit state)
    (acts : ∀ state trace transaction, act (⟨state, trace⟩, transaction) =
      match transaction.manual? source state with
      | some c => ((ends c state).1,
          (⟨(ends c state).2, trace ++ [.asked (operation c) (ends c state).1.isOk]⟩, transaction))
      | none => (.ok (), (⟨state, trace⟩, transaction))) :
    Accomplishes (besides Traced.mk)
      (fun before deeds after => AtMost kind deeds ∧ Carries source before deeds after)
      fun _ : Chain (Traced τ) => act := by
  rintro ⟨state, transaction⟩
  cases own : transaction.manual? source state with
  | none =>
      refine ⟨.ok (), (state, transaction), [], ⟨.inl rfl, .quiet _ fun _ => rfl⟩,
        fun chain _ trace => ?_⟩
      refine (acts state trace transaction).trans ?_
      rw [own, Deed.eventsOf, List.append_nil]
      rfl
  | some c =>
      refine ⟨(ends c state).1, ((ends c state).2, transaction), [.asks (operation c) _],
        ⟨.inr ⟨operation c, (ends c state).1.isOk, rfl, is c⟩,
          .settles own (settles c) fun keeps => mode keeps c state⟩, fun chain _ trace => ?_⟩
      refine (acts state trace transaction).trans ?_
      rw [own]
      rfl

theorem accomplishes_commit :
    Accomplishes (besides Traced.mk)
      (fun before deeds after => AtMost Operation.isCommit deeds ∧ Carries source before deeds after)
      fun _ : Chain (Traced τ) => commit (Traced.around source) := by
  refine accomplishes_settle source .commit (fun _ => rfl) (fun _ => rfl)
    (fun keeps c => keeps.asked (.commit c) rfl) fun state trace transaction => ?_
  have manual : transaction.manual? (Traced.around source) ⟨state, trace⟩ =
      transaction.manual? source state := rfl
  simp only [commit, Action.bind_apply, Action.get_apply, manual]
  cases transaction.manual? source state <;> rfl

theorem accomplishes_rollback :
    Accomplishes (besides Traced.mk)
      (fun before deeds after =>
        AtMost Operation.isRollback deeds ∧ Carries source before deeds after)
      fun _ : Chain (Traced τ) => rollback (Traced.around source) := by
  refine accomplishes_settle source .rollback (fun _ => rfl) (fun _ => rfl)
    (fun keeps c => keeps.asked (.rollback c) rfl) fun state trace transaction => ?_
  have manual : transaction.manual? (Traced.around source) ⟨state, trace⟩ =
      transaction.manual? source state := rfl
  simp only [rollback, Action.bind_apply, Action.get_apply, manual]
  cases transaction.manual? source state <;> rfl

end Transaction

/-- The pipeline of a configuration over a data source that keeps a trace. -/
abbrev Pipeline.traced (source : DataSource τ) (configuration : Configuration (Traced τ))
    (chain : Chain (Traced τ)) : Pipeline (Traced τ) :=
  Pipeline.under ⟨configuration, Traced.around source, []⟩ chain

open Transaction (Carries)

structure Scene.Serves (source : DataSource τ) (parent : Option Method) (before : Scene τ)
    (deeds : List Deed) (after : Scene τ) : Prop where
  fits : Deed.Fits parent deeds
  carries : Carries source (before.source, before.executor.transaction) deeds
    (after.source, after.executor.transaction)
  closed : after.executor.closed = before.executor.closed

namespace Scene.Serves

variable {source : DataSource τ} {parent : Option Method}

theorem composes : Composes (Serves source parent) where
  nil := fun _ => ⟨.nil, .quiet _ fun _ => rfl, rfl⟩
  append := fun first second => ⟨first.fits.append second.fits, first.carries.append second.carries,
    second.closed.trans first.closed⟩

theorem performs {before after : Scene τ} {inner : List Deed} {method : Method}
    (belongs : method.under parent = true) (inside : Serves source (some method) before inner after) :
    Serves source parent before [.performs method inner] after :=
  ⟨.performs belongs inside.fits .nil, inside.carries.performs method, inside.closed⟩

end Scene.Serves

namespace Action.Accomplishes

variable {act : Chain (Traced τ) → Action (Traced τ) α}

theorem onDatabase {told : τ → List Deed → τ → Prop} (accomplishes : Accomplishes Traced.mk told act) :
    Accomplishes Scene.traced
      (fun before deeds after => told before.source deeds after.source ∧
        after.executor = before.executor)
      fun chain => Work.onSource (act chain) :=
  accomplishes.within Scene.source (fun scene source => { scene with source := source })
    (fun _ _ => rfl) (fun _ _ _ _ => rfl) fun known => ⟨known, rfl⟩

theorem onTransaction {told : τ × Transaction → List Deed → τ × Transaction → Prop}
    {act : Chain (Traced τ) → Action (Traced τ × Transaction) α}
    (accomplishes : Accomplishes (besides Traced.mk) told act) :
    Accomplishes Scene.traced
      (fun before deeds after =>
        told (before.source, before.executor.transaction) deeds
          (after.source, after.executor.transaction) ∧
        after.executor.closed = before.executor.closed)
      fun chain => Work.onTransaction (act chain) :=
  accomplishes.within (fun scene => (scene.source, scene.executor.transaction))
    (fun scene held =>
      { scene with
        source := held.1
        executor := { scene.executor with transaction := held.2 } })
    (fun _ _ => rfl) (fun _ _ _ _ => rfl) fun known => ⟨known, rfl⟩

end Action.Accomplishes

namespace Scene

variable {source : DataSource τ} {parent : Option Method}

def Begins (source : DataSource τ) (parent : Option Method) (before : Scene τ) (deeds : List Deed)
    (after : Scene τ) : Prop :=
  before.executor.transaction.closed = false → before.Serves source parent deeds after

theorem composes_begins : Composes (Begins source parent) where
  nil := fun state _ => Serves.composes.nil state
  append := fun first second isOpen =>
    Serves.composes.append (first isOpen) (second ((first isOpen).carries.closed.trans isOpen))

variable {configuration : Configuration (Traced τ)}

variable (configuration) in
theorem begins_prepare (handler : Handler) (serves : serving.contains parent = true)
    (connection : ConnectionId) (timeout : Option Nat) :
    Accomplishes Scene.traced (Begins source parent) fun chain =>
      handler.prepare (Pipeline.traced source configuration chain)
        connection timeout := by
  let pipeline : Pipeline (Traced τ) := ⟨configuration, Traced.around source, []⟩
  let operation : Operation :=
    .prepare connection (handler.preparedSql pipeline) (handler.prepareOptions pipeline timeout)
  have asked : Accomplishes Traced.mk
      (fun before deeds after => ∃ answered, deeds = [.asks operation answered] ∧
        (source.KeepsModes → source.isAutocommit after = source.isAutocommit before))
      fun _ : Chain (Traced τ) => (Traced.around source).ask operation :=
    Action.accomplishes_ask source operation fun state =>
      ⟨_, rfl, fun keeps => keeps.asked operation rfl state⟩
  have inside : Accomplishes Scene.traced (Begins source (some .prepare)) fun chain =>
      handler.prepareOn (pipeline.under chain) connection timeout := by
    refine (asked.onDatabase.inContext s!"Error preparing statement `{handler.statement.id}`").mono ?_
    rintro before _ after ⟨⟨answered, rfl, mode⟩, same⟩ isOpen
    refine ⟨.asks rfl (fun _ => rfl) .nil, ?_, congrArg Executor.closed same⟩
    rw [same]
    exact .begins isOpen rfl rfl rfl (Nat.zero_add _) fun keeps sound c held =>
      (congrFun (mode keeps) c).trans (sound c held)
  refine (Accomplishes.performs Shape.faithful_statement rfl inside).mono ?_
  rintro before _ after ⟨inner, rfl, known⟩ isOpen
  exact (known isOpen).performs serves

theorem prepareInTransaction_of_closed {σ : Type} (pipeline : Pipeline σ) (handler : Handler)
    {scene : Scene σ} (closed : scene.executor.transaction.closed = true) :
    handler.prepareInTransaction pipeline scene =
      (.error (.of (.closed "transaction already closed")), scene) := by
  have obtained : Work.onTransaction (Transaction.obtain pipeline.source) scene =
      (.error (.of (.closed "transaction already closed")), scene) := by
    rw [Work.onTransaction, Action.within, obtain_of_closed closed]
  rw [Handler.prepareInTransaction, Action.bind_apply, Work.executor_apply]
  dsimp only
  rw [Action.bind_apply, obtained]

theorem serves_prepareInTransaction (handler : Handler) (serves : serving.contains parent = true) :
    Accomplishes Scene.traced (Serves source parent) fun chain =>
      handler.prepareInTransaction
        (Pipeline.traced source configuration chain) := by
  have obtained : Accomplishes Scene.traced (Begins source parent) fun _ : Chain (Traced τ) =>
      Work.onTransaction (Transaction.obtain (Traced.around source)) := by
    refine (Transaction.accomplishes_obtain source).onTransaction.mono ?_
    rintro before deeds after ⟨⟨most, carries⟩, same⟩ -
    refine ⟨most.fits fun operation is => ?_, carries, same⟩
    cases operation <;> first | exact ⟨serves, rfl⟩ | cases is
  have looked : Accomplishes Scene.traced (Begins source parent) fun _ : Chain (Traced τ) =>
      Work.executor :=
    .idle Work.executor (fun _ _ => rfl) composes_begins.nil
  have begins := looked.bind composes_begins fun executor =>
    obtained.bind composes_begins fun connection =>
      begins_prepare configuration handler serves connection
        executor.transaction.timeout
  intro scene
  cases closed : scene.executor.transaction.closed with
  | true =>
      refine ⟨.error (.of (.closed "transaction already closed")), scene, [],
        Serves.composes.nil scene, fun chain _ trace => ?_⟩
      rw [Deed.eventsOf, List.append_nil]
      exact prepareInTransaction_of_closed _ handler closed
  | false =>
      obtain ⟨result, after, deeds, known, same⟩ := begins scene
      exact ⟨result, after, deeds, known closed, same⟩

theorem serves_idle {act : Work (Traced τ) α} (bare : Work τ α)
    (same : ∀ scene trace, act (Scene.traced scene trace) =
      ((bare scene).1, ((bare scene).2.traced trace)))
    (executor : ∀ scene, (bare scene).2.executor.transaction = scene.executor.transaction ∧
      (bare scene).2.executor.closed = scene.executor.closed)
    (mode : source.KeepsModes → ∀ scene,
      source.isAutocommit (bare scene).2.source = source.isAutocommit scene.source) :
    Accomplishes Scene.traced (Serves source parent) fun _ : Chain (Traced τ) => act := by
  refine .idle bare same fun scene => ?_
  obtain ⟨transaction, closed⟩ := executor scene
  refine ⟨.nil, ?_, closed⟩
  rw [transaction]
  exact .quiet _ fun keeps => mode keeps scene

theorem serves_asking {kind : Operation → Bool} {act : Action (Traced τ) α}
    (aside : ∀ operation, kind operation = true → operation.aside = true)
    (allowed : ∀ operation, kind operation = true →
      operation.under parent = true ∧ operation.leadsTo = none)
    (asking : Accomplishes Traced.mk (Asking source kind) fun _ : Chain (Traced τ) => act) :
    Accomplishes Scene.traced (Serves source parent) fun _ : Chain (Traced τ) =>
      Work.onSource act := by
  refine asking.onDatabase.mono ?_
  rintro before deeds after ⟨asked, same⟩
  refine ⟨asked.kind.fits allowed, ?_, congrArg Executor.closed same⟩
  rw [same]
  exact .of_asking aside _ asked

theorem serves_leads (operation : Operation) (shape : Shape α) (method : Method)
    (args : operation.Answer → Args) (target : Chain (Traced τ) → Args → Work (Traced τ) α)
    (belongs : operation.under parent = true) (leads : operation.leadsTo = some method)
    (faithful : shape.Faithful) (fits : ∀ a, (args a).fit method = true)
    (inside : ∀ a, Accomplishes Scene.traced (Serves source (some method)) fun chain =>
      target chain (args a)) :
    Accomplishes Scene.traced (Serves source parent) fun chain =>
      Work.onSource ((Traced.around source).ask operation) >>= fun a =>
        (Pipeline.traced source configuration chain).call shape method (args a)
          (target chain) := by
  intro scene
  -- what leads to a method is neither a connect nor the end of a transaction
  have aside : operation.aside = true := by
    cases operation <;> first | rfl | cases leads
  have other : operation.isConnect = false := by
    cases operation <;> first | rfl | cases leads
  have asked (state : τ) : Asking source Operation.aside state
      [.asks operation (source.ask operation state).1.isOk] (source.ask operation state).2 :=
    .ask Operation.aside aside other state
  have carries := Carries.of_asking (fun _ => id) scene.executor.transaction (asked scene.source)
  have went (trace : List Event) : Work.onSource ((Traced.around source).ask operation)
      (scene.traced trace) = ((source.ask operation scene.source).1,
        { scene with source := (source.ask operation scene.source).2 }.traced
          (trace ++ [Event.asked operation (source.ask operation scene.source).1.isOk])) := by
    rw [Traced.ask_around]
    rfl
  rcases ran : source.ask operation scene.source with ⟨e | a, after⟩
  · rw [ran] at carries went
    refine ⟨.error e, { scene with source := after }, [.asks operation false],
      ⟨.asks belongs nofun .nil, carries, rfl⟩, fun chain _ trace => ?_⟩
    refine (Action.bind_apply _ _ _).trans ?_
    rw [went]
    rfl
  · rw [ran] at carries went
    have performed : Accomplishes Scene.traced _ fun chain =>
        (Pipeline.traced source configuration chain).call shape method (args a)
          (target chain) := (inside a).performs faithful (fits a)
    obtain ⟨result, last, _, ⟨inner, rfl, known⟩, same⟩ := performed { scene with source := after }
    refine ⟨result, last, .asks operation true :: [.performs method inner],
      ⟨.leads belongs leads known.fits .nil, carries.append (known.carries.performs method),
        known.closed⟩, fun chain proceeds trace => ?_⟩
    refine (Action.bind_apply _ _ _).trans ?_
    rw [went]
    refine (same chain proceeds _).trans ?_
    rw [List.append_assoc]
    rfl

end Scene

def Pipeline.transacting (source : DataSource τ) (configuration : Configuration (Traced τ)) :
    Discipline (⟨configuration, Traced.around source, []⟩ : Pipeline (Traced τ)) where
  Keeps := fun parent _ act => Accomplishes Scene.traced (Scene.Serves source parent) act
  ofResult := .ofResult Scene.Serves.composes
  bind := .bind Scene.Serves.composes
  attempt := .attempt
  quietly := .quietly
  inContext := fun context accomplishes => accomplishes.inContext context
  executor := Scene.serves_idle Work.executor (fun _ _ => rfl) (fun _ => ⟨rfl, rfl⟩) fun _ _ => rfl
  parameter :=
    Scene.serves_idle Work.parameter (fun _ _ => rfl) (fun _ => ⟨rfl, rfl⟩) fun _ _ => rfl
  setParameter := fun value =>
    Scene.serves_idle (Work.setParameter value) (fun _ _ => rfl) (fun _ => ⟨rfl, rfl⟩) fun _ _ => rfl
  changeExecutor := fun transaction closed =>
    Scene.serves_idle (Work.changeExecutor _) (fun _ _ => rfl)
      (fun scene => ⟨transaction scene.executor, closed scene.executor⟩) fun _ _ => rfl
  lookUp := fun id key =>
    Scene.serves_idle (Executor.Shared.lookUp id key) (fun _ _ => rfl) (fun _ => ⟨rfl, rfl⟩)
      fun _ _ => rfl
  openAmong := fun kept =>
    Scene.serves_idle
      (Action.read fun scene => kept.filter fun st => !source.isClosed scene.source st)
      (fun _ _ => rfl) (fun _ => ⟨rfl, rfl⟩) fun _ _ => rfl
  publish :=
    Scene.serves_idle Executor.Shared.publish (fun _ _ => rfl) (fun _ => ⟨rfl, rfl⟩) fun _ _ => rfl
  prepares := Scene.serves_prepareInTransaction
  commits := by
    refine (Transaction.accomplishes_commit source).onTransaction.mono ?_
    rintro before deeds after ⟨⟨most, carries⟩, same⟩
    refine ⟨most.fits fun operation is => ?_, carries, same⟩
    cases operation <;> first | exact ⟨rfl, rfl⟩ | cases is
  rollsBack := by
    intro parent ends
    refine (Transaction.accomplishes_rollback source).onTransaction.mono ?_
    rintro before deeds after ⟨⟨most, carries⟩, same⟩
    refine ⟨most.fits fun operation is => ?_, carries, same⟩
    cases operation <;> first | exact ⟨ends, rfl⟩ | cases is
  asks := by
    intro parent operation belongs aside leads
    have other : operation.isConnect = false := by
      cases operation <;> first | rfl | cases aside
    let kind (operation : Operation) : Bool :=
      operation.aside && operation.under parent && operation.leadsTo.isNone
    have asked := Action.accomplishes_ask source operation
      (Asking.ask kind (by simp [kind, aside, belongs, leads]) other)
    refine Scene.serves_asking (fun operation is => ?_) (fun operation is => ?_) asked
    · exact (Bool.and_eq_true_iff.1 (Bool.and_eq_true_iff.1 is).1).1
    · obtain ⟨is, ends⟩ := Bool.and_eq_true_iff.1 is
      exact ⟨(Bool.and_eq_true_iff.1 is).2, Option.isNone_iff_eq_none.1 ends⟩
  drops := fun st =>
    Scene.serves_idle (Work.onSource (modify (source.dropStatement st))) (fun _ _ => rfl)
      (fun _ => ⟨rfl, rfl⟩) fun keeps scene => keeps.dropStatement st scene.source
  attach := by
    intro cursor st
    -- a cursor that is closed already does not take the statement, which is then closed at once
    by_cases closed : cursor.state = .closed
    · have finished : Action.beside cursor (Cursor.attachStatement (Traced.around source) st) =
          ((Traced.around source).finishStatement st).quietly >>= fun _ =>
            Action.ofResult (.ok (.ok (), cursor)) := by
        funext traced
        simp only [Cursor.attachStatement, Action.beside, Action.bind_apply, Action.get_apply]
        rw [if_pos closed]
        rfl
      rw [finished]
      refine Scene.serves_asking (fun operation is => ?_) (fun operation is => ?_)
        ((accomplishes_finishStatement source st).quietly.bind Asking.composes fun _ =>
          .ofResult Asking.composes _)
      · cases operation <;> first | rfl | cases is
      · cases operation <;> first | exact ⟨rfl, rfl⟩ | cases is
    · have attached : Action.beside cursor (Cursor.attachStatement (Traced.around source) st) =
          Action.ofResult (.ok (.ok (), { cursor with statement := some st })) := by
        funext traced
        simp only [Cursor.attachStatement, Action.beside, Action.bind_apply, Action.get_apply]
        rw [if_neg closed]
        rfl
      rw [attached]
      exact Scene.serves_idle (Work.onSource (Action.ofResult _)) (fun _ _ => rfl)
        (fun _ => ⟨rfl, rfl⟩) fun _ _ => rfl
  call := fun belongs faithful fits inside =>
    (inside.performs faithful fits).mono fun ⟨_, same, known⟩ => same ▸ known.performs belongs
  leads := Scene.serves_leads

end MappedSql
