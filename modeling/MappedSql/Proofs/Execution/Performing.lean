import MappedSql.Proofs.Execution.Transacting

namespace MappedSql

open MappedSql.Action (Accomplishes)

variable {τ α : Type}

namespace Executor

variable (source : DataSource τ) (configuration : Configuration (Traced τ))

def Performs (method : Method) (before : Scene τ) (deeds : List Deed) (after : Scene τ) : Prop :=
  ∃ inner, deeds = [.performs method inner] ∧ before.Serves source (some method) inner after

theorem performs_update (statement : MappedStatement) :
    Accomplishes Scene.traced (Performs source .update) fun chain =>
      update (Pipeline.traced source configuration chain) statement :=
  ((Pipeline.transacting source configuration).keeps_answerUpdate statement).performs
    Shape.faithful_count rfl

theorem performs_query (statement : MappedStatement) (parameter : Value) (bounds : RowBounds) :
    Accomplishes Scene.traced (Performs source .query) fun chain =>
      query (Pipeline.traced source configuration chain) statement parameter bounds :=
  ((Pipeline.transacting source configuration).keeps_answerQuery statement parameter
    bounds).performs Shape.faithful_rows rfl

theorem performs_queryCursor (statement : MappedStatement) (parameter : Value) (bounds : RowBounds) :
    Accomplishes Scene.traced (Performs source .queryCursor) fun chain =>
      queryCursor (Pipeline.traced source configuration chain) statement parameter bounds :=
  ((Pipeline.transacting source configuration).keeps_answerCursor statement parameter
    bounds).performs Shape.faithful_cursor rfl

theorem performs_flush :
    Accomplishes Scene.traced (Performs source .flush) fun chain =>
      flush (Pipeline.traced source configuration chain) :=
  ((Pipeline.transacting source configuration).keeps_localFlush rfl).performs
    Shape.faithful_batches rfl

theorem performs_rollback (required : Bool) :
    Accomplishes Scene.traced (Performs source .rollback) fun chain =>
      rollback (Pipeline.traced source configuration chain) required :=
  ((Pipeline.transacting source configuration).keeps_answerRollback required).performs
    Shape.faithful_unit rfl

theorem performs_commit (required : Bool) :
    Accomplishes Scene.traced
      (fun before deeds after => Performs source .commit before deeds after ∧
        (required = false → Event.Without Operation.isCommit (Deed.asked τ deeds)))
      fun chain => commit (Pipeline.traced source configuration chain) required := by
  have answered : Accomplishes Scene.traced
      (fun before deeds after => before.Serves source (some .commit) deeds after ∧
        (required = false → Event.Without Operation.isCommit (Deed.asked τ deeds)))
      fun chain => choose (Pipeline.traced source configuration chain)
        (Shared.commit (Pipeline.traced source configuration chain) required)
        (Local.commit (Pipeline.traced source configuration chain) required) := by
    cases required with
    | true =>
        exact Accomplishes.mono ((Pipeline.transacting source configuration).keeps_answerCommit
          true) fun known => ⟨known, nofun⟩
    | false =>
        -- what only flushes has its place within a flush
        refine Accomplishes.mono (Pipeline.transacting source configuration).keeps_answerSettle
          fun known => ⟨⟨known.fits.mono ?_ ?_, known.carries, known.closed⟩,
            fun _ => known.fits.without ?_⟩
        · intro operation belongs
          cases operation <;> first | rfl | cases belongs
        · intro method belongs
          cases method <;> cases belongs
        · intro operation place is belongs
          obtain rfl := Operation.place_of_commit is belongs
          exact ⟨nofun, fun _ same => Option.some.inj same ▸ rfl⟩
  have performed : Accomplishes Scene.traced _ fun chain =>
      commit (Pipeline.traced source configuration chain) required :=
    answered.performs Shape.faithful_unit rfl
  refine performed.mono ?_
  rintro before _ after ⟨inner, rfl, known, settles⟩
  refine ⟨⟨inner, rfl, known⟩, fun optional => ?_⟩
  rw [Deed.asked_performs]
  exact List.forall_mem_append.2 ⟨settles optional, nofun⟩

end Executor

def Event.ClosesSettled (events : List Event) : Prop :=
  ∀ before c answered after, events = before ++ .asked (.closeConnection c) answered :: after →
    ∃ earlier settled, before = earlier ++ [.asked (.rollback c) settled]

namespace Event.ClosesSettled

theorem of_without {events : List Event} (without : Without Operation.isCloseConnection events) :
    ClosesSettled events := by
  rintro before c answered after rfl
  exact nomatch without (.asked (.closeConnection c) answered) (by simp)

theorem append {events more : List Event} (left : ClosesSettled events) (right : ClosesSettled more) :
    ClosesSettled (events ++ more) := by
  intro before c answered after whole
  obtain ⟨between, rfl, same⟩ | ⟨between, rfl, same⟩ := List.append_eq_append_iff.1 whole
  · obtain ⟨earlier, settled, rfl⟩ := right between c answered after same
    exact ⟨events ++ earlier, settled, (List.append_assoc _ _ _).symm⟩
  · cases between with
    | nil =>
        obtain ⟨earlier, settled, contrary⟩ := right [] c answered after same.symm
        simp at contrary
    | cons event rest =>
        obtain ⟨rfl, rfl⟩ := List.cons.inj same
        exact left before c answered rest rfl

theorem pair (c : ConnectionId) (settled answered : Bool) :
    ClosesSettled [.asked (.rollback c) settled, .asked (.closeConnection c) answered] := by
  intro before other answered' after same
  rcases before with _ | ⟨first, _ | ⟨second, rest⟩⟩
  · cases same
  · cases same
    exact ⟨[], settled, rfl⟩
  · simp at same

end Event.ClosesSettled

def Operation.ends : Operation → Bool
  | rollback _ | closeConnection _ => true
  | _ => false

namespace Transaction

variable (source : DataSource τ)

structure Closes (before : τ × Transaction) (deeds : List Deed) (after : τ × Transaction) : Prop where
  kind : Deed.Only Operation.ends deeds
  autocommit : after.2.autocommit = before.2.autocommit
  closed : after.2.closed = true
  connection : after.2.connection = none
  calm : Sound source before → before.2.autocommit = true →
    Event.Without Operation.settles (Deed.asked τ deeds)
  settled : Sound source before → before.2.autocommit = false →
    Event.ClosesSettled (Deed.asked τ deeds)

theorem accomplishes_close :
    Accomplishes (besides Traced.mk) (Closes source)
      fun _ : Chain (Traced τ) => close (Traced.around source) := by
  rintro ⟨state, transaction⟩
  cases own : transaction.connection with
  | none =>
      refine ⟨.ok (), (state, { transaction with closed := true, connection := none }), [],
        ⟨nofun, rfl, rfl, rfl, fun _ _ => nofun, fun _ _ => .of_without nofun⟩, fun chain _ trace => ?_⟩
      simp only [close, besides, Action.bind_apply, Action.get_apply, Action.set_apply, own]
      rw [Deed.eventsOf, List.append_nil]
      rfl
  | some c =>
      have manual (trace : List Event) : (Traced.around source).isAutocommit ⟨state, trace⟩ c =
          source.isAutocommit state c := rfl
      cases mode : source.isAutocommit state c with
      | true =>
          refine ⟨(source.closeConnection c state).1,
            (source.dropConnection c (source.closeConnection c state).2,
              { transaction with closed := true, connection := none }),
            [.asks (.closeConnection c) (source.closeConnection c state).1.isOk],
            ⟨List.forall_mem_singleton.2 ⟨_, _, rfl, rfl⟩, rfl, rfl, rfl, fun _ _ => ?_,
              fun sound automatic => ?_⟩, fun chain _ trace => ?_⟩
          · exact List.forall_mem_singleton.2 rfl
          · exact Bool.noConfusion (mode.symm.trans ((sound c own).trans automatic))
          · simp only [close, besides, Action.bind_apply, Action.get_apply, Action.set_apply, own,
              manual, mode]
            rfl
      | false =>
          let rolledBack := source.rollback c state
          refine ⟨(source.closeConnection c rolledBack.2).1,
            (source.dropConnection c (source.closeConnection c rolledBack.2).2,
              { transaction with closed := true, connection := none }),
            [.asks (.rollback c) rolledBack.1.isOk,
              .asks (.closeConnection c) (source.closeConnection c rolledBack.2).1.isOk],
            ⟨List.forall_mem_cons.2 ⟨⟨_, _, rfl, rfl⟩, List.forall_mem_singleton.2 ⟨_, _, rfl, rfl⟩⟩,
              rfl, rfl, rfl, fun sound automatic => ?_, fun _ _ => .pair c _ _⟩, fun chain _ trace => ?_⟩
          · exact Bool.noConfusion (mode.symm.trans ((sound c own).trans automatic))
          · simp only [close, besides, Action.bind_apply, Action.get_apply, Action.set_apply, own,
              manual, mode]
            refine Eq.trans ?_ (congrArg (fun events => (_, (Traced.mk _ events, _)))
              (List.append_assoc trace [.asked (.rollback c) rolledBack.1.isOk] _))
            rfl

end Transaction

structure Scene.Ends (source : DataSource τ) (before : Scene τ) (deeds : List Deed)
    (after : Scene τ) : Prop where
  fits : Deed.Fits none deeds
  autocommit : after.executor.transaction.autocommit = before.executor.transaction.autocommit
  closed : before.executor.transaction.closed = before.executor.closed →
    after.executor.transaction.closed = true ∧ after.executor.closed = true
  barred : before.executor.transaction.closed = true →
    Event.Without Operation.begins (Deed.asked τ deeds)
  sound : source.KeepsModes →
    Transaction.Sound source (before.source, before.executor.transaction) →
      Transaction.Sound source (after.source, after.executor.transaction)
  calm : source.KeepsModes → Transaction.Sound source (before.source, before.executor.transaction) →
    before.executor.transaction.autocommit = true →
      Event.Without Operation.settles (Deed.asked τ deeds)
  settled : source.KeepsModes →
    Transaction.Sound source (before.source, before.executor.transaction) →
      before.executor.transaction.autocommit = false → Event.ClosesSettled (Deed.asked τ deeds)

namespace Scene

variable {source : DataSource τ}

theorem Ends.of_closed {scene : Scene τ} (closed : scene.executor.closed = true) :
    scene.Ends source [] scene :=
  ⟨.nil, rfl, fun same => ⟨same.trans closed, closed⟩, fun _ => nofun, fun _ => id,
    fun _ _ _ => nofun, fun _ _ _ => .of_without nofun⟩

def Turns (before : Scene τ) (deeds : List Deed) (after : Scene τ) : Prop :=
  deeds = [] ∧ after.source = before.source ∧
    after.executor.transaction = before.executor.transaction

theorem Ends.of_rollback {before middle after : Scene τ} {deeds more : List Deed}
    (rolledBack : before.Serves source (some .rollback) deeds middle)
    (closes : Transaction.Closes source (middle.source, middle.executor.transaction) more
      (after.source, after.executor.transaction)) (closed : after.executor.closed = true) :
    before.Ends source (deeds ++ more) after where
  fits := by
    refine .append (rolledBack.fits.mono (fun operation belongs => ?_) fun method belongs => ?_)
      (closes.kind.fits fun operation is => ?_)
    · cases operation <;> first | rfl | cases belongs
    · cases method <;> cases belongs
    · cases operation <;> first | exact ⟨rfl, rfl⟩ | cases is
  autocommit := closes.autocommit.trans rolledBack.carries.autocommit
  closed := fun _ => ⟨closes.closed, closed⟩
  barred := fun gone => by
    rw [Deed.asked_append]
    refine List.forall_mem_append.2 ⟨rolledBack.carries.barred gone,
      closes.kind.without fun operation is => ?_⟩
    cases operation <;> first | rfl | cases is
  sound := fun _ _ c held => nomatch closes.connection.symm.trans held
  calm := fun keeps sound automatic => by
    rw [Deed.asked_append]
    exact List.forall_mem_append.2 ⟨rolledBack.carries.calm keeps sound automatic,
      closes.calm (rolledBack.carries.sound keeps sound)
        (rolledBack.carries.autocommit.trans automatic)⟩
  settled := fun keeps sound automatic => by
    rw [Deed.asked_append]
    refine .append (.of_without (rolledBack.fits.without fun operation place is belongs => ?_))
      (closes.settled (rolledBack.carries.sound keeps sound)
        (rolledBack.carries.autocommit.trans automatic))
    obtain rfl := Operation.place_of_closeConnection is belongs
    exact ⟨nofun, nofun⟩

end Scene

namespace Executor

variable (source : DataSource τ) (configuration : Configuration (Traced τ))

theorem ends_localClose (required : Bool) :
    Accomplishes Scene.traced (Scene.Ends source) fun chain =>
      Local.close (Pipeline.traced source configuration chain) required := by
  have rolledBack : Accomplishes Scene.traced (Scene.Serves source (some .rollback)) fun chain =>
      Local.rollback (Pipeline.traced source configuration chain) required :=
    (Pipeline.transacting source configuration).keeps_localRollback rfl required
  have finished : Accomplishes Scene.traced
      (fun (before : Scene τ) deeds after => before.Turns deeds after ∧ after.executor.closed = true)
      fun _ : Chain (Traced τ) =>
        Work.changeExecutor fun executor => { executor with localCache := [], closed := true } :=
    .idle (Work.changeExecutor fun executor => { executor with localCache := [], closed := true })
      (fun _ _ => rfl) fun _ => ⟨⟨rfl, rfl, rfl⟩, rfl⟩
  have closes : Accomplishes Scene.traced
      (fun (before : Scene τ) deeds after =>
        Transaction.Closes source (before.source, before.executor.transaction) deeds
          (after.source, after.executor.transaction) ∧ after.executor.closed = true)
      fun _ : Chain (Traced τ) =>
        (Work.onTransaction (Transaction.close (Traced.around source))).quietly >>= fun _ =>
          Work.changeExecutor fun executor => { executor with localCache := [], closed := true } := by
    refine (Transaction.accomplishes_close source).onTransaction.andThen _ finished ?_
    rintro before deeds middle _ after ⟨closes, -⟩ ⟨⟨rfl, database, transaction⟩, ended⟩
    rw [List.append_nil, database, transaction]
    exact ⟨closes, ended⟩
  -- the failure of the rollback is passed over, and the transaction is closed in any case
  have ends := rolledBack.andThen (Scene.Ends source) closes fun rolledBack closes =>
    .of_rollback rolledBack closes.1 closes.2
  intro scene
  cases closed : scene.executor.closed with
  | true =>
      refine ⟨.ok (), scene, [], .of_closed closed, fun chain _ trace => ?_⟩
      show Local.close (Pipeline.traced source configuration chain.noted) required (scene.traced trace) = _
      rw [Local.close, Action.bind_apply, Work.executor_apply, Deed.eventsOf, List.append_nil]
      dsimp only [Scene.traced]
      rw [if_pos closed]
      rfl
  | false =>
      obtain ⟨result, after, deeds, known, same⟩ := ends scene
      refine ⟨result, after, deeds, known, fun chain proceeds trace => ?_⟩
      show Local.close (Pipeline.traced source configuration chain.noted) required (scene.traced trace) = _
      rw [← same chain proceeds, Local.close, Action.bind_apply, Work.executor_apply]
      dsimp only [Scene.traced]
      rw [if_neg (by simp [closed])]
      rfl

theorem ends_behind (act : Work (Traced τ) Unit) (required : Bool) (quiet : act.quietly = act)
    (turns : Accomplishes Scene.traced
      (fun (before : Scene τ) deeds after => before.Turns deeds after ∧
        after.executor.closed = before.executor.closed) fun _ : Chain (Traced τ) => act) :
    Accomplishes Scene.traced (Scene.Ends source) fun chain =>
      act >>= fun _ => Local.close (Pipeline.traced source configuration chain) required := by
  rw [← quiet]
  refine turns.andThen _ (ends_localClose source configuration required) ?_
  rintro before _ middle more after ⟨⟨rfl, database, transaction⟩, closed⟩ ends
  obtain ⟨fits, autocommit, ended, barred, sound, calm, settled⟩ := ends
  rw [database, transaction] at sound calm settled
  rw [transaction] at autocommit ended barred
  rw [closed] at ended
  exact ⟨fits, autocommit, ended, barred, sound, calm, settled⟩

theorem ends_sharedClose (required : Bool) :
    Accomplishes Scene.traced (Scene.Ends source) fun chain =>
      Shared.close (Pipeline.traced source configuration chain) required := by
  cases required with
  | true =>
      refine ends_behind source configuration (Shared.setStaging []) true rfl ?_
      exact .idle (Shared.setStaging []) (fun _ _ => rfl) fun _ => ⟨⟨rfl, rfl, rfl⟩, rfl⟩
  | false =>
      refine ends_behind source configuration Shared.publish false rfl ?_
      exact .idle Shared.publish (fun _ _ => rfl) fun _ => ⟨⟨rfl, rfl, rfl⟩, rfl⟩

theorem ends_close (required : Bool) :
    Accomplishes Scene.traced (Scene.Ends source) fun chain =>
      close (Pipeline.traced source configuration chain) required := by
  cases cached : configuration.settings.cacheEnabled with
  | true =>
      have chosen (chain : Chain (Traced τ)) : close (Pipeline.traced source configuration chain) required =
          Shared.close (Pipeline.traced source configuration chain) required := if_pos cached
      simpa only [chosen] using ends_sharedClose source configuration required
  | false =>
      have chosen (chain : Chain (Traced τ)) : close (Pipeline.traced source configuration chain) required =
          Local.close (Pipeline.traced source configuration chain) required :=
        if_neg (by simp [Pipeline.under, cached])
      simpa only [chosen] using ends_localClose source configuration required

end Executor

end MappedSql
