import MappedSql.Proofs.Execution.Coherence

namespace MappedSql

variable {σ α β : Type}

open Standing (baseOf viewOf updatesOf)

variable {picture : Picture σ} {pipeline : Pipeline σ} {source : DataSource σ} {scene : Scene σ}

theorem commit_of_none (own : scene.connection = none) :
    Work.onTransaction (Transaction.commit source) scene = (.ok (), scene) := by
  obtain ⟨state, shared, ⟨strategy, ⟨autocommit, timeout, connection, finished⟩, kept, staging, closed⟩,
    parameter⟩ := scene
  cases own
  rfl

theorem rollback_of_none (own : scene.connection = none) :
    Work.onTransaction (Transaction.rollback source) scene = (.ok (), scene) := by
  obtain ⟨state, shared, ⟨strategy, ⟨autocommit, timeout, connection, finished⟩, kept, staging, closed⟩,
    parameter⟩ := scene
  cases own
  rfl

theorem manual?_of_manual {state : σ} {transaction : Transaction} {c : ConnectionId}
    (own : transaction.connection = some c) (manual : source.isAutocommit state c = false) :
    transaction.manual? source state = some c := by
  simp [Transaction.manual?, own, manual]

theorem commit_of_manual {c : ConnectionId} (own : scene.connection = some c)
    (manual : source.isAutocommit scene.source c = false) :
    Work.onTransaction (Transaction.commit source) scene =
      ((source.commit c scene.source).1, scene.withSource (source.commit c scene.source).2) := by
  have ran : Transaction.commit source (scene.source, scene.executor.transaction) =
      ((source.commit c scene.source).1,
        ((source.commit c scene.source).2, scene.executor.transaction)) := by
    simp only [Transaction.commit, Action.bind_apply, Action.get_apply, manual?_of_manual own manual]
    rfl
  simp only [Work.onTransaction, Action.within, ran]
  rfl

theorem rollback_of_manual {c : ConnectionId} (own : scene.connection = some c)
    (manual : source.isAutocommit scene.source c = false) :
    Work.onTransaction (Transaction.rollback source) scene =
      ((source.rollback c scene.source).1, scene.withSource (source.rollback c scene.source).2) := by
  have ran : Transaction.rollback source (scene.source, scene.executor.transaction) =
      ((source.rollback c scene.source).1,
        ((source.rollback c scene.source).2, scene.executor.transaction)) := by
    simp only [Transaction.rollback, Action.bind_apply, Action.get_apply,
      manual?_of_manual own manual]
    rfl
  simp only [Work.onTransaction, Action.within, ran]
  rfl

theorem close_of_none (own : scene.connection = none) :
    (Work.onTransaction (Transaction.close source) scene).2 =
      { scene with executor := { scene.executor with
        transaction := { scene.executor.transaction with closed := true } } } := by
  obtain ⟨state, shared, ⟨strategy, ⟨autocommit, timeout, connection, finished⟩, kept, staging, closed⟩,
    parameter⟩ := scene
  cases own
  rfl

theorem close_of_manual {c : ConnectionId} (own : scene.connection = some c)
    (manual : source.isAutocommit scene.source c = false) :
    (Work.onTransaction (Transaction.close source) scene).2 =
      { scene with
        source := source.dropConnection c
          (source.closeConnection c (source.rollback c scene.source).2).2
        executor := { scene.executor with
          transaction := { scene.executor.transaction with connection := none, closed := true } } } := by
  obtain ⟨state, shared, ⟨strategy, ⟨autocommit, timeout, connection, finished⟩, kept, staging, closed⟩,
    parameter⟩ := scene
  cases own
  have ran : Transaction.close source (state, ⟨autocommit, timeout, some c, finished⟩) =
      ((source.closeConnection c (source.rollback c state).2).1,
        (source.dropConnection c (source.closeConnection c (source.rollback c state).2).2,
          ⟨autocommit, timeout, none, true⟩)) := by
    have isManual : source.isAutocommit state c = false := manual
    simp only [Transaction.close, Action.bind_apply, Action.get_apply, Action.set_apply, isManual]
    rfl
  simp only [Work.onTransaction, Action.within, ran]

structure Scene.Rests (picture : Picture σ) (pipeline : Pipeline σ) (before after : Scene σ) :
    Prop where
  spares : before.Spares picture after
  bare : after.Bare picture pipeline
  kept : after.executor.localCache = []
  idle : updatesOf (after.standing picture) = []

theorem Scene.Rests.coherent {before after : Scene σ} (rests : before.Rests picture pipeline after)
    (staging : after.executor.staging = [])
    (ended : after.executor.closed → after.connection = none) :
    after.Coherent picture pipeline (fun _ => False) := by
  apply Executor.coherent_of_empty rests.bare.tidy ended rests.kept _ rests.idle
  intro id
  rw [staging]
  rfl

theorem Scene.Spares.of_same {before after : Scene σ} (source : after.source = before.source)
    (connection : after.connection = before.connection) : before.Spares picture after :=
  (Scene.Step.of_same source connection fun _ => False).spares

theorem Scene.Bare.of_same {before after : Scene σ} (bare : before.Bare picture pipeline)
    (source : after.source = before.source)
    (strategy : after.executor.strategy = before.executor.strategy)
    (transaction : after.executor.transaction = before.executor.transaction) :
    after.Bare picture pipeline := by
  obtain ⟨way, unlinked, owns⟩ := bare
  have connection : after.connection = before.connection := congrArg Transaction.connection transaction
  refine ⟨way, unlinked, strategy.trans owns.strategy, ?_, ?_, by rintro _ ⟨⟩, owns.distinct⟩
  · rw [transaction]
    exact owns.manual
  · rw [connection, source]
    exact owns.isOpen

theorem Scene.Rests.of_same {before first last after : Scene σ}
    (rests : first.Rests picture pipeline last) (source : first.source = before.source)
    (connection : first.connection = before.connection) (later : after.source = last.source)
    (strategy : after.executor.strategy = last.executor.strategy)
    (transaction : after.executor.transaction = last.executor.transaction)
    (kept : after.executor.localCache = last.executor.localCache) :
    before.Rests picture pipeline after := by
  have same : after.connection = last.connection := congrArg Transaction.connection transaction
  refine ⟨((Scene.Spares.of_same source connection).trans rests.spares).trans (.of_same later same),
    rests.bare.of_same later strategy transaction, kept.trans rests.kept, ?_⟩
  rw [Scene.standing, same, later]
  exact rests.idle

theorem Scene.Bare.ends (bare : scene.Bare picture pipeline) {c : ConnectionId} {state : σ}
    (ends : picture.Ends c scene.source state) : (scene.withSource state).Bare picture pipeline := by
  obtain ⟨strategy, unlinked, owns⟩ := bare
  refine ⟨strategy, unlinked, owns.of_fits ends.isOpen (List.Sublist.refl _) ?_⟩
  rintro _ _ _ ⟨⟩

theorem Scene.Tidy.bare_of_none {queued : String → Prop} (tidy : scene.Tidy picture pipeline queued)
    (own : scene.connection = none) : scene.Bare picture pipeline := by
  obtain ⟨strategy, -, owns⟩ := tidy
  have unlinked : strategy.links = [] := by
    apply List.eq_nil_iff_forall_not_mem.2
    intro link mem
    obtain ⟨prepared, -, same, -⟩ := owns.linked link mem
    rw [own] at same
    cases same
  rw [unlinked] at owns
  exact ⟨strategy, unlinked, owns⟩

theorem Scene.standing_of_none (own : scene.connection = none) : scene.standing picture = none := by
  rw [Scene.standing, own]
  rfl

theorem Scene.standing_of_some {c : ConnectionId} (own : scene.connection = some c) :
    scene.standing picture = picture.standing scene.source c := by
  rw [Scene.standing, own]
  rfl

theorem Scene.standing_withSource {c : ConnectionId} (own : scene.connection = some c) (state : σ) :
    (scene.withSource state).standing picture = picture.standing state c :=
  @Scene.standing_of_some σ picture (scene.withSource state) c own

theorem Scene.Coherent.rests_of_none {queued : String → Prop}
    (coherent : scene.Coherent picture pipeline queued) (own : scene.connection = none) :
    scene.Rests picture pipeline scene := by
  have unbegun := @Scene.standing_of_none σ picture scene own
  refine ⟨.refl scene, coherent.tidy.bare_of_none own, ?_, by rw [unbegun]; rfl⟩
  apply List.eq_nil_iff_forall_not_mem.2
  intro entry mem
  obtain ⟨standing, begun, -⟩ := coherent.kept entry mem
  rw [unbegun] at begun
  cases begun

theorem Scene.Step.idle {runs : String → Prop} {before after : Scene σ}
    (step : before.Step picture runs after) (nothing : ∀ sql, ¬runs sql)
    (idle : updatesOf (before.standing picture) = []) : updatesOf (after.standing picture) = [] := by
  apply List.eq_nil_iff_forall_not_mem.2
  intro sql mem
  rcases step.advances.updates sql mem with before | ran
  · rw [idle] at before
    cases before
  · exact nothing sql ran

theorem Scene.Current.step {runs : String → Prop} {before after : Scene σ}
    (current : before.Current picture pipeline) (step : before.Step picture runs after)
    (staging : after.executor.staging = before.executor.staging)
    (emptied : ∀ sql id, pipeline.Affects picture sql id → runs sql →
      (Staging.of before.executor.staging id).entries = []) : after.Current picture pipeline := by
  intro id staged
  rw [staging] at staged
  rw [step.committed, step.advances.base]
  apply (current id staged).imp_right
  intro still handler invokes used
  obtain ⟨untouched, base⟩ := still handler invokes used
  refine ⟨fun sql mem changes => ?_, base⟩
  rcases step.advances.updates sql mem with earlier | ran
  · exact untouched sql earlier changes
  · exact staged (emptied sql id ⟨handler, invokes, used, changes⟩ ran)

namespace Executor

variable (regular : pipeline.Regular picture) {queued : String → Prop}

include regular

theorem manual_of_own (bare : scene.Bare picture pipeline) {c : ConnectionId}
    (own : scene.connection = some c) :
    picture.isOpen scene.source c ∧ pipeline.source.isAutocommit scene.source c = false := by
  obtain ⟨strategy, -, owns⟩ := bare
  have isOpen := owns.isOpen c own
  exact ⟨isOpen, regular.isolates.manual scene.source c isOpen⟩

theorem rests_rollbackTransaction (bare : scene.Bare picture pipeline)
    (kept : scene.executor.localCache = []) :
    scene.Rests picture pipeline
        (Work.onTransaction (Transaction.rollback pipeline.source) scene).2 ∧
      picture.committed (Work.onTransaction (Transaction.rollback pipeline.source) scene).2.source =
        picture.committed scene.source := by
  cases own : scene.connection with
  | none =>
      rw [rollback_of_none own]
      refine ⟨⟨.refl scene, bare, kept, ?_⟩, rfl⟩
      rw [Scene.standing_of_none own]
      rfl
  | some c =>
      obtain ⟨isOpen, manual⟩ := manual_of_own regular bare own
      obtain ⟨ends, committed, ended⟩ := regular.isolates.rollback scene.source c isOpen
      have unbegun : (scene.withSource (pipeline.source.rollback c scene.source).2).standing picture =
          none := (Scene.standing_withSource own _).trans ended
      rw [rollback_of_manual own manual]
      exact ⟨⟨⟨own ▸ ends.spares, fun _ same => .inl same⟩, bare.ends ends, kept,
        congrArg updatesOf unbegun⟩, committed⟩

theorem rests_finishRollback (tidy : scene.Tidy picture pipeline queued)
    (kept : scene.executor.localCache = []) (required : Bool)
    (idle : required = false → updatesOf (scene.standing picture) = []) :
    scene.Rests picture pipeline (Local.finishRollback pipeline required scene).2 ∧
      picture.committed (Local.finishRollback pipeline required scene).2.source =
        picture.committed scene.source := by
  obtain ⟨step, done, failed⟩ := ensures_flush regular true scene tidy
  have frames := @Strategy.frames_flush σ pipeline true scene
  have bare : (Strategy.flush pipeline true scene).2.Bare picture pipeline := by
    cases went : (Strategy.flush pipeline true scene).1 with
    | error e => exact failed e went
    | ok results => exact done results went
  have attempted : (Strategy.flush pipeline true).attempt scene =
      (.ok (Strategy.flush pipeline true scene).1, (Strategy.flush pipeline true scene).2) := rfl
  have empty := frames.localCache.trans kept
  cases required with
  | false =>
      have unfolded : (Local.finishRollback pipeline false scene).2 =
          (Strategy.flush pipeline true scene).2 := by
        simp only [Local.finishRollback, Action.bind_apply, attempted, Bool.false_eq_true, if_false]
        rcases Strategy.flush pipeline true scene with ⟨_ | _, after⟩ <;> rfl
      rw [unfolded]
      refine ⟨⟨step.spares, bare, empty, ?_⟩, step.committed⟩
      exact step.idle (fun sql ran => by cases ran.1) (idle rfl)
  | true =>
      have unfolded : (Local.finishRollback pipeline true scene).2 =
          (Work.onTransaction (Transaction.rollback pipeline.source)
            (Strategy.flush pipeline true scene).2).2 := by
        simp only [Local.finishRollback, Action.bind_apply, attempted, if_true]
        rcases Work.onTransaction (Transaction.rollback pipeline.source)
          (Strategy.flush pipeline true scene).2 with ⟨_ | _, after⟩
        · rfl
        · rcases Strategy.flush pipeline true scene with ⟨_ | _, _⟩ <;> rfl
      rw [unfolded]
      obtain ⟨rests, committed⟩ := rests_rollbackTransaction regular bare empty
      exact ⟨⟨step.spares.trans rests.spares, rests.bare, rests.kept, rests.idle⟩,
        committed.trans step.committed⟩

/-- A commit of the transaction fails and changes nothing that tells, or it ends the transaction, and
what is published with it is right. -/
theorem commitTransaction_cases (coherent : scene.Coherent picture pipeline (fun _ => False))
    (bare : scene.Bare picture pipeline) (isOpen : scene.executor.closed = false)
    (kept : scene.executor.localCache = []) :
    (∃ e after, Work.onTransaction (Transaction.commit pipeline.source) scene = (.error e, after) ∧
        scene.Continues picture pipeline queued after) ∨
      ∃ after, Work.onTransaction (Transaction.commit pipeline.source) scene = (.ok (), after) ∧
        scene.Rests picture pipeline after ∧
        (pipeline.Fresh (picture.committed scene.source) scene.shared → scene.Current picture pipeline →
          ∀ drain, pipeline.Fresh (picture.committed after.source)
            (Staging.publish scene.executor.staging scene.shared drain)) := by
  cases own : scene.connection with
  | none =>
      have unbegun := @Scene.standing_of_none σ picture scene own
      refine .inr ⟨scene, commit_of_none own, coherent.rests_of_none own, fun fresh current => ?_⟩
      exact fresh_publish_of_idle regular coherent fresh current (congrArg updatesOf unbegun)
  | some c =>
      obtain ⟨open_, manual⟩ := manual_of_own regular bare own
      have begun := @Scene.standing_of_some σ picture scene c own
      have ends := regular.isolates.commit scene.source c open_
      rw [commit_of_manual own manual]
      cases went : (pipeline.source.commit c scene.source).1 with
      | error e =>
          obtain ⟨committed, standing⟩ := regular.isolates.uncommitted scene.source c e open_ went
          have same : (scene.withSource (pipeline.source.commit c scene.source).2).standing picture =
              scene.standing picture :=
            (Scene.standing_withSource own _).trans (standing.trans begun.symm)
          -- a commit that fails commits nothing, and what is seen stays as it was
          have step : scene.Step picture (fun _ => False)
              (scene.withSource (pipeline.source.commit c scene.source).2) := by
            refine ⟨⟨own ▸ ends.spares, fun _ same => .inl same⟩, committed, ?_⟩
            rw [same]
            exact .refl _ _ _
          have advanced := coherent.advance isOpen step ⟨rfl, rfl, rfl, rfl⟩ (bare.ends ends).tidy
            (by rintro _ (⟨⟨⟩⟩ | ⟨⟨⟩⟩)) (by rintro _ _ _ (⟨⟨⟩⟩ | ⟨⟨⟩⟩))
          exact .inl ⟨e, _, rfl, .of_step step rfl advanced (fun _ no => no.elim) fun _ no => no.elim⟩
      | ok =>
          obtain ⟨ended, stays, agrees⟩ := regular.isolates.committed scene.source c open_ went
          have unbegun : (scene.withSource (pipeline.source.commit c scene.source).2).standing
              picture = none := (Scene.standing_withSource own _).trans ended
          refine .inr ⟨_, rfl, ⟨⟨own ▸ ends.spares, fun _ same => .inl same⟩,
            bare.ends ends, kept, congrArg updatesOf unbegun⟩, fun fresh current => ?_⟩
          apply fresh_publish regular coherent fresh current
          · intro request untouched
            rw [begun] at untouched
            exact stays request untouched
          · intro standing stood base
            rw [begun] at stood
            rw [stood] at agrees
            exact agrees base

theorem finishCommit_cases (coherent : scene.Coherent picture pipeline queued)
    (isOpen : scene.executor.closed = false) (kept : scene.executor.localCache = [])
    (required : Bool) (idle : required = false → scene.Idle picture queued) :
    (∃ e after, Local.finishCommit pipeline required scene = (.error e, after) ∧
        scene.Continues picture pipeline queued after) ∨
      ∃ after, Local.finishCommit pipeline required scene = (.ok (), after) ∧
        scene.Rests picture pipeline after ∧
        (pipeline.Fresh (picture.committed scene.source) scene.shared → scene.Current picture pipeline →
          ∀ drain, pipeline.Fresh (picture.committed after.source)
            (Staging.publish after.executor.staging after.shared drain)) := by
  obtain ⟨step, same, bare, flushed⟩ := Local.flushed regular coherent isOpen
  have empty := same.localCache.trans kept
  have still := same.closed.trans isOpen
  have continues : scene.Continues picture pipeline queued (Local.flush pipeline scene).2 :=
    .of_step step same.shared flushed (fun _ => id) fun _ no => no.elim
  have unfolded : Local.finishCommit pipeline required scene =
      (Local.flush pipeline >>= fun _ =>
        if required then Work.onTransaction (Transaction.commit pipeline.source) else pure ())
        scene := rfl
  rw [unfolded, Action.bind_apply]
  rcases went : Local.flush pipeline scene with ⟨e | results, after⟩ <;>
    rw [went] at step same bare flushed empty still continues
  · exact .inl ⟨e, after, rfl, continues⟩
  · have fresh (before : pipeline.Fresh (picture.committed scene.source) scene.shared) :
        pipeline.Fresh (picture.committed after.source) after.shared := by
      rw [step.committed, same.shared]
      exact before
    cases required with
    | false =>
        obtain ⟨unchanged, nothing⟩ := idle rfl
        have ended := step.idle nothing unchanged
        refine .inr ⟨after, rfl, ⟨step.spares, bare, empty, ended⟩, fun before current => ?_⟩
        exact fresh_publish_of_idle regular flushed (fresh before)
          (current.step step same.staging coherent.emptied) ended
    | true =>
        rcases commitTransaction_cases regular flushed bare still empty with
          ⟨e, later, failed, continued⟩ | ⟨later, done, rests, right⟩
        · exact .inl ⟨e, later, failed, continues.trans continued⟩
        · refine .inr ⟨later, done, ⟨step.spares.trans rests.spares, rests.bare, rests.kept,
            rests.idle⟩, fun before current => ?_⟩
          have frames := @Work.Frames.onTransaction σ Unit (Transaction.commit pipeline.source) after
          rw [done] at frames
          rw [frames.staging, frames.shared]
          exact right (fresh before) (current.step step same.staging coherent.emptied)

/-- A commit that fails publishes nothing. One that goes through publishes what is right for the data
that are committed then. -/
theorem Shared.commit_ends (coherent : scene.Coherent picture pipeline queued) (required : Bool)
    (idle : required = false → scene.Idle picture queued) :
    (∃ e after, Shared.commit pipeline required scene = (.error e, after) ∧
        scene.Continues picture pipeline queued after) ∨
      ∃ after, Shared.commit pipeline required scene = (.ok (), after) ∧
        scene.Rests picture pipeline after ∧ after.Coherent picture pipeline (fun _ => False) ∧
        (pipeline.Fresh (picture.committed scene.source) scene.shared → scene.Current picture pipeline →
          pipeline.Fresh (picture.committed after.source) after.shared) := by
  have unfolded : Shared.commit pipeline required scene =
      (Local.commit pipeline required >>= fun _ => Shared.publish) scene := rfl
  rw [unfolded, Action.bind_apply]
  cases ended : scene.executor.closed with
  | true =>
      rw [Local.commit_of_closed ended]
      exact .inl ⟨_, scene, rfl, .refl coherent fun _ => id⟩
  | false =>
      rw [Local.commit_of_open ended, clearLocal_of_open ended]
      have frames := @Local.frames_finishCommit σ pipeline required scene.forget
      have forgets := Scene.Continues.forget coherent fun _ => id
      rcases finishCommit_cases regular coherent.forget ended rfl required idle with
        ⟨e, after, failed, continues⟩ | ⟨after, done, rests, right⟩
      · rw [failed]
        exact .inl ⟨e, after, rfl, forgets.trans continues⟩
      · rw [done] at frames ⊢
        have still : after.executor.closed = false := frames.closed.trans ended
        have published : scene.Rests picture pipeline (Shared.publish after).2 :=
          rests.of_same rfl rfl rfl rfl rfl rfl
        refine .inr ⟨_, Shared.publish_apply after, published, published.coherent rfl fun gone => ?_,
          fun fresh current => right fresh current _⟩
        exact absurd (still.symm.trans gone) Bool.false_ne_true

theorem Shared.rollback_ends (coherent : scene.Coherent picture pipeline queued) (required : Bool)
    (idle : required = false → scene.Idle picture queued) :
    scene.Rests picture pipeline (Shared.rollback pipeline required scene).2 ∧
      (Shared.rollback pipeline required scene).2.Coherent picture pipeline (fun _ => False) ∧
      scene.Withholds picture (Shared.rollback pipeline required scene).2 := by
  have after : (Shared.rollback pipeline required scene).2 =
      { (Local.rollback pipeline required scene).2 with
        executor := { (Local.rollback pipeline required scene).2.executor with staging := [] } } :=
    rfl
  rw [after]
  cases ended : scene.executor.closed with
  | true =>
      rw [Local.rollback_of_closed ended]
      have rests := coherent.rests_of_none (coherent.ended ended)
      have unstaged : scene.Rests picture pipeline
          { scene with executor := { scene.executor with staging := [] } } :=
        rests.of_same rfl rfl rfl rfl rfl rfl
      exact ⟨unstaged, unstaged.coherent rfl coherent.ended, .of_same rfl rfl (.refl _)⟩
  | false =>
      rw [Local.rollback_of_open ended, clearLocal_of_open ended]
      have frames := @Local.frames_finishRollback σ pipeline required scene.forget
      obtain ⟨rests, committed⟩ := rests_finishRollback regular coherent.forget.tidy rfl required
        fun optional => (idle optional).1
      have unstaged : scene.Rests picture pipeline
          { (Local.finishRollback pipeline required scene.forget).2 with executor :=
            { (Local.finishRollback pipeline required scene.forget).2.executor with staging := [] } } :=
        rests.of_same rfl rfl rfl rfl rfl rfl
      refine ⟨unstaged, unstaged.coherent rfl fun gone => ?_, unstaged.spares, committed, ?_⟩
      · exact absurd ((frames.closed.trans ended).symm.trans gone) Bool.false_ne_true
      · rw [frames.shared]
        exact .refl _

theorem rests_closeTransaction (bare : scene.Bare picture pipeline)
    (kept : scene.executor.localCache = []) :
    scene.Rests picture pipeline (Work.onTransaction (Transaction.close pipeline.source) scene).2 ∧
      picture.committed (Work.onTransaction (Transaction.close pipeline.source) scene).2.source =
        picture.committed scene.source ∧
      (Work.onTransaction (Transaction.close pipeline.source) scene).2.connection = none := by
  cases own : scene.connection with
  | none =>
      rw [close_of_none own]
      obtain ⟨strategy, unlinked, owns⟩ := bare
      refine ⟨⟨.of_same rfl rfl, ⟨strategy, unlinked, owns.strategy, owns.manual, owns.isOpen,
        by rintro _ ⟨⟩, owns.distinct⟩, kept, ?_⟩, rfl, own⟩
      exact congrArg updatesOf (@Scene.standing_of_none σ picture scene own)
  | some c =>
      obtain ⟨isOpen, manual⟩ := manual_of_own regular bare own
      obtain ⟨ends, committed, -⟩ := regular.isolates.rollback scene.source c isOpen
      have closes := regular.isolates.closeConnection (pipeline.source.rollback c scene.source).2 c
      have drops := regular.isolates.dropConnection
        (pipeline.source.closeConnection c (pipeline.source.rollback c scene.source).2).2 c
      rw [close_of_manual own manual]
      obtain ⟨strategy, unlinked, owns⟩ := bare
      refine ⟨⟨⟨own ▸ (ends.spares.trans closes.spares).trans drops.spares, by rintro _ ⟨⟩⟩,
        ⟨strategy, unlinked, owns.strategy, owns.manual, by rintro _ ⟨⟩, by rintro _ ⟨⟩,
          owns.distinct⟩, kept, ?_⟩, ?_, rfl⟩
      · rfl
      · exact drops.committed.trans (closes.committed.trans committed)

theorem Local.rests_close {queued : String → Prop} (tidy : scene.Tidy picture pipeline queued)
    (isOpen : scene.executor.closed = false) (required : Bool)
    (idle : required = false → updatesOf (scene.standing picture) = []) :
    scene.Rests picture pipeline (Local.close pipeline required scene).2 ∧
      picture.committed (Local.close pipeline required scene).2.source =
        picture.committed scene.source ∧
      (Local.close pipeline required scene).2.connection = none ∧
      (Local.close pipeline required scene).2.shared = scene.shared ∧
      (Local.close pipeline required scene).2.executor.staging = scene.executor.staging := by
  rw [Local.close_of_open isOpen, Local.rollback_of_open isOpen, clearLocal_of_open isOpen]
  have frames := @Local.frames_finishRollback σ pipeline required scene.forget
  obtain ⟨rolled, committed⟩ := @rests_finishRollback σ picture pipeline scene.forget regular
    queued (tidy.of_same rfl rfl rfl) rfl required idle
  obtain ⟨closed, committed', own⟩ := rests_closeTransaction regular rolled.bare rolled.kept
  refine ⟨?_, committed'.trans committed, own, frames.shared, frames.staging⟩
  have both : scene.forget.Rests picture pipeline _ :=
    ⟨rolled.spares.trans closed.spares, closed.bare, closed.kept, closed.idle⟩
  exact both.of_same rfl rfl rfl rfl rfl closed.kept.symm

/-- A close gives up what was not committed. It publishes only where nothing was updated, and then what
is right for the committed data. -/
theorem Shared.close_ends (coherent : scene.Coherent picture pipeline queued)
    (isOpen : scene.executor.closed = false) (required : Bool)
    (idle : required = false → scene.Idle picture queued) :
    scene.Rests picture pipeline (Shared.close pipeline required scene).2 ∧
      (Shared.close pipeline required scene).2.Coherent picture pipeline (fun _ => False) ∧
      (pipeline.Fresh (picture.committed scene.source) scene.shared →
        (required = false → scene.Current picture pipeline) →
        pipeline.Fresh (picture.committed (Shared.close pipeline required scene).2.source)
          (Shared.close pipeline required scene).2.shared) := by
  cases required with
  | true =>
      have unfolded : (Shared.close pipeline true scene).2 =
          (Local.close pipeline true
            { scene with executor := { scene.executor with staging := [] } }).2 := rfl
      obtain ⟨rests, committed, own, shared, staging⟩ := @Local.rests_close σ picture pipeline
        { scene with executor := { scene.executor with staging := [] } } regular queued
        (coherent.tidy.of_same rfl rfl rfl) isOpen true (by rintro ⟨⟩)
      rw [unfolded, committed, shared]
      have rests' := @Scene.Rests.of_same σ picture pipeline scene _ _ _ rests rfl rfl rfl rfl rfl rfl
      exact ⟨rests', rests.coherent staging fun _ => own, fun fresh _ => fresh⟩
  | false =>
      have unfolded : (Shared.close pipeline false scene).2 =
          (Local.close pipeline false (Shared.publish scene).2).2 := rfl
      obtain ⟨rests, committed, own, shared, staging⟩ := @Local.rests_close σ picture pipeline
        (Shared.publish scene).2 regular queued (coherent.tidy.of_same rfl rfl rfl) isOpen false
        fun _ => (idle rfl).1
      rw [unfolded, committed, shared]
      have rests' := @Scene.Rests.of_same σ picture pipeline scene _ _ _ rests rfl rfl rfl rfl rfl rfl
      exact ⟨rests', rests.coherent staging fun _ => own, fun fresh current =>
        fresh_publish_of_idle regular coherent fresh (current rfl) (idle rfl).1 _⟩

end Executor

end MappedSql
