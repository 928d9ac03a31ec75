import MappedSql.Proofs.Session.Publication
import MappedSql.Proofs.Session.Streaming

namespace MappedSql

variable {σ α β : Type}

open Standing (baseOf updatesOf)
open Session (toScene)

variable {picture : Picture σ} {pipeline : Pipeline σ} {queued : String → Prop}

namespace Executor

variable (regular : pipeline.Regular picture)
  (cached : pipeline.configuration.settings.cacheEnabled = true) {statement : MappedStatement}
  (known : ∃ id, pipeline.configuration.statement id = .ok statement) {scene : Scene σ}
  (coherent : scene.Coherent picture pipeline queued)

include regular coherent

theorem continues_flush :
    scene.Continues picture pipeline queued (flush pipeline scene).2 := by
  rw [flush, regular.plain.call_eq]
  exact Local.continues_flush regular coherent

include cached known

theorem continues_query (parameter : Value) (bounds : RowBounds) :
    scene.Continues picture pipeline queued
      (query pipeline statement parameter bounds scene).2 := by
  rcases query_cases regular.plain.direct cached statement parameter bounds scene with
    ⟨e, failed⟩ | ⟨bound, key, bounded, keyed, answered⟩
  · rw [failed]
    exact .refl coherent fun _ => id
  · rw [answered]
    exact Shared.continues_keyedQuery regular coherent ⟨⟨known, parameter, bounded⟩, keyed⟩

theorem continues_update :
    scene.Continues picture pipeline (fun sql => queued sql ∨ pipeline.Sends statement sql)
      (update pipeline statement scene).2 := by
  rw [update, regular.plain.call_eq]
  simp only [choose_of_cached cached]
  exact Shared.continues_update regular known coherent

theorem continues_queryCursor (parameter : Value) (bounds : RowBounds) :
    scene.Continues picture pipeline queued
        (queryCursor pipeline statement parameter bounds scene).2 ∧
      ∀ cursor, (queryCursor pipeline statement parameter bounds scene).1 = .ok cursor →
        (queryCursor pipeline statement parameter bounds scene).2.Hands picture pipeline cursor ∧
          (queryCursor pipeline statement parameter bounds scene).2.Coherent picture pipeline
            (fun _ => False) := by
  rw [queryCursor, regular.plain.call_eq]
  simp only [choose_of_cached cached]
  exact Shared.continues_queryCursor regular known parameter coherent

end Executor

theorem Scene.Hands.continues {scene : Scene σ} {cursor : Cursor}
    (hands : scene.Hands picture pipeline cursor)
    (coherent : scene.Coherent picture pipeline (fun _ => False)) {state : σ}
    (keeps : picture.Keeps (cursor.statement = some ·) scene.source state) :
    scene.Continues picture pipeline queued (scene.withSource state) := by
  obtain ⟨strategy, idle, link, owns, own⟩ := hands
  have isOpen : scene.executor.closed = false := by
    obtain ⟨prepared, -, connected, -⟩ := owns.linked link List.mem_cons_self
    cases ended : scene.executor.closed with
    | true =>
        rw [coherent.ended ended] at connected
        cases connected
    | false => rfl
  have mine (st : StatementId) (same : cursor.statement = some st) :
      ∃ sql, (sql, st) ∈ link :: strategy.links := by
    rw [own, Option.some.injEq] at same
    exact ⟨link.1, same ▸ List.mem_cons_self⟩
  have apart (sql : String) (st : StatementId) (mem : (sql, st) ∈ strategy.links) :
      ¬cursor.statement = some st := by
    intro same
    rw [own, Option.some.injEq] at same
    exact owns.apart sql st mem same.symm
  have step := owns.step_keeps keeps mine (fun _ => False)
  have left := owns.keeps keeps (List.sublist_cons_self _ _) apart
  have advanced := coherent.advance isOpen step ⟨rfl, rfl, rfl, rfl⟩ (left.tidy_of_idle idle)
    (by rintro _ (⟨⟨⟩⟩ | ⟨⟨⟩⟩)) (by rintro _ _ _ (⟨⟨⟩⟩ | ⟨⟨⟩⟩))
  exact .of_step step rfl advanced (fun _ no => no.elim) fun _ no => no.elim

def Scene.Sound (picture : Picture σ) (pipeline : Pipeline σ) (dirty : Bool) (scene : Scene σ) :
    Prop :=
  ∃ queued, scene.Coherent picture pipeline queued ∧ (dirty = false → scene.Idle picture queued)

namespace Session

/-- What a call leaves of a session without autocommit. What it publishes is right if the transaction
is current. -/
structure Leaves (picture : Picture σ) (pipeline : Pipeline σ) (may : Bool)
    (before after : SessionScene σ) : Prop where
  spares : (toScene before).Spares picture (toScene after)
  manual : after.session.autocommit = false
  sound : (toScene after).Sound picture pipeline after.session.dirty
  fresh : pipeline.Fresh (picture.committed before.source) before.shared →
    (may → (toScene before).Current picture pipeline) →
    pipeline.Fresh (picture.committed after.source) after.shared

theorem leaves_of_continues {may : String → Prop} {before after : SessionScene σ}
    (continues : (toScene before).Continues picture pipeline may (toScene after))
    (manual : after.session.autocommit = false)
    (idle : after.session.dirty = false →
      updatesOf ((toScene before).standing picture) = [] ∧ ∀ sql, ¬may sql) (publishes : Bool) :
    Leaves picture pipeline publishes before after := by
  obtain ⟨later, known, coherent⟩ := continues.coherent
  refine ⟨continues.withholds.spares, manual, ⟨later, coherent, fun clean => ?_⟩, fun fresh _ => ?_⟩
  · obtain ⟨unchanged, nothing⟩ := idle clean
    refine ⟨List.eq_nil_iff_forall_not_mem.2 fun sql mem => ?_, fun sql waits =>
      nothing sql (known sql waits)⟩
    rcases continues.updates sql mem with before | ran
    · rw [unchanged] at before
      cases before
    · exact nothing sql ran
  · have committed : picture.committed after.source = picture.committed before.source :=
      continues.withholds.committed
    rw [committed]
    exact fresh.of_sameEntries continues.withholds.entries

variable {scene : SessionScene σ}

theorem required_of_clean (manual : scene.session.autocommit = false) {force : Bool}
    (optional : scene.session.required force = false) : scene.session.dirty = false := by
  simp only [required, manual, Bool.not_false, Bool.true_and, Bool.or_eq_false_iff] at optional
  exact optional.1

variable (regular : pipeline.Regular picture)
  (cached : pipeline.configuration.settings.cacheEnabled = true)
  (manual : scene.session.autocommit = false)
  (coherent : (toScene scene).Coherent picture pipeline queued)
  (idle : scene.session.dirty = false → (toScene scene).Idle picture queued)

section

include regular cached coherent

theorem continues_cursor (id : String) (bounds : RowBounds) :
    (toScene scene).Continues picture pipeline queued (toScene (cursor pipeline id bounds scene).2) ∧
      ((cursor pipeline id bounds scene).2.session.autocommit = scene.session.autocommit ∧
        (cursor pipeline id bounds scene).2.session.dirty = scene.session.dirty) ∧
      ∀ opened, (cursor pipeline id bounds scene).1 = .ok opened →
        (toScene (cursor pipeline id bounds scene).2).Hands picture pipeline opened ∧
          (toScene (cursor pipeline id bounds scene).2).Coherent picture pipeline (fun _ => False) := by
  cases found : pipeline.configuration.statement id with
  | error e =>
      have failed : cursor pipeline id bounds scene = (.error e, scene) := by
        rw [cursor, found]
        rfl
      rw [failed]
      exact ⟨.refl coherent fun _ waits => waits, ⟨rfl, rfl⟩, by rintro _ ⟨⟩⟩
  | ok statement =>
      have opening : cursor pipeline id bounds scene =
          (perform (Executor.queryCursor pipeline statement scene.parameter bounds)).inContext
            s!"Error opening cursor for `{id}`" scene := by
        rw [cursor, found]
        rfl
      obtain ⟨continues, done⟩ := Executor.continues_queryCursor regular cached ⟨id, found⟩ coherent
        scene.parameter bounds
      rw [opening, perform_apply]
      refine ⟨continues, ⟨rfl, rfl⟩, fun opened made => ?_⟩
      apply done opened
      cases went : (Executor.queryCursor pipeline statement scene.parameter bounds (toScene scene)).1
        with
      | error e =>
          rw [went] at made
          cases made
      | ok other =>
          rw [went] at made
          exact made

theorem continues_select {τ : Type} (id : String) (bounds : RowBounds)
    (receive : Nat → Value → Action τ Bool) (receiver : τ) :
    (toScene scene).Continues picture pipeline queued
        (toScene (select pipeline id bounds receive receiver scene).2) ∧
      (select pipeline id bounds receive receiver scene).2.session.autocommit =
        scene.session.autocommit ∧
      (select pipeline id bounds receive receiver scene).2.session.dirty = scene.session.dirty := by
  obtain ⟨continues, ⟨autocommit, dirty⟩, hands⟩ := continues_cursor regular cached coherent id bounds
  have attempted : (cursor pipeline id bounds).attempt scene =
      (.ok (cursor pipeline id bounds scene).1, (cursor pipeline id bounds scene).2) := rfl
  rw [select, Action.bind_apply, attempted]
  rcases went : cursor pipeline id bounds scene with ⟨e | opened, after⟩ <;>
    rw [went] at continues autocommit dirty hands
  · exact ⟨continues, autocommit, dirty⟩
  · obtain ⟨handed, coherent'⟩ := hands opened rfl
    have read := reads_stream regular.isolates receive opened.bounds.limit
      ((after.source, opened), receiver)
    exact ⟨continues.trans (handed.continues coherent' read.keeps), autocommit, dirty⟩

end

include manual coherent idle

theorem leaves_refl (publishes : Bool) : Leaves picture pipeline publishes scene scene :=
  leaves_of_continues (.refl coherent fun _ => id) manual idle publishes

omit coherent in
theorem leaves_of_work {work : Work σ α}
    (continues : (toScene scene).Continues picture pipeline queued (work (toScene scene)).2)
    (publishes : Bool) :
    Leaves picture pipeline publishes scene (perform work scene).2 := by
  have left : (toScene scene).Continues picture pipeline queued (toScene (perform work scene).2) :=
    continues
  exact leaves_of_continues left manual idle publishes

include regular cached

theorem leaves_list (id : String) (bounds : RowBounds) (publishes : Bool) :
    Leaves picture pipeline publishes scene (list pipeline id bounds scene).2 := by
  cases found : pipeline.configuration.statement id with
  | error e =>
      have failed : list pipeline id bounds scene = (.error e, scene) := by
        rw [list, found]
        rfl
      rw [failed]
      exact leaves_refl manual coherent idle publishes
  | ok statement =>
      have after : (list pipeline id bounds scene).2 =
          (perform (Executor.query pipeline statement scene.parameter bounds) scene).2 := by
        rw [list, found]
        rfl
      rw [after]
      exact leaves_of_work manual idle
        (Executor.continues_query regular cached ⟨id, found⟩ coherent _ _) publishes

theorem leaves_update (id : String) (publishes : Bool) :
    Leaves picture pipeline publishes scene (update pipeline id scene).2 := by
  cases found : pipeline.configuration.statement id with
  | error e =>
      have failed : update pipeline id scene = (.error e, scene) := by
        rw [update, found]
        rfl
      rw [failed]
      exact leaves_refl manual coherent idle publishes
  | ok statement =>
      have after : (update pipeline id scene).2 = (perform (Executor.update pipeline statement)
          { scene with session := { scene.session with dirty := true } }).2 := by
        rw [update, found]
        rfl
      have left : (toScene scene).Continues picture pipeline
          (fun sql => queued sql ∨ pipeline.Sends statement sql)
          (toScene (update pipeline id scene).2) := by
        rw [after]
        exact Executor.continues_update regular cached ⟨id, found⟩ coherent
      refine leaves_of_continues left ?_ ?_ publishes
      · rw [after]
        exact manual
      · rw [after]
        rintro ⟨⟩

theorem leaves_commit (force : Bool) :
    Leaves picture pipeline (commit pipeline force scene).1.isOk scene
      (commit pipeline force scene).2 := by
  have optional (same : scene.session.required force = false) := idle (required_of_clean manual same)
  rw [commit_apply, ending_apply, Executor.commit_eq regular.plain.direct cached]
  rcases Executor.Shared.commit_ends regular coherent (scene.session.required force) optional with
    ⟨e, after, failed, continues⟩ | ⟨after, done, rests, rested, right⟩
  · have left : (toScene scene).Continues picture pipeline queued (toScene (leave scene after)) :=
      continues
    rw [failed]
    exact leaves_of_continues left manual idle false
  · rw [done]
    exact ⟨rests.spares, manual, ⟨_, rested, fun _ => ⟨rests.idle, fun _ => id⟩⟩,
      fun fresh current => right fresh (current rfl)⟩

theorem leaves_rollback (force publishes : Bool) :
    Leaves picture pipeline publishes scene (rollback pipeline force scene).2 := by
  have optional (same : scene.session.required force = false) := idle (required_of_clean manual same)
  obtain ⟨rests, rested, withholds⟩ :=
    Executor.Shared.rollback_ends regular coherent (scene.session.required force) optional
  rw [rollback_apply, ending_apply, Executor.rollback_eq regular.plain.direct cached]
  rcases went : Executor.Shared.rollback pipeline (scene.session.required force) (toScene scene) with
    ⟨e | _, after⟩ <;> rw [went] at rests rested withholds
  all_goals
    refine ⟨rests.spares, manual, ⟨_, rested, fun _ => ⟨rests.idle, fun _ => id⟩⟩, fun fresh _ => ?_⟩
    have committed : picture.committed after.source = picture.committed scene.source :=
      withholds.committed
    have still := fresh.of_sameEntries withholds.entries
    rw [← committed] at still
    exact still

theorem leaves_close :
    Leaves picture pipeline (!scene.session.required false) scene (close pipeline scene).2 := by
  have optional (same : scene.session.required false = false) := idle (required_of_clean manual same)
  rw [close_apply]
  cases ended : scene.session.isClosed with
  | true => exact leaves_refl manual coherent idle _
  | false =>
      obtain ⟨rests, rested, right⟩ := Executor.Shared.close_ends regular coherent ended
        (scene.session.required false) optional
      have worked : perform (Executor.Shared.close pipeline (scene.session.required false)) scene =
          ((Executor.Shared.close pipeline (scene.session.required false) (toScene scene)).1,
            leave scene
              (Executor.Shared.close pipeline (scene.session.required false) (toScene scene)).2) := rfl
      rw [if_neg Bool.false_ne_true, Executor.close_eq cached, Action.bind_apply, worked]
      rcases went : Executor.Shared.close pipeline (scene.session.required false) (toScene scene) with
        ⟨e | _, after⟩ <;> rw [went] at rests rested right
      all_goals
        refine ⟨rests.spares, manual, ⟨_, rested, fun _ => ⟨rests.idle, fun _ => id⟩⟩,
          fun fresh current => right fresh fun optional => current ?_⟩
        rw [optional]
        rfl

theorem Call.leaves (call : Call) :
    Leaves picture pipeline (call.publishes scene.session (call.act pipeline scene).1) scene
      (call.act pipeline scene).2 := by
  cases call with
  | list id bounds =>
      have after : (Call.act pipeline (.list id bounds) scene).2 =
          (Session.list pipeline id bounds scene).2 := after_unit _ scene
      rw [after]
      exact leaves_list regular cached manual coherent idle id bounds _
  | one id =>
      have after : (Call.act pipeline (.one id) scene).2 =
          (Session.list pipeline id .unbounded scene).2 :=
        (after_unit _ scene).trans (one_after id scene)
      rw [after]
      exact leaves_list regular cached manual coherent idle id .unbounded _
  | cursor id bounds =>
      have after : (Call.act pipeline (.cursor id bounds) scene).2 =
          (Session.cursor pipeline id bounds scene).2 := after_unit _ scene
      obtain ⟨continues, ⟨autocommit, dirty⟩, -⟩ :=
        continues_cursor regular cached coherent id bounds
      rw [after]
      exact leaves_of_continues continues (autocommit.trans manual)
        (fun clean => idle (dirty.symm.trans clean)) _
  | select id bounds receive receiver =>
      have after : (Call.act pipeline (.select id bounds receive receiver) scene).2 =
          (Session.select pipeline id bounds receive receiver scene).2 := after_unit _ scene
      obtain ⟨continues, autocommit, dirty⟩ :=
        continues_select regular cached coherent id bounds receive receiver
      rw [after]
      exact leaves_of_continues continues (autocommit.trans manual)
        (fun clean => idle (dirty.symm.trans clean)) _
  | update id =>
      have after : (Call.act pipeline (.update id) scene).2 = (Session.update pipeline id scene).2 :=
        after_unit _ scene
      rw [after]
      exact leaves_update regular cached manual coherent idle id _
  | flush =>
      have after : (Call.act pipeline .flush scene).2 = (perform (Executor.flush pipeline) scene).2 :=
        after_unit _ scene
      rw [after]
      exact leaves_of_work manual idle (Executor.continues_flush regular coherent) _
  | commit force => exact leaves_commit regular cached manual coherent idle force
  | rollback force => exact leaves_rollback regular cached manual coherent idle force _
  | clearCache =>
      have cleared := Executor.Local.coherent_clearLocal coherent
      have continues : (toScene scene).Continues picture pipeline queued
          (Executor.clearLocal (toScene scene)).2 := by
        rw [Executor.clearLocal_apply] at cleared ⊢
        exact .of_same rfl (by dsimp only; split <;> rfl) (.refl _) cleared fun _ => id
      exact leaves_of_work manual idle continues _
  | close => exact leaves_close regular cached manual coherent idle

end Session

structure Scene.Undisturbed (picture : Picture σ) (scene : Scene σ) (state : σ) : Prop where
  isOpen : ∀ c, scene.connection = some c → picture.isOpen scene.source c → picture.isOpen state c
  standing : ∀ c, scene.connection = some c → picture.isOpen scene.source c →
    picture.standing state c = picture.standing scene.source c
  statements : ∀ link ∈ scene.executor.strategy.links, ∀ prepared,
    picture.prepared scene.source link.2 = some prepared →
    scene.connection = some prepared.connection → picture.isOpen scene.source prepared.connection →
    picture.prepared state link.2 = some prepared

namespace Scene

variable {scene : Scene σ} {state : σ}

theorem Undisturbed.refl (scene : Scene σ) : scene.Undisturbed picture scene.source :=
  ⟨fun _ _ => id, fun _ _ _ => rfl, fun _ _ _ found _ _ => found⟩

theorem undisturbed_of_spares {own : Option ConnectionId}
    (spares : picture.Spares own scene.source state)
    (foreign : ∀ c, scene.connection = some c → own ≠ some c) : scene.Undisturbed picture state where
  isOpen := fun c mine isOpen => spares.isOpen c isOpen (foreign c mine)
  standing := fun c mine isOpen => spares.standing c isOpen (foreign c mine)
  statements := fun link _ prepared found mine isOpen =>
    spares.statements link.2 prepared found isOpen (foreign _ mine)

/-- What does not disturb a unit of work leaves it coherent. The shared caches and the parameter of a
call do not matter to it. -/
theorem Coherent.undisturbed (coherent : scene.Coherent picture pipeline queued)
    (undisturbed : scene.Undisturbed picture state) (shared : SharedCaches) (parameter : Value) :
    Coherent picture pipeline queued ⟨state, shared, scene.executor, parameter⟩ ∧
      (⟨state, shared, scene.executor, parameter⟩ : Scene σ).standing picture =
        scene.standing picture := by
  obtain ⟨strategy, sound, owns⟩ := coherent.tidy
  have same : (⟨state, shared, scene.executor, parameter⟩ : Scene σ).standing picture =
      scene.standing picture := by
    cases own : scene.connection with
    | none =>
        rw [standing_of_none own]
        exact @standing_of_none σ picture ⟨state, shared, scene.executor, parameter⟩ own
    | some c =>
        rw [standing_of_some own]
        exact (@standing_of_some σ picture ⟨state, shared, scene.executor, parameter⟩ c own).trans
          (undisturbed.standing c own (owns.isOpen c own))
  have tidy : Tidy picture pipeline queued ⟨state, shared, scene.executor, parameter⟩ := by
    refine ⟨strategy, sound, owns.strategy, owns.manual, fun c own => ?_, fun link mem => ?_,
      owns.distinct⟩
    · exact undisturbed.isOpen c own (owns.isOpen c own)
    · obtain ⟨prepared, found, own, fits⟩ := owns.linked link mem
      rw [← owns.strategy] at mem
      exact ⟨prepared, undisturbed.statements link mem prepared found own (owns.isOpen _ own), own,
        fits⟩
  refine ⟨⟨tidy, coherent.ended, ?_, ?_, coherent.apart, ?_, coherent.emptied⟩, same⟩
  · rw [same]
    exact coherent.kept
  · rw [same]
    exact coherent.staged
  · rw [same]
    exact coherent.cleared

end Scene

namespace Session

structure SoundAt (picture : Picture σ) (pipeline : Pipeline σ) (state : σ) (session : Session) :
    Prop where
  manual : session.autocommit = false
  sound : ∀ shared parameter,
    (toScene ⟨state, shared, session, parameter⟩).Sound picture pipeline session.dirty

def connection (session : Session) : Option ConnectionId :=
  session.executor.transaction.connection

variable {state : σ} {session : Session}

theorem SoundAt.undisturbed {shared : SharedCaches} {parameter : Value}
    (manual : session.autocommit = false)
    (sound : (toScene ⟨state, shared, session, parameter⟩).Sound picture pipeline session.dirty)
    {later : σ} (undisturbed :
      (toScene ⟨state, shared, session, parameter⟩).Undisturbed picture later) :
    session.SoundAt picture pipeline later := by
  refine ⟨manual, fun shared' parameter' => ?_⟩
  obtain ⟨queued, coherent, idle⟩ := sound
  obtain ⟨coherent', same⟩ := coherent.undisturbed undisturbed shared' parameter'
  refine ⟨queued, coherent', fun clean => ⟨?_, (idle clean).2⟩⟩
  have unchanged := (idle clean).1
  rw [← same] at unchanged
  exact unchanged

theorem SoundAt.isOpen (sound : session.SoundAt picture pipeline state) {c : ConnectionId}
    (own : session.connection = some c) : picture.isOpen state c := by
  obtain ⟨queued, coherent, -⟩ := sound.sound [] .null
  obtain ⟨strategy, -, owns⟩ := coherent.tidy
  exact owns.isOpen c own

theorem soundAt_onTransaction (kind : ExecutorKind) {transaction : Transaction} (drains : Drains)
    (manual : transaction.autocommit = false) (unconnected : transaction.connection = none)
    (state : σ) : (onTransaction kind transaction false drains).SoundAt picture pipeline state := by
  refine ⟨rfl, fun shared parameter => ?_⟩
  have unbegun : (toScene ⟨state, shared, onTransaction kind transaction false drains, parameter⟩).standing
      picture = none := Scene.standing_of_none unconnected
  have bare : (toScene ⟨state, shared, onTransaction kind transaction false drains, parameter⟩).Bare
      picture pipeline := by
    refine ⟨(onTransaction kind transaction false drains).executor.strategy, ?_, rfl, manual,
      fun c own => ?_, by rintro _ ⟨⟩, List.nodup_nil⟩
    · cases kind <;> rfl
    · cases unconnected.symm.trans own
  have coherent := Executor.coherent_of_empty bare.tidy (fun _ => unconnected) rfl (fun _ => rfl)
    (congrArg updatesOf unbegun)
  exact ⟨fun _ => False, coherent, fun _ => ⟨congrArg updatesOf unbegun, fun _ => id⟩⟩

end Session

end MappedSql
