import MappedSql.Proofs.Execution.Steps

namespace MappedSql

variable {σ α β : Type}

open Work (Ensures)

variable {picture : Picture σ} {pipeline : Pipeline σ} {strategy : Strategy}
  {links : List (String × StatementId)} {sqls : String → Prop}

def Pipeline.written (pipeline : Pipeline σ) (sql : String) : String :=
  pipeline.configuration.settings.markerStyle.number sql

def Scene.Stable (picture : Picture σ) (holds : Scene σ → Prop) : Prop :=
  ∀ before after : Scene σ, holds before → before.Step picture (fun _ => False) after → holds after

theorem Scene.stable_answered (handler : Handler) (rows : List Value) :
    Scene.Stable picture (Scene.Answered picture pipeline handler rows) :=
  fun _ _ answered step => answered.step step

theorem Work.Ensures.carry {pre : Scene σ → Prop} {act : Work σ α} {post : α → Scene σ → Prop}
    {fails holds : Scene σ → Prop} (stable : Scene.Stable picture holds)
    (ensures : Ensures picture (fun _ => False) pre act post fails) :
    Ensures picture (fun _ => False) (fun scene => pre scene ∧ holds scene) act
      (fun a scene => post a scene ∧ holds scene) fails := by
  rintro scene ⟨before, held⟩
  obtain ⟨step, done, failed⟩ := ensures scene before
  exact ⟨step, fun a made => ⟨done a made, stable _ _ held step⟩, failed⟩

theorem Work.Ensures.knowing {next : Executor → Work σ α} {post : α → Scene σ → Prop}
    {fails : Scene σ → Prop}
    (ensures : ∀ executor : Executor, executor.strategy = strategy →
      Ensures picture sqls (Scene.Owns picture pipeline strategy links) (next executor) post fails) :
    Ensures picture sqls (Scene.Owns picture pipeline strategy links) (Work.executor >>= next) post
      fails :=
  fun scene owns => ensures scene.executor owns.strategy scene owns

variable (regular : pipeline.Regular picture)

include regular

theorem ensures_withStatement {sql : String} {st : StatementId} {use : Work σ α}
    {holds : α → Scene σ → Prop} (stable : ∀ a, Scene.Stable picture (holds a))
    (used : Ensures picture sqls (Scene.Owns picture pipeline strategy ((sql, st) :: links)) use
      (fun a scene => scene.Owns picture pipeline strategy ((sql, st) :: links) ∧ holds a scene)
      (Scene.Owns picture pipeline strategy ((sql, st) :: links))) :
    Ensures picture sqls (Scene.Owns picture pipeline strategy ((sql, st) :: links))
      (Strategy.withStatement pipeline st use)
      (fun a scene => scene.Owns picture pipeline strategy links ∧ holds a scene)
      (Scene.Owns picture pipeline strategy links) := by
  have closed : Ensures picture (fun _ => False)
      (Scene.Owns picture pipeline strategy ((sql, st) :: links))
      (Work.onSource (pipeline.source.finishStatement st)).attempt
      (fun _ => Scene.Owns picture pipeline strategy links)
      (Scene.Owns picture pipeline strategy links) := by
    apply (ensures_finish regular sql st).attempt.weaken (fun _ => id) _ fun _ => id
    rintro (e | a) scene ⟨done, failed⟩
    · exact failed e rfl
    · exact done a rfl
  unfold Strategy.withStatement
  apply Ensures.bind used.attempt
  intro result
  cases result with
  | error e =>
      apply Ensures.bind ((closed.mono fun _ no => no.elim).weaken (fun _ holds => holds.2 e rfl)
        (fun _ _ => id) fun _ => id)
      intro closing
      exact Ensures.failed fun _ => id
  | ok a =>
      apply Ensures.bind (((closed.carry (stable a)).mono fun _ no => no.elim).weaken
        (fun _ holds => holds.1 a rfl) (fun _ _ => id) fun _ => id)
      intro closing
      apply Ensures.answered
      apply Ensures.bind (Ensures.ofResult (fun _ _ _ => id) fun _ holds => holds.1)
      intro _
      exact Ensures.pure a fun _ => id

variable {handler : Handler} (invokes : pipeline.Invokes handler)

include invokes

theorem ensures_updateOnce :
    Ensures picture (· = handler.preparedSql pipeline)
      (Scene.Owns picture pipeline strategy links) (Strategy.updateOnce pipeline handler)
      (fun _ => Scene.Owns picture pipeline strategy links)
      (Scene.Owns picture pipeline strategy links) := by
  apply Ensures.bind (ensures_prepareInTransaction regular invokes)
  intro st
  have used : Ensures picture (· = handler.preparedSql pipeline)
      (Scene.Owns picture pipeline strategy ((handler.bound.sql, st) :: links))
      (do
        handler.parameterize pipeline st
        handler.update pipeline st)
      (fun _ scene => scene.Owns picture pipeline strategy ((handler.bound.sql, st) :: links) ∧ True)
      (Scene.Owns picture pipeline strategy ((handler.bound.sql, st) :: links)) := by
    apply Ensures.bind (ensures_parameterize regular invokes List.mem_cons_self)
    intro _
    exact (ensures_update regular List.mem_cons_self).weaken (fun _ holds => holds.owns)
      (fun _ _ owns => ⟨owns, trivial⟩) fun _ => id
  exact (ensures_withStatement regular (fun _ _ _ _ _ => trivial) used).weaken (fun _ => id)
    (fun _ _ holds => holds.1) fun _ => id

theorem ensures_queryOnce :
    Ensures picture (fun _ => False)
      (Scene.Owns picture pipeline strategy links) (Strategy.queryOnce pipeline handler)
      (fun rows scene => scene.Owns picture pipeline strategy links ∧
        scene.Answered picture pipeline handler rows)
      (Scene.Owns picture pipeline strategy links) := by
  apply Ensures.bind (ensures_prepareInTransaction regular invokes)
  intro st
  apply ensures_withStatement regular (Scene.stable_answered handler)
  apply Ensures.bind (ensures_parameterize regular invokes List.mem_cons_self)
  intro _
  exact ensures_query regular List.mem_cons_self

def Scene.Opened (picture : Picture σ) (pipeline : Pipeline σ) (strategy : Strategy)
    (links : List (String × StatementId)) (cursor : Cursor) (scene : Scene σ) : Prop :=
  ∃ link, scene.Owns picture pipeline strategy (link :: links) ∧ cursor.statement = some link.2

theorem ensures_openOnce :
    Ensures picture sqls
      (Scene.Owns picture pipeline strategy links) (Strategy.openOnce pipeline handler)
      (Scene.Opened picture pipeline strategy links)
      (Scene.Owns picture pipeline strategy links) := by
  apply Ensures.bind (ensures_prepareInTransaction regular invokes)
  intro st
  apply Ensures.bind (ensures_parameterize regular invokes List.mem_cons_self).attempt
  intro result
  cases result with
  | ok =>
      exact (ensures_queryCursor regular).weaken (fun _ holds => (holds.1 () rfl).owns)
        (fun _ _ holds => ⟨_, holds⟩) fun _ => id
  | error e =>
      apply Ensures.bind ((ensures_finish regular handler.bound.sql st).quietly.weaken
        (fun _ holds => holds.2 e rfl) (fun _ _ => id) fun _ => id)
      intro _
      exact Ensures.throw e fun _ => id

def Scene.Reuses (picture : Picture σ) (pipeline : Pipeline σ) (scene : Scene σ) : Prop :=
  ∃ held, scene.Owns picture pipeline (.reuse held) held

omit regular invokes in
theorem nodup_kept {sql : String} {st : StatementId} {held : List (String × StatementId)}
    {scene : Scene σ} (owns : scene.Owns picture pipeline strategy ((sql, st) :: held)) :
    ((((sql, st) :: held.filter (·.1 != sql)).map Prod.snd)).Nodup :=
  owns.distinct.sublist ((List.filter_sublist.cons_cons _).map _)

omit regular invokes in
theorem mem_of_kept {sql : String} {st : StatementId} {held : List (String × StatementId)}
    (link : String × StatementId) (mem : link ∈ (sql, st) :: held.filter (·.1 != sql)) :
    link ∈ (sql, st) :: held := by
  rcases List.mem_cons.1 mem with rfl | mem
  · exact List.mem_cons_self
  · exact List.mem_cons_of_mem _ (List.mem_of_mem_filter mem)

omit invokes in
theorem ensures_hold {never : Scene σ → Prop} (sql : String) (st : StatementId)
    (held : List (String × StatementId)) :
    Ensures picture sqls (Scene.Owns picture pipeline (.reuse held) ((sql, st) :: held))
      (Strategy.hold pipeline sql st)
      (fun _ => Scene.Owns picture pipeline (.reuse ((sql, st) :: held.filter (·.1 != sql)))
        ((sql, st) :: held.filter (·.1 != sql))) never := by
  unfold Strategy.hold
  apply Ensures.knowing
  intro executor same
  simp only [same, Strategy.held]
  cases found : held.lookup sql with
  | none =>
      apply (ensures_setStrategy _).weaken (fun _ owns => owns.select mem_of_kept (nodup_kept owns))
        (fun _ _ => id) fun _ => id
  | some before =>
      have dropped : Ensures picture sqls
          (Scene.Owns picture pipeline (.reuse held) ((sql, st) :: held))
          (Work.onSource (modify (pipeline.source.dropStatement before)))
          (fun _ => Scene.Owns picture pipeline (.reuse held)
            ((sql, st) :: held.filter (·.1 != sql))) never := by
        apply Ensures.onSource
        intro scene owns
        obtain ⟨earlier, later, split, -⟩ := List.lookup_eq_some_iff.1 found
        have mem : (sql, before) ∈ held := by simp [split]
        have keeps := regular.isolates.dropStatement scene.source before
        refine ⟨owns.step_keeps keeps ?_ sqls, fun _ _ => ?_, by rintro _ ⟨⟩⟩
        · rintro _ rfl
          exact ⟨sql, List.mem_cons_of_mem _ mem⟩
        · apply owns.keeps keeps (List.filter_sublist.cons_cons _) _
          rintro sql' _ mem' rfl
          rcases List.mem_cons.1 mem' with equal | mem'
          · cases equal
            exact owns.apart _ _ mem rfl
          · obtain ⟨present, other⟩ := List.mem_filter.1 mem'
            have same := owns.same (List.mem_cons_of_mem _ present) (List.mem_cons_of_mem _ mem)
            simp [same] at other
      exact Ensures.bind dropped fun _ => ensures_setStrategy _

omit regular invokes in
theorem Scene.Owns.part {scene : Scene σ} {held : List (String × StatementId)}
    (owns : scene.Owns picture pipeline strategy held) {sql : String} {st : StatementId}
    (mem : (sql, st) ∈ held) :
    scene.Owns picture pipeline strategy ((sql, st) :: held.filter (·.1 != sql)) := by
  apply owns.select
  · intro link present
    rcases List.mem_cons.1 present with rfl | present
    · exact mem
    · exact List.mem_of_mem_filter present
  · rw [List.map_cons, List.nodup_cons]
    refine ⟨?_, owns.distinct.sublist (List.filter_sublist.map _)⟩
    intro present
    obtain ⟨⟨other, st'⟩, present, same⟩ := List.mem_map.1 present
    obtain ⟨kept, apart⟩ := List.mem_filter.1 present
    cases same
    simp [owns.same kept mem] at apart

theorem ensures_obtainHeld (held : List (String × StatementId)) :
    Ensures picture sqls (Scene.Owns picture pipeline (.reuse held) held)
      (Strategy.obtainHeld pipeline handler)
      (fun st scene => ∃ held', (handler.bound.sql, st) ∈ held' ∧
        scene.Holds picture pipeline (.reuse held') held' st (handler.request pipeline))
      (Scene.Reuses picture pipeline) := by
  unfold Strategy.obtainHeld
  apply Ensures.knowing
  intro executor same
  apply Ensures.bind Ensures.get
  intro seen
  simp only [same, Strategy.held]
  split
  next st found =>
      obtain ⟨present, -⟩ := Option.filter_eq_some_iff.1 found
      obtain ⟨earlier, later, split, -⟩ := List.lookup_eq_some_iff.1 present
      have mem : (handler.bound.sql, st) ∈ held := by simp [split]
      apply Ensures.bind ((ensures_parameterize regular invokes mem).weaken (fun _ => id)
        (fun _ _ => id) fun _ owns => ⟨held, owns⟩)
      intro _
      exact Ensures.pure st fun _ holds => ⟨held, mem, holds⟩
  next =>
      apply Ensures.bind ((ensures_prepareInTransaction regular invokes).weaken (fun _ => id)
        (fun _ _ => id) fun _ owns => ⟨held, owns⟩)
      intro st
      apply Ensures.bind (ensures_hold regular handler.bound.sql st held)
      intro _
      apply Ensures.bind ((ensures_parameterize regular invokes List.mem_cons_self).weaken
        (fun _ => id) (fun _ _ => id) fun _ owns => ⟨_, owns⟩)
      intro _
      exact Ensures.pure st fun _ holds => ⟨_, List.mem_cons_self, holds⟩

theorem ensures_updateHeld (held : List (String × StatementId)) :
    Ensures picture (· = handler.preparedSql pipeline)
      (Scene.Owns picture pipeline (.reuse held) held) (Strategy.updateHeld pipeline handler)
      (fun _ => Scene.Reuses picture pipeline) (Scene.Reuses picture pipeline) := by
  apply Ensures.bind (ensures_obtainHeld regular invokes held)
  intro st
  apply Ensures.whichever
  intro held'
  apply Ensures.given
  intro mem
  exact (ensures_update regular mem).weaken (fun _ holds => holds.owns)
    (fun _ _ owns => ⟨held', owns⟩) fun _ owns => ⟨held', owns⟩

theorem ensures_queryHeld (held : List (String × StatementId)) :
    Ensures picture (fun _ => False)
      (Scene.Owns picture pipeline (.reuse held) held) (Strategy.queryHeld pipeline handler)
      (fun rows scene => scene.Reuses picture pipeline ∧
        scene.Answered picture pipeline handler rows)
      (Scene.Reuses picture pipeline) := by
  apply Ensures.bind (ensures_obtainHeld regular invokes held)
  intro st
  apply Ensures.whichever
  intro held'
  apply Ensures.given
  intro mem
  exact (ensures_query regular mem).weaken (fun _ => id)
    (fun _ _ answered => ⟨⟨held', answered.1⟩, answered.2⟩) fun _ owns => ⟨held', owns⟩

theorem ensures_openHeld (held : List (String × StatementId)) :
    Ensures picture sqls
      (Scene.Owns picture pipeline (.reuse held) held) (Strategy.openHeld pipeline handler)
      (fun cursor scene => ∃ held', scene.Opened picture pipeline (.reuse held') held' cursor)
      (Scene.Reuses picture pipeline) := by
  apply Ensures.bind (ensures_obtainHeld regular invokes held)
  intro st
  apply Ensures.whichever
  intro held'
  apply Ensures.given
  intro mem
  have taken : Ensures picture sqls (Scene.Owns picture pipeline (.reuse held')
      ((handler.bound.sql, st) :: held'.filter (·.1 != handler.bound.sql)))
      (do
        let held := (← Work.executor).strategy.held
        Work.setStrategy (.reuse (held.filter (·.1 != handler.bound.sql)))
        handler.queryCursor pipeline st)
      (fun cursor scene => ∃ held', scene.Opened picture pipeline (.reuse held') held' cursor)
      (Scene.Reuses picture pipeline) := by
    apply Ensures.knowing
    intro executor same
    simp only [same, Strategy.held]
    apply Ensures.bind (ensures_setStrategy _)
    intro _
    exact (ensures_queryCursor regular).weaken (fun _ => id)
      (fun _ _ opened => ⟨_, _, opened⟩) fun _ owns => ⟨_, owns⟩
  exact taken.weaken (fun _ holds => holds.owns.part mem) (fun _ _ => id) fun _ => id

omit invokes in
theorem ensures_closeHeld {never : Scene σ → Prop} (held : List (String × StatementId)) :
    Ensures picture sqls (Scene.Owns picture pipeline strategy held)
      (Strategy.closeHeld pipeline held) (fun _ => Scene.Owns picture pipeline strategy [])
      never := by
  induction held with
  | nil => exact Ensures.pure () fun _ => id
  | cons link rest ih =>
      obtain ⟨sql, st⟩ := link
      exact Ensures.bind (ensures_finish regular sql st).quietly fun _ => ih

omit regular invokes

def Pipeline.Queued (pipeline : Pipeline σ) (pending : List PendingBatch) (sql : String) : Prop :=
  ∃ batch ∈ pending, sql = pipeline.written batch.result.sql

theorem Pipeline.Fits.written {sql : String} {request : Request} (fits : pipeline.Fits sql request) :
    request.sql = pipeline.written sql := by
  obtain ⟨handler, -, rfl, same, -⟩ := fits
  exact same

include regular

theorem ensures_discardAll {never : Scene σ → Prop} (pending : List PendingBatch) :
    Ensures picture sqls (Scene.Owns picture pipeline strategy (pending.map PendingBatch.link))
      (Work.onSource (PendingBatch.discardAll pipeline.source pending))
      (fun _ => Scene.Owns picture pipeline strategy []) never := by
  induction pending with
  | nil => exact Ensures.pure () fun _ => id
  | cons batch rest ih =>
      unfold PendingBatch.discardAll
      rw [Work.onSource_bind]
      exact Ensures.bind (ensures_finish regular batch.result.sql batch.statement).quietly fun _ => ih

theorem ensures_execute {batch : PendingBatch} (mem : batch.link ∈ links) :
    Ensures picture (· = pipeline.written batch.result.sql)
      (Scene.Owns picture pipeline strategy links)
      (Work.onSource (PendingBatch.execute pipeline.source batch))
      (fun _ => Scene.Owns picture pipeline strategy links)
      (Scene.Owns picture pipeline strategy links) := by
  unfold PendingBatch.execute
  rw [Work.onSource_bind]
  have ran : Ensures picture (· = pipeline.written batch.result.sql)
      (Scene.Owns picture pipeline strategy links)
      (Work.onSource (pipeline.source.executeBatch batch.statement)) _ _ :=
    Ensures.executes mem fun state prepared found isOpen fits => by
      rw [← fits.written]
      exact regular.isolates.executeBatch state batch.statement prepared found isOpen
  apply Ensures.bind ran
  intro counts
  split
  · rw [Work.onSource_bind]
    apply Ensures.bind (Ensures.spends mem fun state =>
      regular.isolates.generatedKeys state batch.statement)
    intro keys
    rw [Work.onSource_bind]
    apply Ensures.bind (Ensures.ofResult (fun _ _ _ => id) fun _ => id)
    intro parameters
    exact Ensures.pure _ fun _ => id
  · exact Ensures.pure _ fun _ => id

theorem ensures_executeAll (pending : List PendingBatch) (number : Nat) :
    Ensures picture (pipeline.Queued pending)
      (Scene.Owns picture pipeline strategy (pending.map PendingBatch.link))
      (Work.onSource (PendingBatch.executeAll pipeline.source number pending))
      (fun _ => Scene.Owns picture pipeline strategy [])
      (Scene.Owns picture pipeline strategy []) := by
  induction pending generalizing number with
  | nil => exact Ensures.pure [] fun _ => id
  | cons batch rest ih =>
      have ran : Ensures picture (pipeline.Queued (batch :: rest))
          (Scene.Owns picture pipeline strategy ((batch :: rest).map PendingBatch.link))
          (Work.onSource (PendingBatch.execute pipeline.source batch)).attempt
          (fun _ => Scene.Owns picture pipeline strategy ((batch :: rest).map PendingBatch.link))
          (Scene.Owns picture pipeline strategy []) := by
        have mem : batch.link ∈ (batch :: rest).map PendingBatch.link := List.mem_cons_self
        apply ((ensures_execute regular mem).attempt.mono _).weaken (fun _ => id) _ fun _ => id
        · rintro _ rfl
          exact ⟨batch, List.mem_cons_self, rfl⟩
        · rintro (e | result) scene ⟨done, failed⟩
          · exact failed e rfl
          · exact done result rfl
      unfold PendingBatch.executeAll
      rw [Work.onSource_bind]
      apply Ensures.bind ran
      intro executed
      rw [Work.onSource_bind]
      apply Ensures.bind (ensures_finish regular batch.result.sql batch.statement).quietly
      intro _
      cases executed with
      | ok result =>
          dsimp only
          rw [Work.onSource_bind]
          apply Ensures.bind ((ih (number + 1)).mono fun sql queued => _)
          · intro results
            exact Ensures.pure _ fun _ => id
          · rintro sql ⟨other, mem, same⟩
            exact ⟨other, List.mem_cons_of_mem _ mem, same⟩
      | error e =>
          dsimp only
          rw [Work.onSource_bind]
          apply Ensures.bind (ensures_discardAll regular rest)
          intro _
          exact Ensures.throw _ fun _ => id

def Strategy.Joins (strategy : Strategy) : Prop :=
  ∀ target last, strategy.current = some target → strategy.pending.getLast? = some last →
    last.result.sql = target.1

def Scene.Tidy (picture : Picture σ) (pipeline : Pipeline σ) (queued : String → Prop)
    (scene : Scene σ) : Prop :=
  ∃ strategy : Strategy, (strategy.Joins ∧
    ∀ sql, pipeline.Queued strategy.pending sql → queued sql) ∧
      scene.Owns picture pipeline strategy strategy.links

omit regular in
theorem Pipeline.not_queued (sql : String) : ¬pipeline.Queued [] sql := by
  rintro ⟨batch, mem, -⟩
  cases mem

omit regular in
theorem Scene.Reuses.tidy {scene : Scene σ} (reuses : scene.Reuses picture pipeline) :
    scene.Tidy picture pipeline (fun _ => False) := by
  obtain ⟨held, owns⟩ := reuses
  exact ⟨.reuse held, ⟨by rintro _ _ ⟨⟩, fun sql queued => pipeline.not_queued sql queued⟩, owns⟩

omit regular in
theorem Scene.Tidy.mono {queued more : String → Prop} {scene : Scene σ}
    (tidy : scene.Tidy picture pipeline queued) (grows : ∀ sql, queued sql → more sql) :
    scene.Tidy picture pipeline more := by
  obtain ⟨strategy, ⟨joins, known⟩, owns⟩ := tidy
  exact ⟨strategy, ⟨joins, fun sql queued => grows sql (known sql queued)⟩, owns⟩

omit regular in
theorem Scene.Owns.tidy {scene : Scene σ} {earlier : List PendingBatch} {last : PendingBatch}
    {target : String × String}
    (owns : scene.Owns picture pipeline (.batch (earlier ++ [last]) (some target))
      ((earlier ++ [last]).map PendingBatch.link))
    (same : last.result.sql = target.1) :
    scene.Tidy picture pipeline
      (fun sql => pipeline.Queued earlier sql ∨ sql = pipeline.written target.1) := by
  refine ⟨.batch (earlier ++ [last]) (some target), ⟨?_, ?_⟩, owns⟩
  · rintro _ joined ⟨⟩ found
    obtain rfl : last = joined := by simpa [Strategy.pending] using found
    exact same
  · rintro sql ⟨batch, mem, written⟩
    rcases List.mem_append.1 mem with mem | mem
    · exact .inl ⟨batch, mem, written⟩
    · obtain rfl := List.mem_singleton.1 mem
      exact .inr (written.trans (by rw [same]))

theorem ensures_flushPending (pending : List PendingBatch) (current : Option (String × String))
    (givingUp : Bool) :
    Ensures picture (fun sql => givingUp = false ∧ pipeline.Queued pending sql)
      (Scene.Owns picture pipeline (.batch pending current) (pending.map PendingBatch.link))
      (Strategy.flushPending pipeline givingUp)
      (fun _ => Scene.Owns picture pipeline (.batch [] none) [])
      (Scene.Owns picture pipeline (.batch [] none) []) := by
  unfold Strategy.flushPending
  apply Ensures.knowing
  intro executor same
  simp only [same, Strategy.pending]
  apply Ensures.bind (ensures_setStrategy _)
  intro _
  cases givingUp with
  | true =>
      apply Ensures.bind (ensures_discardAll regular pending)
      intro _
      exact Ensures.pure _ fun _ => id
  | false => exact (ensures_executeAll regular pending 0).mono fun _ queued => ⟨rfl, queued⟩

variable (invokes : pipeline.Invokes handler)

include invokes

theorem ensures_appendUpdate (earlier : List PendingBatch) (last : PendingBatch)
    (current : Option (String × String)) (same : last.result.sql = handler.bound.sql) :
    Ensures picture sqls
      (Scene.Owns picture pipeline (.batch (earlier ++ [last]) current)
        ((earlier ++ [last]).map PendingBatch.link))
      (Strategy.appendUpdate pipeline handler earlier last (handler.bound.sql, handler.statement.id))
      (fun _ => Scene.Tidy picture pipeline
        (fun sql => pipeline.Queued earlier sql ∨ sql = handler.preparedSql pipeline))
      (Scene.Owns picture pipeline (.batch (earlier ++ [last]) current)
        ((earlier ++ [last]).map PendingBatch.link)) := by
  have mem : (handler.bound.sql, last.statement) ∈ (earlier ++ [last]).map PendingBatch.link := by
    simp [← same, PendingBatch.link]
  apply Ensures.bind (ensures_parameterize regular invokes mem)
  intro _
  apply Ensures.bind ((ensures_addBatch regular mem).weaken (fun _ holds => holds.owns)
    (fun _ _ => id) fun _ => id)
  intro _
  apply Ensures.bind Ensures.parameter
  intro parameter
  apply (ensures_setStrategy _).weaken (fun _ => id) _ fun _ => id
  intro _ scene owns
  have links : (earlier ++ [last]).map PendingBatch.link =
      (earlier ++ [last.addParameter parameter]).map PendingBatch.link := by
    simp [PendingBatch.link, PendingBatch.addParameter]
  rw [links] at owns
  exact owns.tidy same

theorem ensures_startBatch (pending : List PendingBatch) (current : Option (String × String)) :
    Ensures picture sqls
      (Scene.Owns picture pipeline (.batch pending current) (pending.map PendingBatch.link))
      (Strategy.startBatch pipeline handler pending (handler.bound.sql, handler.statement.id))
      (fun _ => Scene.Tidy picture pipeline
        (fun sql => pipeline.Queued pending sql ∨ sql = handler.preparedSql pipeline))
      (Scene.Owns picture pipeline (.batch pending current) (pending.map PendingBatch.link)) := by
  apply Ensures.bind (ensures_prepareInTransaction regular invokes)
  intro st
  have queued : Ensures picture sqls
      (Scene.Owns picture pipeline (.batch pending current)
        ((handler.bound.sql, st) :: pending.map PendingBatch.link))
      (do
        handler.parameterize pipeline st
        Handler.addBatch pipeline st)
      (fun _ => Scene.Owns picture pipeline (.batch pending current)
        ((handler.bound.sql, st) :: pending.map PendingBatch.link))
      (Scene.Owns picture pipeline (.batch pending current)
        ((handler.bound.sql, st) :: pending.map PendingBatch.link)) := by
    apply Ensures.bind (ensures_parameterize regular invokes List.mem_cons_self)
    intro _
    exact (ensures_addBatch regular List.mem_cons_self).weaken (fun _ holds => holds.owns)
      (fun _ _ => id) fun _ => id
  apply Ensures.bind queued.attempt
  intro result
  cases result with
  | error e =>
      apply Ensures.bind ((ensures_finish regular handler.bound.sql st).quietly.weaken
        (fun _ holds => holds.2 e rfl) (fun _ _ => id) fun _ => id)
      intro _
      exact Ensures.throw e fun _ => id
  | ok =>
      apply Ensures.bind Ensures.parameter
      intro parameter
      apply (ensures_setStrategy _).weaken (fun _ holds => holds.1 () rfl) _ fun _ => id
      intro _ scene owns
      -- the links are the same ones, with the new one at the other end
      refine @Scene.Owns.tidy σ picture pipeline scene pending _
        (handler.bound.sql, handler.statement.id) (owns.select ?_ ?_) rfl
      · intro link mem
        rw [List.map_append, List.mem_append] at mem
        rcases mem with mem | mem
        · exact List.mem_cons_of_mem _ mem
        · rw [List.map_singleton, List.mem_singleton] at mem
          exact mem ▸ List.mem_cons_self
      · have distinct := owns.distinct
        rw [List.map_append, List.map_append, List.nodup_append_comm]
        exact distinct

theorem ensures_queueUpdate {pending : List PendingBatch} {current : Option (String × String)}
    (joins : (Strategy.batch pending current).Joins) :
    Ensures picture sqls
      (Scene.Owns picture pipeline (.batch pending current) (pending.map PendingBatch.link))
      (Strategy.queueUpdate pipeline handler)
      (fun _ => Scene.Tidy picture pipeline
        (fun sql => pipeline.Queued pending sql ∨ sql = handler.preparedSql pipeline))
      (Scene.Tidy picture pipeline
        (fun sql => pipeline.Queued pending sql ∨ sql = handler.preparedSql pipeline)) := by
  have untouched : ∀ scene : Scene σ,
      scene.Owns picture pipeline (.batch pending current) (pending.map PendingBatch.link) →
      scene.Tidy picture pipeline
        (fun sql => pipeline.Queued pending sql ∨ sql = handler.preparedSql pipeline) :=
    fun scene owns => ⟨.batch pending current, ⟨joins, fun _ queued => .inl queued⟩, owns⟩
  unfold Strategy.queueUpdate
  apply Ensures.knowing
  intro executor same
  simp only [same, Strategy.pending, Strategy.current]
  split
  next last found =>
      obtain ⟨earlier, rfl⟩ := List.getLast?_eq_some_iff.1 found
      split
      next target =>
          -- an update joins the last batch only if that was opened for the same SQL
          have written : last.result.sql = handler.bound.sql := joins _ last target found
          rw [List.dropLast_concat]
          have fewer (sql : String) (queued : pipeline.Queued earlier sql) :
              pipeline.Queued (earlier ++ [last]) sql := by
            obtain ⟨batch, mem, same⟩ := queued
            exact ⟨batch, List.mem_append_left _ mem, same⟩
          apply Ensures.bind ((ensures_appendUpdate regular invokes earlier last current written).weaken
            (fun _ => id) (fun _ _ tidy => tidy.mono fun sql => Or.imp_left (fewer sql)) untouched)
          intro _
          exact Ensures.pure _ fun _ => id
      next =>
          apply Ensures.bind ((ensures_startBatch regular invokes _ current).weaken (fun _ => id)
            (fun _ _ => id) untouched)
          intro _
          exact Ensures.pure _ fun _ => id
  next missing =>
      obtain rfl := List.getLast?_eq_none_iff.1 missing
      apply Ensures.bind ((ensures_startBatch regular invokes [] current).weaken (fun _ => id)
        (fun _ _ => id) untouched)
      intro _
      exact Ensures.pure _ fun _ => id

def Scene.Bare (picture : Picture σ) (pipeline : Pipeline σ) (scene : Scene σ) : Prop :=
  ∃ strategy : Strategy, strategy.links = [] ∧ scene.Owns picture pipeline strategy []

def Scene.Hands (picture : Picture σ) (pipeline : Pipeline σ) (cursor : Cursor) (scene : Scene σ) :
    Prop :=
  ∃ strategy : Strategy, strategy.pending = [] ∧
    scene.Opened picture pipeline strategy strategy.links cursor

omit regular invokes

theorem Scene.Owns.tidy_of_idle {scene : Scene σ} (idle : strategy.pending = [])
    (owns : scene.Owns picture pipeline strategy strategy.links) :
    scene.Tidy picture pipeline (fun _ => False) := by
  refine ⟨strategy, ⟨?_, ?_⟩, owns⟩
  · intro target last _ found
    rw [idle] at found
    cases found
  · rw [idle]
    exact fun sql queued => pipeline.not_queued sql queued

theorem Scene.Bare.tidy {scene : Scene σ} (bare : scene.Bare picture pipeline) :
    scene.Tidy picture pipeline (fun _ => False) := by
  obtain ⟨strategy, unlinked, owns⟩ := bare
  have idle : strategy.pending = [] := by
    cases strategy with
    | simple => rfl
    | reuse held => rfl
    | batch pending current => exact List.map_eq_nil_iff.1 unlinked
  rw [← unlinked] at owns
  exact owns.tidy_of_idle idle

include regular

theorem ensures_flush {queued : String → Prop} (givingUp : Bool) :
    Ensures picture (fun sql => givingUp = false ∧ queued sql)
      (Scene.Tidy picture pipeline queued) (Strategy.flush pipeline givingUp)
      (fun _ => Scene.Bare picture pipeline) (Scene.Bare picture pipeline) := by
  apply Ensures.whichever
  intro strategy
  apply Ensures.given
  rintro ⟨-, known⟩
  unfold Strategy.flush
  apply Ensures.knowing
  intro executor same
  rw [same]
  cases strategy with
  | simple => exact Ensures.pure [] fun _ owns => ⟨.simple, rfl, owns⟩
  | reuse held =>
      apply Ensures.bind (ensures_setStrategy _)
      intro _
      apply Ensures.bind (ensures_closeHeld regular held)
      intro _
      exact Ensures.pure [] fun _ owns => ⟨.reuse [], rfl, owns⟩
  | batch pending current =>
      apply ((ensures_flushPending regular pending current givingUp).mono _).weaken (fun _ => id)
        (fun _ _ owns => ⟨.batch [] none, rfl, owns⟩) fun _ owns => ⟨.batch [] none, rfl, owns⟩
      rintro sql ⟨given, waiting⟩
      exact ⟨given, known sql waiting⟩

theorem ensures_runPending {queued : String → Prop} {pending : List PendingBatch}
    {current : Option (String × String)} (known : ∀ sql, pipeline.Queued pending sql → queued sql) :
    Ensures picture queued
      (Scene.Owns picture pipeline (.batch pending current) (pending.map PendingBatch.link))
      (Strategy.flushPending pipeline false)
      (fun _ => Scene.Owns picture pipeline (.batch [] none) [])
      (Scene.Tidy picture pipeline (fun _ => False)) :=
  ((ensures_flushPending regular pending current false).mono fun sql ran => known sql ran.2).weaken
    (fun _ => id) (fun _ _ => id) fun scene owns =>
      @Scene.Owns.tidy_of_idle σ picture pipeline (.batch [] none) scene rfl owns

include invokes

theorem ensures_runQuery {queued : String → Prop} :
    Ensures picture queued (Scene.Tidy picture pipeline queued) (Strategy.query pipeline handler)
      (fun rows scene => scene.Tidy picture pipeline (fun _ => False) ∧
        scene.Answered picture pipeline handler rows)
      (Scene.Tidy picture pipeline (fun _ => False)) := by
  apply Ensures.whichever
  intro strategy
  apply Ensures.given
  rintro ⟨-, known⟩
  unfold Strategy.query
  apply Ensures.knowing
  intro executor same
  rw [same]
  cases strategy with
  | simple =>
      exact ((ensures_queryOnce regular invokes).mono fun _ no => no.elim).weaken (fun _ => id)
        (fun _ _ answered => ⟨answered.1.tidy_of_idle rfl, answered.2⟩)
        fun _ owns => owns.tidy_of_idle rfl
  | reuse held =>
      exact ((ensures_queryHeld regular invokes held).mono fun _ no => no.elim).weaken (fun _ => id)
        (fun _ _ answered => ⟨answered.1.tidy, answered.2⟩) fun _ reuses => reuses.tidy
  | batch pending current =>
      apply Ensures.bind (ensures_runPending regular known)
      intro _
      exact ((ensures_queryOnce regular invokes).mono fun _ no => no.elim).weaken (fun _ => id)
        (fun _ _ answered => ⟨answered.1.tidy_of_idle rfl, answered.2⟩)
        fun _ owns => owns.tidy_of_idle rfl

theorem ensures_runCursor {queued : String → Prop} :
    Ensures picture queued (Scene.Tidy picture pipeline queued)
      (Strategy.openCursor pipeline handler) (Scene.Hands picture pipeline)
      (Scene.Tidy picture pipeline (fun _ => False)) := by
  apply Ensures.whichever
  intro strategy
  apply Ensures.given
  rintro ⟨-, known⟩
  unfold Strategy.openCursor
  apply Ensures.knowing
  intro executor same
  rw [same]
  cases strategy with
  | simple =>
      exact (ensures_openOnce regular invokes).weaken (fun _ => id)
        (fun _ _ opened => ⟨.simple, rfl, opened⟩) fun _ owns => owns.tidy_of_idle rfl
  | reuse held =>
      apply (ensures_openHeld regular invokes held).weaken (fun _ => id) _ fun _ reuses => reuses.tidy
      rintro cursor scene ⟨held', opened⟩
      exact ⟨.reuse held', rfl, opened⟩
  | batch pending current =>
      apply Ensures.bind (ensures_runPending regular known)
      intro _
      exact (ensures_openOnce regular invokes).weaken (fun _ => id)
        (fun _ _ opened => ⟨.batch [] none, rfl, opened⟩) fun _ owns => owns.tidy_of_idle rfl

def Pipeline.Sends (pipeline : Pipeline σ) (statement : MappedStatement) (sql : String) : Prop :=
  ∃ handler, pipeline.Invokes handler ∧ handler.statement = statement ∧
    sql = handler.preparedSql pipeline

omit regular invokes in
theorem ensures_forParameter {pre : Scene σ → Prop} {statement : MappedStatement}
    (known : ∃ id, pipeline.configuration.statement id = .ok statement) :
    Ensures picture sqls pre (Handler.forParameter pipeline statement)
      (fun handler scene => (pipeline.Invokes handler ∧ handler.statement = statement) ∧ pre scene)
      pre := by
  intro scene holds
  have left : Handler.forParameter pipeline statement scene =
      ((do
        let bound ← statement.boundSql scene.parameter pipeline.setting
        return ⟨statement, bound, .unbounded⟩ : Except Error Handler), scene) := by
    unfold Handler.forParameter
    rw [Action.bind_apply]
    change (liftM (statement.boundSql scene.parameter pipeline.setting) >>= _ : Work σ Handler) scene = _
    rw [Action.bind_apply, Work.lift_apply]
    cases statement.boundSql scene.parameter pipeline.setting <;> rfl
  rw [left]
  refine ⟨.refl _ scene, fun handler made => ?_, fun _ _ => holds⟩
  obtain ⟨bound, bounded, same⟩ := bind_eq_ok.1 made
  cases same
  exact ⟨⟨⟨known, scene.parameter, bounded⟩, rfl⟩, holds⟩

omit invokes in
theorem ensures_runUpdate {queued : String → Prop} {statement : MappedStatement}
    (known : ∃ id, pipeline.configuration.statement id = .ok statement) :
    Ensures picture (pipeline.Sends statement) (Scene.Tidy picture pipeline queued)
      (Strategy.update pipeline statement)
      (fun _ => Scene.Tidy picture pipeline (fun sql => queued sql ∨ pipeline.Sends statement sql))
      (Scene.Tidy picture pipeline (fun sql => queued sql ∨ pipeline.Sends statement sql)) := by
  have more : ∀ scene : Scene σ, scene.Tidy picture pipeline queued →
      scene.Tidy picture pipeline (fun sql => queued sql ∨ pipeline.Sends statement sql) :=
    fun scene tidy => tidy.mono fun _ => .inl
  have idle : ∀ scene : Scene σ, scene.Tidy picture pipeline (fun _ => False) →
      scene.Tidy picture pipeline (fun sql => queued sql ∨ pipeline.Sends statement sql) :=
    fun scene tidy => tidy.mono fun _ no => no.elim
  apply Ensures.bind ((ensures_forParameter known).weaken (fun _ => id) (fun _ _ => id) more)
  intro handler
  apply Ensures.given
  rintro ⟨invokes, rfl⟩
  have sends (sql : String) (same : sql = handler.preparedSql pipeline) :
      pipeline.Sends handler.statement sql := ⟨handler, invokes, rfl, same⟩
  apply Ensures.whichever
  intro strategy
  apply Ensures.given
  rintro ⟨joins, waiting⟩
  apply Ensures.knowing
  intro executor same
  rw [same]
  -- only a batching strategy leaves the update waiting; the others are done with it
  cases strategy with
  | simple =>
      exact ((ensures_updateOnce regular invokes).mono sends).weaken (fun _ => id)
        (fun _ scene owns => idle scene (owns.tidy_of_idle rfl))
        fun scene owns => idle scene (owns.tidy_of_idle rfl)
  | reuse held =>
      exact ((ensures_updateHeld regular invokes held).mono sends).weaken (fun _ => id)
        (fun _ scene reuses => idle scene reuses.tidy) fun scene reuses => idle scene reuses.tidy
  | batch pending current =>
      have grows (sql : String)
          (queued' : pipeline.Queued pending sql ∨ sql = handler.preparedSql pipeline) :
          queued sql ∨ pipeline.Sends handler.statement sql :=
        queued'.imp (waiting sql) (sends sql)
      exact (ensures_queueUpdate regular invokes joins).weaken (fun _ => id)
        (fun _ _ tidy => tidy.mono grows) fun _ tidy => tidy.mono grows

end MappedSql
