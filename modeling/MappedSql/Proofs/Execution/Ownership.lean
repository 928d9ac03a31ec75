import Mathlib.Data.List.Nodup
import MappedSql.Proofs.Database.Isolation
import MappedSql.Proofs.Execution.Calls

namespace MappedSql

variable {σ α β : Type}

open Standing (baseOf viewOf updatesOf)

def BoundSql.sentFrom : Nat → List ParameterMapping → List Nat
  | _, [] => []
  | position, mapping :: rest =>
      if mapping.direction != .output then position :: sentFrom (position + 1) rest
      else sentFrom (position + 1) rest

namespace Handler

def positions (handler : Handler) : List Nat :=
  match handler.statement.kind with
  | .plain => []
  | _ => BoundSql.sentFrom 1 handler.bound.mappings

def request (pipeline : Pipeline σ) (handler : Handler) : Request :=
  (Request.unplaced (handler.preparedSql pipeline)).placeAll handler.placed

end Handler

namespace Pipeline

/-- A handler for an invocation of a statement of the configuration. -/
structure Invokes (pipeline : Pipeline σ) (handler : Handler) : Prop where
  known : ∃ id, pipeline.configuration.statement id = .ok handler.statement
  bound : ∃ parameter, handler.statement.boundSql parameter pipeline.setting = .ok handler.bound

structure Asks (pipeline : Pipeline σ) (handler : Handler) (key : CacheKey) : Prop where
  invokes : pipeline.Invokes handler
  keyed : Executor.keyOf pipeline.configuration.databaseId handler.statement handler.bounds
    handler.bound = .ok key

def answer (pipeline : Pipeline σ) (data : Data) (handler : Handler) : Except Error (List Value) :=
  (data (handler.request pipeline)).mapRows handler.statement.mapper handler.bounds

/-- The conditions under which the shared caches can be trusted. No interceptor stands around the
calls; the data source isolates transactions; SQL that is the same has its values at the same
positions, since a statement that is reused keeps what is not placed anew; equal keys stand for
queries that no data tell apart; and what changes the answer to a query is bound to its cache and
flushes it. -/
structure Regular (pipeline : Pipeline σ) (picture : Picture σ) : Prop where
  plain : pipeline.Plain
  isolates : pipeline.source.Isolates picture
  steady : ∀ handler other, pipeline.Invokes handler → pipeline.Invokes other →
    handler.preparedSql pipeline = other.preparedSql pipeline → handler.positions = other.positions
  faithful : ∀ handler other key key', pipeline.Asks handler key → pipeline.Asks other key' →
    key.same key' → ∀ data, picture.Arises data →
      pipeline.answer data handler = pipeline.answer data other
  flushes : ∀ update query id, pipeline.Invokes update → pipeline.Invokes query →
    query.statement.cache = some id →
    picture.changes (update.preparedSql pipeline) (query.request pipeline) →
    update.statement.cache = some id ∧ update.statement.flushCache

def Fits (pipeline : Pipeline σ) (sql : String) (request : Request) : Prop :=
  ∃ handler, pipeline.Invokes handler ∧ handler.bound.sql = sql ∧
    request.sql = handler.preparedSql pipeline ∧
    ∀ position, request.placed position ≠ none → position ∈ handler.positions

theorem Fits.within {pipeline : Pipeline σ} {sql : String} {less more : Request}
    (fits : pipeline.Fits sql more) (within : less.Within more) : pipeline.Fits sql less := by
  obtain ⟨handler, invokes, text, same, placed⟩ := fits
  exact ⟨handler, invokes, text, within.sql.trans same,
    fun position found => placed position (within.placed position found)⟩

theorem Invokes.fits {pipeline : Pipeline σ} {handler : Handler}
    (invokes : pipeline.Invokes handler) :
    pipeline.Fits handler.bound.sql (.unplaced (handler.preparedSql pipeline)) :=
  ⟨handler, invokes, rfl, rfl, fun _ found => absurd rfl found⟩

end Pipeline

namespace Scene

def connection (scene : Scene σ) : Option ConnectionId :=
  scene.executor.transaction.connection

def standing (picture : Picture σ) (scene : Scene σ) : Option Standing :=
  scene.connection.bind (picture.standing scene.source)

def withSource (scene : Scene σ) (source : σ) : Scene σ :=
  { scene with source := source }

theorem arises {picture : Picture σ} {scene : Scene σ} {standing : Standing}
    (begun : scene.standing picture = some standing) : picture.Arises standing.view := by
  obtain ⟨c, -, found⟩ := Option.bind_eq_some_iff.1 begun
  exact ⟨scene.source, c, standing, found, rfl⟩

end Scene

structure Picture.Spares (picture : Picture σ) (own : Option ConnectionId) (before after : σ) :
    Prop where
  isOpen : ∀ c, picture.isOpen before c → own ≠ some c → picture.isOpen after c
  standing : ∀ c, picture.isOpen before c → own ≠ some c →
    picture.standing after c = picture.standing before c
  statements : ∀ st prepared, picture.prepared before st = some prepared →
    picture.isOpen before prepared.connection → own ≠ some prepared.connection →
    picture.prepared after st = some prepared

namespace Picture

variable {picture : Picture σ} {own : Option ConnectionId}

theorem Spares.trans {first second third : σ} (left : picture.Spares own first second)
    (right : picture.Spares own second third) : picture.Spares own first third where
  isOpen := fun c isOpen other => right.isOpen c (left.isOpen c isOpen other) other
  standing := fun c isOpen other =>
    (right.standing c (left.isOpen c isOpen other) other).trans (left.standing c isOpen other)
  statements := fun st prepared found isOpen other =>
    right.statements st prepared (left.statements st prepared found isOpen other)
      (left.isOpen _ isOpen other) other

theorem Ends.spares {c : ConnectionId} {before after : σ} (ends : picture.Ends c before after) :
    picture.Spares (some c) before after where
  isOpen := fun c' isOpen _ => ends.isOpen c' isOpen
  standing := fun c' isOpen other => ends.others c' isOpen fun same => other (congrArg some same.symm)
  statements := fun st prepared found _ _ => ends.statements st prepared found

theorem Closes.spares {c : ConnectionId} {before after : σ} (closes : picture.Closes c before after) :
    picture.Spares (some c) before after where
  isOpen := fun c' isOpen other => closes.isOpen c' isOpen fun same => other (congrArg some same.symm)
  standing := fun c' isOpen other =>
    closes.others c' isOpen fun same => other (congrArg some same.symm)
  statements := fun st prepared found _ other =>
    closes.statements st prepared found fun same => other (congrArg some same.symm)

end Picture

namespace Scene

variable (picture : Picture σ)

structure Spares (before after : Scene σ) : Prop where
  others : picture.Spares before.connection before.source after.source
  connection : ∀ c, after.connection = some c →
    before.connection = some c ∨ ¬picture.isOpen before.source c

structure Step (runs : String → Prop) (before after : Scene σ) : Prop where
  spares : before.Spares picture after
  committed : picture.committed after.source = picture.committed before.source
  advances : picture.Advances runs (picture.committed before.source) (before.standing picture)
    (after.standing picture)

variable {picture}

theorem Spares.refl (scene : Scene σ) : scene.Spares picture scene :=
  ⟨⟨fun _ isOpen _ => isOpen, fun _ _ _ => rfl, fun _ _ found _ _ => found⟩, fun _ same => .inl same⟩

theorem Spares.trans {first second third : Scene σ} (left : first.Spares picture second)
    (right : second.Spares picture third) : first.Spares picture third := by
  have foreign (c : ConnectionId) (isOpen : picture.isOpen first.source c)
      (other : first.connection ≠ some c) : second.connection ≠ some c := by
    intro own
    cases left.connection c own with
    | inl same => exact other same
    | inr closed => exact closed isOpen
  refine ⟨⟨fun c isOpen other => ?_, fun c isOpen other => ?_,
    fun st prepared found isOpen other => ?_⟩, fun c own => ?_⟩
  · exact right.others.isOpen c (left.others.isOpen c isOpen other) (foreign c isOpen other)
  · have kept := left.others.standing c isOpen other
    exact (right.others.standing c (left.others.isOpen c isOpen other)
      (foreign c isOpen other)).trans kept
  · exact right.others.statements st prepared (left.others.statements st prepared found isOpen other)
      (left.others.isOpen _ isOpen other) (foreign _ isOpen other)
  · cases right.connection c own with
    | inl same => exact left.connection c same
    | inr closed =>
        by_cases same : first.connection = some c
        · exact .inl same
        · exact .inr fun isOpen => closed (left.others.isOpen c isOpen same)

theorem Step.refl (runs : String → Prop) (scene : Scene σ) : scene.Step picture runs scene :=
  ⟨.refl scene, rfl, .refl _ _ _⟩

theorem Step.trans {runs : String → Prop} {first second third : Scene σ}
    (left : first.Step picture runs second) (right : second.Step picture runs third) :
    first.Step picture runs third := by
  refine ⟨left.spares.trans right.spares, right.committed.trans left.committed, ?_⟩
  have advances := right.advances
  rw [left.committed] at advances
  exact left.advances.trans advances

theorem Step.of_same {before after : Scene σ} (source : after.source = before.source)
    (connection : after.connection = before.connection) (runs : String → Prop) :
    before.Step picture runs after := by
  have standing : after.standing picture = before.standing picture := by
    rw [standing, standing, source, connection]
  refine ⟨⟨?_, fun c own => .inl (connection ▸ own)⟩, by rw [source], ?_⟩
  · rw [source]
    exact ⟨fun _ isOpen _ => isOpen, fun _ _ _ => rfl, fun _ _ found _ _ => found⟩
  · rw [standing]
    exact .refl _ _ _

theorem Step.mono {runs more : String → Prop} {before after : Scene σ}
    (step : before.Step picture runs after) (grows : ∀ sql, runs sql → more sql) :
    before.Step picture more after :=
  ⟨step.spares, step.committed, step.advances.mono grows⟩

end Scene

/-- An action that is a step: where `pre` holds, `post` holds of its answer and what it leaves, or
`fails` of what its failure leaves. -/
def Work.Ensures (picture : Picture σ) (runs : String → Prop) (pre : Scene σ → Prop)
    (act : Work σ α) (post : α → Scene σ → Prop) (fails : Scene σ → Prop) : Prop :=
  ∀ scene, pre scene → scene.Step picture runs (act scene).2 ∧
    (∀ a, (act scene).1 = .ok a → post a (act scene).2) ∧
    (∀ e, (act scene).1 = .error e → fails (act scene).2)

namespace Work.Ensures

variable {picture : Picture σ} {runs : String → Prop} {pre : Scene σ → Prop} {act : Work σ α}
  {post : α → Scene σ → Prop} {fails : Scene σ → Prop}

theorem bind {next : α → Work σ β} {last : β → Scene σ → Prop}
    (first : Ensures picture runs pre act post fails)
    (second : ∀ a, Ensures picture runs (post a) (next a) last fails) :
    Ensures picture runs pre (act >>= next) last fails := by
  intro scene holds
  obtain ⟨step, done, failed⟩ := first scene holds
  rw [Action.bind_apply]
  rcases went : act scene with ⟨e | a, after⟩ <;> rw [went] at step done failed
  · exact ⟨step, by rintro _ ⟨⟩, fun _ _ => failed e rfl⟩
  · obtain ⟨later, finished, broken⟩ := second a after (done a rfl)
    exact ⟨step.trans later, finished, broken⟩

theorem weaken {pre' : Scene σ → Prop} {post' : α → Scene σ → Prop} {fails' : Scene σ → Prop}
    (ensures : Ensures picture runs pre act post fails) (before : ∀ scene, pre' scene → pre scene)
    (after : ∀ a scene, post a scene → post' a scene) (failed : ∀ scene, fails scene → fails' scene) :
    Ensures picture runs pre' act post' fails' := by
  intro scene holds
  obtain ⟨step, done, broken⟩ := ensures scene (before scene holds)
  exact ⟨step, fun a made => after a _ (done a made), fun e made => failed _ (broken e made)⟩

theorem whichever {ι : Type} {pres : ι → Scene σ → Prop}
    (ensures : ∀ i, Ensures picture runs (pres i) act post fails) :
    Ensures picture runs (fun scene => ∃ i, pres i scene) act post fails :=
  fun scene ⟨i, holds⟩ => ensures i scene holds

theorem given {fact : Prop} (ensures : fact → Ensures picture runs pre act post fails) :
    Ensures picture runs (fun scene => fact ∧ pre scene) act post fails :=
  fun scene ⟨known, holds⟩ => ensures known scene holds

theorem mono {more : String → Prop} (ensures : Ensures picture runs pre act post fails)
    (grows : ∀ sql, runs sql → more sql) : Ensures picture more pre act post fails := by
  intro scene holds
  obtain ⟨step, done, broken⟩ := ensures scene holds
  exact ⟨step.mono grows, done, broken⟩

theorem pure (a : α) (holds : ∀ scene, pre scene → post a scene) :
    Ensures picture runs pre (Pure.pure a) post fails :=
  fun scene before => ⟨.refl _ scene, by rintro _ ⟨⟩; exact holds scene before, by rintro _ ⟨⟩⟩

theorem throw (e : Error) (holds : ∀ scene, pre scene → fails scene) :
    Ensures picture runs pre (MonadExcept.throw e) post fails :=
  fun scene before => ⟨.refl _ scene, by rintro _ ⟨⟩, fun _ _ => holds scene before⟩

theorem ofResult {result : Except Error α}
    (done : ∀ a scene, result = .ok a → pre scene → post a scene)
    (failed : ∀ scene, pre scene → fails scene) :
    Ensures picture runs pre (liftM result) post fails :=
  fun scene before =>
    ⟨.refl _ scene, fun a made => done a scene made before, fun _ _ => failed scene before⟩

theorem failed {e : Error} {next : β → Work σ α} (holds : ∀ scene, pre scene → fails scene) :
    Ensures picture runs pre (liftM (Except.error e : Except Error β) >>= next) post fails :=
  fun scene before => ⟨.refl _ scene, by rintro _ ⟨⟩, fun _ _ => holds scene before⟩

theorem answered {a : β} {next : β → Work σ α}
    (ensures : Ensures picture runs pre (next a) post fails) :
    Ensures picture runs pre (liftM (Except.ok a : Except Error β) >>= next) post fails :=
  ensures

theorem executor : Ensures picture runs pre Work.executor
    (fun executor scene => pre scene ∧ scene.executor = executor) fails :=
  fun scene before =>
    ⟨.refl _ scene, by rintro _ ⟨⟩; exact ⟨before, rfl⟩, by rintro _ ⟨⟩⟩

theorem get : Ensures picture runs pre MonadState.get (fun _ => pre) fails :=
  fun scene before => ⟨.refl _ scene, fun _ _ => before, by rintro _ ⟨⟩⟩

theorem parameter : Ensures picture runs pre Work.parameter (fun _ => pre) fails :=
  fun scene before => ⟨.refl _ scene, fun _ _ => before, by rintro _ ⟨⟩⟩

theorem attempt {never : Scene σ → Prop} (ensures : Ensures picture runs pre act post fails) :
    Ensures picture runs pre act.attempt
      (fun result scene => (∀ a, result = .ok a → post a scene) ∧
        (∀ e, result = .error e → fails scene)) never := by
  intro scene holds
  obtain ⟨step, done, broken⟩ := ensures scene holds
  refine ⟨step, ?_, by rintro _ ⟨⟩⟩
  rintro _ ⟨⟩
  exact ⟨done, broken⟩

theorem quietly {never : Scene σ → Prop} (ensures : Ensures picture runs pre act (fun _ => fails) fails) :
    Ensures picture runs pre act.quietly (fun _ => fails) never := by
  intro scene holds
  obtain ⟨step, done, broken⟩ := ensures scene holds
  refine ⟨step, fun _ _ => ?_, by rintro _ ⟨⟩⟩
  cases went : (act scene).1 with
  | error e => exact broken e went
  | ok a => exact done a went

theorem inContext (ensures : Ensures picture runs pre act post fails) (context : String) :
    Ensures picture runs pre (act.inContext context) post fails := by
  intro scene holds
  obtain ⟨step, done, broken⟩ := ensures scene holds
  have left : (act.inContext context scene) =
      (withContext (fun _ => context) (act scene).1, (act scene).2) := rfl
  rw [left]
  cases went : (act scene).1 with
  | error e => exact ⟨step, by rintro _ ⟨⟩, fun _ _ => broken e went⟩
  | ok a =>
      refine ⟨step, ?_, by rintro _ ⟨⟩⟩
      rintro _ ⟨⟩
      exact done a went

end Work.Ensures

def PendingBatch.link (batch : PendingBatch) : String × StatementId :=
  (batch.result.sql, batch.statement)

def Strategy.links : Strategy → List (String × StatementId)
  | .simple => []
  | .reuse held => held
  | .batch pending _ => pending.map PendingBatch.link

/-- A unit of work with a way of running and some statements of its own. Its connection does not
commit by itself. -/
structure Scene.Owns (picture : Picture σ) (pipeline : Pipeline σ) (strategy : Strategy)
    (links : List (String × StatementId)) (scene : Scene σ) : Prop where
  strategy : scene.executor.strategy = strategy
  manual : scene.executor.transaction.autocommit = false
  isOpen : ∀ c, scene.connection = some c → picture.isOpen scene.source c
  linked : ∀ link ∈ links, ∃ prepared, picture.prepared scene.source link.2 = some prepared ∧
    scene.connection = some prepared.connection ∧ pipeline.Fits link.1 prepared.request
  distinct : (links.map Prod.snd).Nodup

namespace Scene.Owns

variable {picture : Picture σ} {pipeline : Pipeline σ} {strategy : Strategy}
  {links : List (String × StatementId)} {scene : Scene σ} {source : σ}

theorem statement (owns : scene.Owns picture pipeline strategy links) {sql : String}
    {st : StatementId} (mem : (sql, st) ∈ links) :
    ∃ prepared, picture.prepared scene.source st = some prepared ∧
      scene.connection = some prepared.connection ∧
      picture.isOpen scene.source prepared.connection ∧ pipeline.Fits sql prepared.request := by
  obtain ⟨prepared, found, own, fits⟩ := owns.linked _ mem
  exact ⟨prepared, found, own, owns.isOpen _ own, fits⟩

theorem step_keeps (owns : scene.Owns picture pipeline strategy links) {but : StatementId → Prop}
    (keeps : picture.Keeps but scene.source source)
    (mine : ∀ st, but st → ∃ sql, (sql, st) ∈ links) (runs : String → Prop) :
    scene.Step picture runs (scene.withSource source) := by
  refine ⟨⟨⟨fun c isOpen _ => keeps.isOpen c isOpen, fun c isOpen _ => keeps.standing c isOpen, ?_⟩,
    fun c own => .inl own⟩, keeps.committed, ?_⟩
  · intro st prepared found isOpen other
    apply keeps.statements st prepared _ found
    intro changed
    obtain ⟨sql, mem⟩ := mine st changed
    obtain ⟨own, found', same, -⟩ := owns.statement mem
    rw [found, Option.some.injEq] at found'
    exact other (found' ▸ same)
  · have same : (scene.withSource source).standing picture = scene.standing picture := by
      unfold standing
      cases own : scene.connection with
      | none =>
          have none : (scene.withSource source).connection = none := own
          rw [none]
          rfl
      | some c =>
          have some : (scene.withSource source).connection = some c := own
          rw [some]
          exact keeps.standing c (owns.isOpen c own)
    rw [same]
    exact .refl _ _ _

theorem step_runs (owns : scene.Owns picture pipeline strategy links) {sql : String}
    {st : StatementId} (mem : (sql, st) ∈ links) {prepared : Prepared}
    (found : picture.prepared scene.source st = some prepared) {runs : String → Prop}
    (ran : picture.Runs runs st prepared scene.source source) :
    scene.Step picture runs (scene.withSource source) := by
  obtain ⟨own, found', same, -⟩ := owns.statement mem
  rw [found, Option.some.injEq] at found'
  subst found'
  refine ⟨⟨⟨fun c isOpen _ => ran.isOpen c isOpen, fun c isOpen other => ?_, ?_⟩,
    fun c own => .inl own⟩, ran.committed, ?_⟩
  · exact ran.others c isOpen fun equal => other (same.trans (congrArg some equal.symm))
  · intro other prepared' present isOpen foreign
    apply ran.statements other prepared' _ present
    rintro rfl
    rw [found, Option.some.injEq] at present
    exact foreign (present ▸ same)
  · have before : scene.standing picture = picture.standing scene.source prepared.connection := by
      rw [standing, same]
      rfl
    have after : (scene.withSource source).standing picture =
        picture.standing source prepared.connection := by
      have own : (scene.withSource source).connection = some prepared.connection := same
      rw [standing, own]
      rfl
    rw [before, after]
    exact ran.own

theorem of_fits (owns : scene.Owns picture pipeline strategy links)
    (isOpen : ∀ c, picture.isOpen scene.source c → picture.isOpen source c)
    {links' : List (String × StatementId)} (sub : links'.Sublist links)
    (kept : ∀ sql st prepared, (sql, st) ∈ links' → picture.prepared scene.source st = some prepared →
      ∃ request, picture.prepared source st = some ⟨prepared.connection, request⟩ ∧
        (pipeline.Fits sql prepared.request → pipeline.Fits sql request)) :
    (scene.withSource source).Owns picture pipeline strategy links' where
  strategy := owns.strategy
  manual := owns.manual
  isOpen := fun c own => isOpen c (owns.isOpen c own)
  linked := by
    rintro ⟨sql, st⟩ mem
    obtain ⟨prepared, found, own, fits⟩ := owns.linked _ (sub.subset mem)
    obtain ⟨request, present, still⟩ := kept sql st prepared mem found
    exact ⟨_, present, own, still fits⟩
  distinct := owns.distinct.sublist (sub.map _)

theorem keeps (owns : scene.Owns picture pipeline strategy links) {but : StatementId → Prop}
    (keeps : picture.Keeps but scene.source source) {links' : List (String × StatementId)}
    (sub : links'.Sublist links) (apart : ∀ sql st, (sql, st) ∈ links' → ¬but st) :
    (scene.withSource source).Owns picture pipeline strategy links' :=
  owns.of_fits keeps.isOpen sub fun sql st prepared mem found =>
    ⟨prepared.request, keeps.statements st prepared (apart sql st mem) found, id⟩

theorem sets (owns : scene.Owns picture pipeline strategy links) {st : StatementId}
    {prepared : Prepared} (found : picture.prepared scene.source st = some prepared)
    (keeps : picture.Keeps (· = st) scene.source source) {request : Request}
    (present : picture.prepared source st = some ⟨prepared.connection, request⟩)
    (fits : ∀ sql, (sql, st) ∈ links → pipeline.Fits sql prepared.request →
      pipeline.Fits sql request) :
    (scene.withSource source).Owns picture pipeline strategy links := by
  apply owns.of_fits keeps.isOpen (List.Sublist.refl _)
  intro sql other prepared' mem found'
  by_cases same : other = st
  · subst same
    rw [found, Option.some.injEq] at found'
    subst found'
    exact ⟨request, present, fits sql mem⟩
  · exact ⟨prepared'.request, keeps.statements other prepared' same found', id⟩

theorem spends (owns : scene.Owns picture pipeline strategy links) {st : StatementId}
    (spends : picture.Spends st scene.source source) :
    (scene.withSource source).Owns picture pipeline strategy links := by
  apply owns.of_fits spends.keeps.isOpen (List.Sublist.refl _)
  intro sql other prepared mem found
  by_cases same : other = st
  · subst same
    obtain ⟨request, present, within⟩ := spends.spent prepared found
    exact ⟨request, present, fun fits => fits.within within⟩
  · exact ⟨prepared.request, spends.keeps.statements other prepared same found, id⟩

theorem runs (owns : scene.Owns picture pipeline strategy links) {st : StatementId}
    {prepared : Prepared} (found : picture.prepared scene.source st = some prepared)
    {runs : String → Prop} (ran : picture.Runs runs st prepared scene.source source) :
    (scene.withSource source).Owns picture pipeline strategy links := by
  apply owns.of_fits ran.isOpen (List.Sublist.refl _)
  intro sql other prepared' mem present
  by_cases same : other = st
  · subst same
    rw [found, Option.some.injEq] at present
    subst present
    obtain ⟨request, still, within⟩ := ran.spent
    exact ⟨request, still, fun fits => fits.within within⟩
  · exact ⟨prepared'.request, ran.statements other prepared' same present, id⟩

theorem select (owns : scene.Owns picture pipeline strategy links)
    {links' : List (String × StatementId)} (sub : ∀ link ∈ links', link ∈ links)
    (distinct : (links'.map Prod.snd).Nodup) : scene.Owns picture pipeline strategy links' :=
  ⟨owns.strategy, owns.manual, owns.isOpen, fun link mem => owns.linked link (sub link mem), distinct⟩

theorem same (owns : scene.Owns picture pipeline strategy links) {sql sql' : String}
    {st : StatementId} (mem : (sql, st) ∈ links) (mem' : (sql', st) ∈ links) : sql = sql' :=
  congrArg Prod.fst (List.inj_on_of_nodup_map owns.distinct mem mem' rfl)

theorem apart {link : String × StatementId} (owns : scene.Owns picture pipeline strategy (link :: links))
    (sql : String) (st : StatementId) (mem : (sql, st) ∈ links) : st ≠ link.2 := by
  rintro rfl
  have distinct := owns.distinct
  rw [List.map_cons, List.nodup_cons] at distinct
  exact distinct.1 (List.mem_map.2 ⟨_, mem, rfl⟩)

end Scene.Owns

end MappedSql
