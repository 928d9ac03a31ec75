import MappedSql.Proofs.Outcome
import MappedSql.Proofs.Session.Freshness

/-!
# Sessions that share caches

Sessions without autocommit take turns at a desk, each over a transaction of its own. Whoever publishes
is asked that its transaction is current (`Desk.Admits`); then no move, whoever makes it, leaves anything
in the shared caches that the committed data would not answer (`Desk.Sound.play`).
-/

namespace MappedSql

variable {σ : Type}

open Desk (Move)
open History (publishing)
open Session (Call SoundAt toScene)

namespace Desk

variable (picture : Picture σ) (pipeline : Pipeline σ)

structure Sound (desk : Desk σ) : Prop where
  sessions : ∀ name session, desk.sessions.lookup name = some session →
    session.SoundAt picture pipeline desk.source
  apart : ∀ name other session neighbour, desk.sessions.lookup name = some session →
    desk.sessions.lookup other = some neighbour → name ≠ other →
    ∀ c, session.connection = some c → neighbour.connection ≠ some c
  fresh : pipeline.Fresh (picture.committed desk.source) desk.shared

def Current (desk : Desk σ) (name : String) : Prop :=
  ∀ session, desk.sessions.lookup name = some session →
    (toScene ⟨desk.source, desk.shared, session, .null⟩).Current picture pipeline

inductive Admits (desk : Desk σ) : Move σ → Prop
  | opens (name : String) (kind : ExecutorKind) (transaction : Transaction) (drains : Drains)
      (manual : transaction.autocommit = false) (unconnected : transaction.connection = none)
      (current : publishing pipeline desk (.opens name kind transaction false drains) →
        desk.Current picture pipeline name) :
      Admits desk (.opens name kind transaction false drains)
  | calls (name : String) (parameter : Value) (call : Call)
      (current : publishing pipeline desk (.calls name parameter call) →
        desk.Current picture pipeline name) :
      Admits desk (.calls name parameter call)
  | drops (name : String)
      (current : publishing pipeline desk (.drops name) → desk.Current picture pipeline name) :
      Admits desk (.drops name)
  | elsewhere (source : σ) (committed : picture.committed source = picture.committed desk.source)
      (undisturbed : ∀ name session, desk.sessions.lookup name = some session →
        (toScene ⟨desk.source, desk.shared, session, .null⟩).Undisturbed picture source) :
      Admits desk (.elsewhere source)

/-- The desks that admitted moves lead to from one without sessions. -/
inductive Reachable : Desk σ → Prop
  | start (source : σ) (shared : SharedCaches)
      (fresh : pipeline.Fresh (picture.committed source) shared) :
      Reachable ⟨source, shared, [], [], []⟩
  | next {desk : Desk σ} {move : Move σ} (reachable : Reachable desk)
      (admits : Admits picture pipeline desk move) : Reachable (desk.play pipeline move)

variable {picture pipeline}

/-! ## One session among others -/

theorem Sound.replace {desk later : Desk σ} {name : String} {own : Option ConnectionId}
    (sound : desk.Sound picture pipeline)
    (spares : picture.Spares own desk.source later.source)
    (foreign : ∀ other neighbour, other ≠ name → desk.sessions.lookup other = some neighbour →
      ∀ c, neighbour.connection = some c → own ≠ some c)
    (others : ∀ other, other ≠ name → later.sessions.lookup other = desk.sessions.lookup other)
    (mine : ∀ session, later.sessions.lookup name = some session →
      session.SoundAt picture pipeline later.source ∧ ∀ c, session.connection = some c →
        own = some c ∨ ¬picture.isOpen desk.source c)
    (fresh : pipeline.Fresh (picture.committed later.source) later.shared) :
    later.Sound picture pipeline := by
  -- a connection of the new session is its old one or new to the data source, and no other's
  have distinct (session neighbour : Session) (other : String)
      (present : later.sessions.lookup name = some session) (differ : other ≠ name)
      (beside : later.sessions.lookup other = some neighbour) (c : ConnectionId)
      (connected : session.connection = some c) : neighbour.connection ≠ some c := by
    intro same
    rw [others other differ] at beside
    cases (mine session present).2 c connected with
    | inl owned => exact foreign other neighbour differ beside c same owned
    | inr closed => exact closed ((sound.sessions other neighbour beside).isOpen same)
  refine ⟨fun other session present => ?_, fun first second session neighbour left right differ => ?_,
    fresh⟩
  · by_cases same : other = name
    · subst same
      exact (mine session present).1
    · rw [others other same] at present
      have before := sound.sessions other session present
      exact SoundAt.undisturbed before.manual (before.sound desk.shared .null)
        (Scene.undisturbed_of_spares spares fun c connected =>
          foreign other session same present c connected)
  · intro c connected
    by_cases here : first = name
    · subst here
      exact distinct session neighbour second left differ.symm right c connected
    · by_cases there : second = name
      · subst there
        intro same
        exact distinct neighbour session first right here left c same connected
      · rw [others first here] at left
        rw [others second there] at right
        exact sound.apart first second session neighbour left right differ c connected

theorem Sound.left {desk later : Desk σ} {name : String} {session : Session} {parameter : Value}
    {may : Bool} {after : SessionScene σ} (sound : desk.Sound picture pipeline)
    (present : desk.sessions.lookup name = some session)
    (leaves : Session.Leaves picture pipeline may ⟨desk.source, desk.shared, session, parameter⟩ after)
    (current : may → desk.Current picture pipeline name)
    (source : later.source = after.source) (shared : later.shared = after.shared)
    (others : ∀ other, other ≠ name → later.sessions.lookup other = desk.sessions.lookup other)
    (mine : ∀ found, later.sessions.lookup name = some found → found = after.session ∨
      found.SoundAt picture pipeline after.source ∧ found.connection = none) :
    later.Sound picture pipeline := by
  obtain ⟨spares, manual, rested, fresh⟩ := leaves
  have settled : after.session.SoundAt picture pipeline after.source :=
    SoundAt.undisturbed manual rested (.refl _)
  apply @Sound.replace σ picture pipeline desk later name session.connection sound
  · rw [source]
    exact spares.others
  · intro other neighbour differ beside c connected owned
    exact sound.apart name other session neighbour present beside differ.symm c owned connected
  · exact others
  · intro found kept
    rw [source]
    rcases mine found kept with same | ⟨fresh, unconnected⟩
    · rw [same]
      exact ⟨settled, spares.connection⟩
    · refine ⟨fresh, fun c connected => ?_⟩
      rw [unconnected] at connected
      cases connected
  · rw [source, shared]
    exact fresh sound.fresh fun publishes => current publishes session present

variable (regular : pipeline.Regular picture)
  (cached : pipeline.configuration.settings.cacheEnabled = true)

include regular cached

theorem Sound.called {desk : Desk σ} (sound : desk.Sound picture pipeline) {name : String}
    {session : Session} (present : desk.sessions.lookup name = some session) (parameter : Value)
    (call : Call)
    (current : call.publishes session (desk.call name session parameter (call.act pipeline)).1 →
      desk.Current picture pipeline name) :
    (desk.call name session parameter (call.act pipeline)).2.2.Sound picture pipeline := by
  have before := sound.sessions name session present
  obtain ⟨queued, coherent, idle⟩ := before.sound desk.shared parameter
  have leaves := Call.leaves regular cached before.manual coherent idle call
  apply sound.left present leaves current rfl rfl
  · intro other differ
    exact Named.lookup_put_of_ne _ _ differ
  · intro found kept
    have same : some ((call.act pipeline)
        ⟨desk.source, desk.shared, session, parameter⟩).2.session = some found :=
      (Named.lookup_put_self desk.sessions name _).symm.trans kept
    exact .inl (Option.some.inj same).symm

theorem Sound.closed {desk later : Desk σ} (sound : desk.Sound picture pipeline) {name : String}
    {session : Session} (present : desk.sessions.lookup name = some session)
    (current : !session.required false → desk.Current picture pipeline name)
    (source : later.source = desk.source) (shared : later.shared = desk.shared)
    (others : ∀ other, other ≠ name → later.sessions.lookup other = desk.sessions.lookup other)
    (mine : ∀ found, later.sessions.lookup name = some found →
      (∀ state, found.SoundAt picture pipeline state) ∧ found.connection = none) :
    (later.closeSession pipeline session).Sound picture pipeline := by
  have before := sound.sessions name session present
  obtain ⟨queued, coherent, idle⟩ := before.sound desk.shared .null
  have leaves := Session.leaves_close regular cached before.manual coherent idle
  have closing : later.closeSession pipeline session =
      { later with
        source := (Session.close pipeline ⟨desk.source, desk.shared, session, .null⟩).2.source
        shared := (Session.close pipeline ⟨desk.source, desk.shared, session, .null⟩).2.shared } := by
    rw [← source, ← shared]
    rfl
  rw [closing]
  refine sound.left present leaves current (by rfl) (by rfl) others fun found kept => ?_
  obtain ⟨anywhere, unconnected⟩ := mine found kept
  exact .inr ⟨anywhere _, unconnected⟩

theorem Sound.opened {desk : Desk σ} (sound : desk.Sound picture pipeline) (name : String)
    (kind : ExecutorKind) {transaction : Transaction} (drains : Drains)
    (manual : transaction.autocommit = false) (unconnected : transaction.connection = none)
    (current : publishing pipeline desk (.opens name kind transaction false drains) →
      desk.Current picture pipeline name) :
    (desk.play pipeline (.opens name kind transaction false drains)).Sound picture pipeline := by
  have others (other : String) (differ : other ≠ name) :
      (desk.sessions.put name (.onTransaction kind transaction false drains)).lookup other =
        desk.sessions.lookup other := Named.lookup_put_of_ne _ _ differ
  have mine (found : Session)
      (kept : (desk.sessions.put name (.onTransaction kind transaction false drains)).lookup name =
        some found) :
      (∀ state, found.SoundAt picture pipeline state) ∧ found.connection = none := by
    rw [Named.lookup_put_self, Option.some.injEq] at kept
    subst kept
    exact ⟨Session.soundAt_onTransaction kind drains manual unconnected, unconnected⟩
  cases found : desk.sessions.lookup name with
  | none =>
      simp only [play, putSession, found]
      apply @Sound.replace σ picture pipeline desk _ name none sound
      · exact ⟨fun _ isOpen _ => isOpen, fun _ _ _ => rfl, fun _ _ found _ _ => found⟩
      · rintro other neighbour differ beside c connected ⟨⟩
      · exact others
      · intro session kept
        obtain ⟨anywhere, apart⟩ := mine session kept
        refine ⟨anywhere _, fun c connected => ?_⟩
        rw [apart] at connected
        cases connected
      · exact sound.fresh
  | some old =>
      simp only [publishing, found, Option.any_some] at current
      simp only [play, putSession, found]
      exact sound.closed regular cached found current rfl rfl others mine

theorem Sound.dropped {desk : Desk σ} (sound : desk.Sound picture pipeline) (name : String)
    (current : publishing pipeline desk (.drops name) → desk.Current picture pipeline name) :
    (desk.play pipeline (.drops name)).Sound picture pipeline := by
  cases found : desk.sessions.lookup name with
  | none =>
      simp only [play, dropSession, found]
      exact sound
  | some session =>
      simp only [publishing, found, Option.any_some] at current
      simp only [play, dropSession, found]
      refine sound.closed regular cached found current (by rfl) (by rfl) (fun other differ => ?_)
        fun left kept => ?_
      · exact Named.lookup_remove_of_ne _ differ
      · have gone := Named.lookup_remove_self desk.sessions name
        rw [gone] at kept
        cases kept

theorem Sound.play {desk : Desk σ} (sound : desk.Sound picture pipeline) {move : Move σ}
    (admits : desk.Admits picture pipeline move) :
    (desk.play pipeline move).Sound picture pipeline := by
  cases admits with
  | opens name kind transaction drains manual unconnected current =>
      exact sound.opened regular cached name kind drains manual unconnected current
  | calls name parameter call current =>
      cases found : desk.sessions.lookup name with
      | none =>
          simp only [Desk.play, found]
          exact sound
      | some session =>
          simp only [publishing, found, Option.any_some] at current
          simp only [Desk.play, found]
          exact sound.called regular cached found parameter call current
  | drops name current => exact sound.dropped regular cached name current
  | elsewhere source committed undisturbed =>
      refine ⟨fun name session present => ?_, sound.apart, ?_⟩
      · have before := sound.sessions name session present
        exact SoundAt.undisturbed before.manual (before.sound desk.shared .null)
          (undisturbed name session present)
      · have same : picture.committed (desk.play pipeline (.elsewhere source)).source =
            picture.committed desk.source := committed
        rw [same]
        exact sound.fresh

theorem sound_of_reachable {desk : Desk σ} (reachable : desk.Reachable picture pipeline) :
    desk.Sound picture pipeline := by
  induction reachable with
  | start source shared fresh =>
      refine ⟨fun name session present => ?_, fun name other session neighbour present => ?_, fresh⟩
      · cases present
      · cases present
  | next _ admits sound => exact sound.play regular cached admits

end Desk

/-! ## Selects that find shared rows -/

/-- What a select by id asks, and the rows that it finds in the shared cache of its statement, where its
session has neither cleared the cache nor staged rows under the same key. -/
def Session.shared? (pipeline : Pipeline σ) (id : String) (bounds : RowBounds)
    (scene : SessionScene σ) : Option (Handler × List Value) := do
  let statement ← (pipeline.configuration.statement id).toOption
  let bound ← (statement.boundSql scene.parameter pipeline.setting).toOption
  let key ← (Executor.keyOf pipeline.configuration.databaseId statement bounds bound).toOption
  let name ← statement.cache
  let cache ← Fields.get? scene.shared name
  let value ← (cache.get? key).1
  let staged := Staging.of scene.session.executor.staging name
  if !scene.session.isClosed && statement.useCache && !statement.flushCache &&
      (Executor.Shared.ensureNoOutputs statement bound).isOk && !staged.cleared &&
      (Entries.get? staged.entries key).isNone
  then some (⟨statement, bound, bounds⟩, value.toRows)
  else none

namespace Session

variable {pipeline : Pipeline σ} {scene : SessionScene σ} {id : String} {bounds : RowBounds}
  {handler : Handler} {rows : List Value}

structure Finds (pipeline : Pipeline σ) (scene : SessionScene σ) (id : String) (handler : Handler)
    (key : CacheKey) (name : String) (cache : Cache) (value : CachedValue) : Prop where
  isOpen : scene.session.isClosed = false
  known : pipeline.configuration.statement id = .ok handler.statement
  bound : handler.statement.boundSql scene.parameter pipeline.setting = .ok handler.bound
  keyed : Executor.keyOf pipeline.configuration.databaseId handler.statement handler.bounds
    handler.bound = .ok key
  own : handler.statement.cache = some name
  uses : handler.statement.useCache = true
  keeps : handler.statement.flushCache = false
  returns : Executor.Shared.ensureNoOutputs handler.statement handler.bound = .ok ()
  present : Fields.get? scene.shared name = some cache
  uncleared : (Staging.of scene.session.executor.staging name).cleared = false
  unstaged : Entries.get? (Staging.of scene.session.executor.staging name).entries key = none
  found : (cache.get? key).1 = some value

theorem finds_of_shared? (found : shared? pipeline id bounds scene = some (handler, rows)) :
    handler.bounds = bounds ∧ ∃ key name cache value,
      Finds pipeline scene id handler key name cache value ∧ value.toRows = rows := by
  simp only [shared?, Option.bind_eq_bind, Option.bind_eq_some_iff, toOption_eq_some] at found
  obtain ⟨statement, known, bound, bounded, key, keyed, name, own, cache, present, value, hit, taken⟩ :=
    found
  split at taken
  next holds =>
    simp only [Bool.and_eq_true, Bool.not_eq_true', Option.isNone_iff_eq_none] at holds
    obtain ⟨⟨⟨⟨⟨isOpen, uses⟩, keeps⟩, returns⟩, uncleared⟩, unstaged⟩ := holds
    obtain ⟨rfl, rfl⟩ := Prod.mk.inj (Option.some.inj taken)
    have none : Executor.Shared.ensureNoOutputs statement bound = .ok () := by
      cases checked : Executor.Shared.ensureNoOutputs statement bound with
      | error e =>
          rw [checked] at returns
          cases returns
      | ok => rfl
    exact ⟨rfl, key, name, cache, value,
      ⟨isOpen, known, bounded, keyed, own, uses, keeps, none, present, uncleared, unstaged, hit⟩, rfl⟩
  next => cases taken

theorem Finds.list {key : CacheKey} {name : String} {cache : Cache} {value : CachedValue}
    (finds : Finds pipeline scene id handler key name cache value) (plain : pipeline.Plain)
    (cached : pipeline.configuration.settings.cacheEnabled = true) :
    (Session.list pipeline id handler.bounds scene).1 = .ok value.toRows ∧
      (Session.list pipeline id handler.bounds scene).2.source = scene.source := by
  have looked : (Staging.get? (toScene scene).executor.staging name key (toScene scene).shared).1 =
      some value := by
    simp only [toScene, Staging.get?, finds.present, StagedWrites.get?, finds.unstaged,
      finds.uncleared, Bool.false_eq_true, if_false]
    exact finds.found
  have keying := @Executor.cacheKey_of_open σ pipeline handler.statement handler.bounds handler.bound
    (toScene scene) finds.isOpen
  have flushing := Executor.Shared.flushIfRequired_apply finds.own (toScene scene)
  rw [finds.keeps, if_neg Bool.false_ne_true] at flushing
  have answered : (Executor.query pipeline handler.statement scene.parameter handler.bounds
      (toScene scene)) = (.ok value.toRows, { toScene scene with
        shared := (Staging.get? (toScene scene).executor.staging name key (toScene scene).shared).2 }) := by
    rw [Executor.query, plain.call_eq]
    simp only [Action.bind_apply, Work.lift_apply, finds.bound, keying, finds.keyed,
      Executor.answerKeyed, Executor.choose_of_cached cached, Executor.Shared.keyedQuery, finds.own,
      finds.uses, finds.returns, flushing, if_true]
    exact Executor.Shared.rowsFor_of_hit looked
  have listing : Session.list pipeline id handler.bounds scene =
      (perform (Executor.query pipeline handler.statement scene.parameter handler.bounds)).inContext
        s!"Error querying database for `{id}`" scene := by
    rw [Session.list, finds.known]
    rfl
  rw [listing, perform_apply, answered]
  exact ⟨rfl, rfl⟩

end Session

/-- A select that is answered from a shared cache is answered what the committed data answer, and the
data source is left alone. -/
theorem Desk.list_of_shared {picture : Picture σ} {pipeline : Pipeline σ}
    (regular : pipeline.Regular picture)
    (cached : pipeline.configuration.settings.cacheEnabled = true) {desk : Desk σ}
    (reachable : desk.Reachable picture pipeline) (name : String) (session : Session)
    (parameter : Value) {id : String} {bounds : RowBounds} {handler : Handler} {rows : List Value}
    (found : Session.shared? pipeline id bounds ⟨desk.source, desk.shared, session, parameter⟩ =
      some (handler, rows)) :
    (desk.call name session parameter (Session.list pipeline id bounds)).1 = .ok rows ∧
      (desk.call name session parameter (Session.list pipeline id bounds)).2.2.source =
        desk.source ∧
      pipeline.answer (picture.committed desk.source) handler = .ok rows := by
  obtain ⟨rfl, key, name, cache, value, finds, rfl⟩ := Session.finds_of_shared? found
  obtain ⟨answered, untouched⟩ := finds.list regular.plain cached
  refine ⟨answered, untouched, ?_⟩
  obtain ⟨entry, mem, same, rfl⟩ := Cache.mem_of_get? finds.found
  have fresh := (sound_of_reachable regular cached reachable).fresh
  have right := fresh name cache finds.present entry mem
  have asks : pipeline.Asks handler key := ⟨⟨⟨id, finds.known⟩, parameter, finds.bound⟩, finds.keyed⟩
  exact right handler key asks finds.own same

/-! ## Over a register -/

namespace Executor

theorem min_of_keyNumber {n m : Nat} (same : keyNumber n = keyNumber m) :
    min n (Nat.pow 2 63 - 1) = min m (Nat.pow 2 63 - 1) := by
  have read (k : Nat) : (Int64.ofNat (min k (Nat.pow 2 63 - 1))).toInt = min k (Nat.pow 2 63 - 1) := by
    have below : min k (Nat.pow 2 63 - 1) < 2 ^ 63 := by
      simp only [Nat.pow_eq, Nat.reducePow, Nat.reduceSub]
      omega
    rw [Int64.toInt_ofNat_of_lt below]
  have numbers := congrArg Int64.toInt (Value.int.inj same)
  rw [read, read] at numbers
  exact_mod_cast numbers

theorem select_of_same {α : Type} {databaseId : Option String} {statement other : MappedStatement}
    {bounds bounds' : RowBounds} {bound bound' : BoundSql} {key key' : CacheKey}
    (keyed : keyOf databaseId statement bounds bound = .ok key)
    (keyed' : keyOf databaseId other bounds' bound' = .ok key') (equal : key.same key') (row : α) :
    bounds.select [row] = bounds'.select [row] := by
  obtain ⟨values, -, parts⟩ := keyOf_eq_ok.1 keyed
  obtain ⟨values', -, parts'⟩ := keyOf_eq_ok.1 keyed'
  have agree := CacheKey.unsigned_eq_of_same equal
  rw [← parts, ← parts'] at agree
  simp only [List.map_append, List.map_cons, List.cons_append, List.cons.injEq] at agree
  obtain ⟨-, offset, limit, -⟩ := agree
  have offsets := min_of_keyNumber offset
  have limits := min_of_keyNumber limit
  simp only [Nat.pow_eq, Nat.reducePow, Nat.reduceSub] at offsets limits
  obtain ⟨from', upTo'⟩ := bounds'
  obtain ⟨fromRow, upTo⟩ := bounds
  dsimp only at offsets limits
  unfold RowBounds.select
  cases fromRow with
  | zero =>
      obtain rfl : from' = 0 := by omega
      cases upTo with
      | zero =>
          obtain rfl : upTo' = 0 := by omega
          rfl
      | succ upTo =>
          obtain ⟨more, rfl⟩ : ∃ more, upTo' = more + 1 := ⟨upTo' - 1, by omega⟩
          simp
  | succ fromRow =>
      obtain ⟨more, rfl⟩ : ∃ more, from' = more + 1 := ⟨from' - 1, by omega⟩
      simp

end Executor

namespace Register

variable {statements : List MappedStatement}

theorem mem_of_statement {id : String} {statement : MappedStatement}
    (known : (pipeline statements).configuration.statement id = .ok statement) :
    statement ∈ statements := by
  have found : Fields.get? (statements.map fun statement => (statement.id, statement)) id =
      some statement := by
    unfold Configuration.statement at known
    split at known
    next other present =>
      cases known
      exact present
    next => cases known
  clear known
  induction statements with
  | nil => cases found
  | cons first rest ih =>
      rw [List.map_cons, Fields.get?] at found
      split at found
      next =>
        cases found
        exact List.mem_cons_self
      next => exact List.mem_cons_of_mem _ (ih found)

variable (shape : ∀ statement ∈ statements, ∃ id command sql,
  statement = plainly id command sql ∧ (raises sql → command ≠ .select))

include shape

theorem shape_of_invokes {handler : Handler} (invokes : (pipeline statements).Invokes handler) :
    ∃ id command, handler.statement = plainly id command handler.bound.sql ∧
      handler.bound.mappings = [] ∧ (raises handler.bound.sql → command ≠ .select) := by
  obtain ⟨⟨name, known⟩, parameter, bounded⟩ := invokes
  obtain ⟨id, command, sql, same, raising⟩ := shape _ (mem_of_statement known)
  rw [same] at bounded
  have made : SqlSource.bind parameter (pipeline statements).setting ⟨sql, []⟩ [] = handler.bound :=
    Except.ok.inj bounded
  have text : handler.bound.sql = sql := by rw [← made]; rfl
  refine ⟨id, command, ?_, ?_, ?_⟩
  · rw [same, text]
  · rw [← made]
    rfl
  · rw [text]
    exact raising

theorem request_of_invokes {handler : Handler} (invokes : (pipeline statements).Invokes handler) :
    handler.request (pipeline statements) = .unplaced handler.bound.sql ∧ handler.positions = [] := by
  obtain ⟨id, command, same, none, -⟩ := shape_of_invokes shape invokes
  have kind : handler.statement.kind = .prepared := by
    rw [same]
    rfl
  have placed : handler.placed = [] := by simp only [Handler.placed, kind, none, BoundSql.placedFrom]
  constructor
  · rw [Handler.request, placed]
    rfl
  · simp only [Handler.positions, kind, none, BoundSql.sentFrom]

/-- Over a register, statements without values that are bound to one cache meet the conditions, if what
raises the number is no select. -/
theorem regular : (pipeline statements).Regular picture where
  plain := ⟨rfl, rfl⟩
  isolates := isolates
  steady := by
    intro handler other invokes invokes' _
    rw [(request_of_invokes shape invokes).2, (request_of_invokes shape invokes').2]
  faithful := by
    rintro handler other key key' asks asks' equal _ ⟨register, c, standing, begun, rfl⟩
    obtain ⟨transaction, -, rfl⟩ := Option.map_eq_some_iff.1 begun
    obtain ⟨-, sql, -⟩ := Executor.parts_of_same asks.keyed asks'.keyed equal
    obtain ⟨id, command, same, -⟩ := shape_of_invokes shape asks.invokes
    obtain ⟨id', command', same', -⟩ := shape_of_invokes shape asks'.invokes
    have mapper : handler.statement.mapper = other.statement.mapper := by
      rw [same, same']
      rfl
    rw [Pipeline.answer, Pipeline.answer, (request_of_invokes shape asks.invokes).1,
      (request_of_invokes shape asks'.invokes).1, sql, mapper]
    have selected := @Executor.select_of_same Row _ _ _ _ _ _ _ _ _ asks.keyed asks'.keyed equal
    simp only [ResultSet.mapRows, RegisterTransaction.standing, answer, selected]
  flushes := by
    intro update query id invokes invokes' cached changes
    obtain ⟨name, command, same, -, raising⟩ := shape_of_invokes shape invokes
    obtain ⟨name', command', same', -⟩ := shape_of_invokes shape invokes'
    have updating : command ≠ .select := raising changes
    rw [same'] at cached
    rw [same]
    exact ⟨cached, bne_iff_ne.2 updating⟩

omit shape

def after (statements : List MappedStatement) (moves : List (Move Register)) : Desk Register :=
  moves.foldl (Desk.play (pipeline statements)) ⟨{}, [("c", .empty)], [], [], []⟩

def isCurrent (desk : Desk Register) (name : String) : Bool :=
  (desk.sessions.lookup name).all fun session =>
    session.connection.all fun c => (desk.source.begun c).base == desk.source.committed

def admits (statements : List MappedStatement) (desk : Desk Register) (move : Move Register) : Bool :=
  match move with
  | .opens name _ transaction autocommit _ =>
      !autocommit && !transaction.autocommit && transaction.connection.isNone &&
        (!publishing (pipeline statements) desk move || isCurrent desk name)
  | .calls name _ _ | .drops name =>
      !publishing (pipeline statements) desk move || isCurrent desk name
  | .elsewhere _ => false

def admitsAll (statements : List MappedStatement) : Desk Register → List (Move Register) → Bool
  | _, [] => true
  | desk, move :: rest =>
      admits statements desk move && admitsAll statements (desk.play (pipeline statements) move) rest

theorem current_of_isCurrent {desk : Desk Register} {name : String} (current : isCurrent desk name) :
    desk.Current picture (pipeline statements) name := by
  intro session present id _
  left
  simp only [isCurrent, present, Option.all_some] at current
  cases own : session.connection with
  | none =>
      have unbegun := @Scene.standing_of_none Register picture
        (toScene ⟨desk.source, desk.shared, session, .null⟩) own
      rw [unbegun]
      rfl
  | some c =>
      have begun := @Scene.standing_of_some Register picture
        (toScene ⟨desk.source, desk.shared, session, .null⟩) c own
      simp only [own, Option.all_some, beq_iff_eq] at current
      rw [begun]
      exact (@standing_begun desk.source c).1.trans (congrArg answer current)

theorem admits_of_admits {desk : Desk Register} {move : Move Register}
    (admitted : admits statements desk move) : desk.Admits picture (pipeline statements) move := by
  have current {name : String}
      (checked : (!publishing (pipeline statements) desk move || isCurrent desk name) = true)
      (publishes : publishing (pipeline statements) desk move) :
      desk.Current picture (pipeline statements) name := by
    rw [publishes] at checked
    exact current_of_isCurrent checked
  cases move with
  | opens name kind transaction autocommit drains =>
      simp only [admits, Bool.and_eq_true, Bool.not_eq_true', Option.isNone_iff_eq_none] at admitted
      obtain ⟨⟨⟨rfl, manual⟩, unconnected⟩, checked⟩ := admitted
      exact .opens name kind transaction drains manual unconnected (current checked)
  | calls name parameter call => exact .calls name parameter call (current admitted)
  | drops name => exact .drops name (current admitted)
  | elsewhere source => cases admitted

theorem reachable_of_admitsAll {desk : Desk Register} {moves : List (Move Register)}
    (reachable : desk.Reachable picture (pipeline statements))
    (admitted : admitsAll statements desk moves) :
    (moves.foldl (Desk.play (pipeline statements)) desk).Reachable picture (pipeline statements) := by
  induction moves generalizing desk with
  | nil => exact reachable
  | cons move rest ih =>
      simp only [admitsAll, Bool.and_eq_true] at admitted
      exact ih (reachable.next (admits_of_admits admitted.1)) admitted.2

theorem reachable_after {moves : List (Move Register)}
    (admitted : admitsAll statements ⟨{}, [("c", .empty)], [], [], []⟩ moves) :
    (after statements moves).Reachable picture (pipeline statements) := by
  refine reachable_of_admitsAll (.start _ _ fun id cache found entry mem => ?_) admitted
  by_cases same : "c" = id
  · simp only [Fields.get?, same, if_true, Option.some.injEq] at found
    subst found
    cases mem
  · simp [Fields.get?, same] at found

def found? (statements : List MappedStatement) (moves : List (Move Register)) (parameter : Value) :
    Option (Handler × List Value) :=
  Session.shared? (pipeline statements) "q" .unbounded ⟨(after statements moves).source,
    (after statements moves).shared, .onTransaction .simple { autocommit := false } false, parameter⟩

def opens (name : String) (kind : ExecutorKind) : Move Register :=
  .opens name kind { autocommit := false } false .asStaged

end Register

namespace Desk

open Register

theorem regular_raising : (Register.pipeline [reading, raising]).Regular picture := by
  apply Register.regular
  intro statement mem
  rcases List.mem_pair.1 mem with rfl | rfl
  · exact ⟨"q", .select, "select n", rfl, by decide⟩
  · exact ⟨"u", .update, "raise n", rfl, by decide⟩

def byTurns : List (Move Register) :=
  [opens "a" .simple, .calls "a" .null (.list "q" .unbounded), opens "b" .batch,
    .calls "b" .null (.update "u"), .calls "a" .null (.commit false),
    .calls "b" .null (.commit false), opens "d" .reuse, .calls "d" .null (.list "q" .unbounded),
    .drops "d"]

theorem list_of_shared_byTurns :
    ∃ handler rows, found? [reading, raising] byTurns .null = some (handler, rows) ∧
      documents rows = ["\x7b\"n\":1,\"v\":null\x7d"] ∧
      ((after [reading, raising] byTurns).call "e" (.onTransaction .simple { autocommit := false } false)
        .null (Session.list (Register.pipeline [reading, raising]) "q" .unbounded)).1 = .ok rows ∧
      (Register.pipeline [reading, raising]).answer
        (picture.committed (after [reading, raising] byTurns).source) handler = .ok rows := by
  have admitted : admitsAll [reading, raising] ⟨{}, [("c", .empty)], [], [], []⟩ byTurns := by
    decide +kernel
  have shown : (found? [reading, raising] byTurns .null).map (documents ·.2) =
      some ["\x7b\"n\":1,\"v\":null\x7d"] := by decide +kernel
  obtain ⟨⟨handler, rows⟩, found, texts⟩ := Option.map_eq_some_iff.1 shown
  obtain ⟨answered, -, right⟩ := list_of_shared regular_raising rfl (reachable_after admitted) "e"
    (.onTransaction .simple { autocommit := false } false) .null found
  exact ⟨handler, rows, found, texts, answered, right⟩

def Outdates (statements : List MappedStatement) (moves : List (Move Register)) (parameter : Value) :
    Prop :=
  (∀ statement ∈ statements, statement.cache = some "c") ∧
    ∃ handler rows, found? statements moves parameter = some (handler, rows) ∧
      (Register.pipeline statements).answer (picture.committed (after statements moves).source)
        handler ≠ .ok rows

theorem outdates_of_differs {statements : List MappedStatement} {moves : List (Move Register)}
    {parameter : Value} (bound : statements.all (·.cache == some "c"))
    (differs : (found? statements moves parameter).any fun found =>
      ((Register.pipeline statements).answer (picture.committed (after statements moves).source)
        found.1).toOption.map documents != some (documents found.2)) :
    Outdates statements moves parameter := by
  refine ⟨fun statement mem => ?_, ?_⟩
  · have cached := List.all_eq_true.1 bound statement mem
    exact beq_iff_eq.1 cached
  · obtain ⟨⟨handler, rows⟩, found, apart⟩ := (Option.any_eq_true _ _).1 differs
    refine ⟨handler, rows, found, fun same => ?_⟩
    rw [same] at apart
    exact bne_iff_ne.1 apart rfl

def late : List (Move Register) :=
  [opens "a" .simple, .calls "a" .null (.list "q" .unbounded), opens "b" .simple,
    .calls "b" .null (.update "u"), .calls "b" .null (.commit false), .calls "a" .null (.commit false)]

def sparing : MappedStatement :=
  { raising with flushCache := false }

def unflushed : List (Move Register) :=
  [opens "a" .simple, .calls "a" .null (.list "q" .unbounded), .drops "a", opens "b" .simple,
    .calls "b" .null (.update "u"), .calls "b" .null (.commit false)]

def branched : List (Move Register) :=
  [opens "a" .simple,
    .calls "a" (.map [("v", .int 1), ("written", .bool true)]) (.list "q" .unbounded), .drops "a"]

def sameText : List MappedStatement :=
  [{ Executor.writing with id := "w" },
    { plainly "q" .select "select ?" with kind := .plain }]

def reused : List (Move Register) :=
  [opens "a" .reuse, .calls "a" (.map [("v", .int 1)]) (.list "w" .unbounded),
    .calls "a" .null (.list "q" .unbounded), .drops "a"]

/-- Rows are outdated if they are published late, even if all else is as it should be; after an update
that spared the cache; under a key that two calls share; and where a statement was reused with the
values of another. -/
theorem exists_outdates :
    ((Register.pipeline [reading, raising]).Regular picture ∧ Outdates [reading, raising] late .null) ∧
      Outdates [reading, sparing] unflushed .null ∧
      Outdates [Executor.branching] branched (.map [("v", .int 1), ("written", .bool false)]) ∧
      Outdates sameText reused .null :=
  ⟨⟨regular_raising, outdates_of_differs rfl (by decide +kernel)⟩,
    outdates_of_differs rfl (by decide +kernel), outdates_of_differs rfl (by decide +kernel),
    outdates_of_differs rfl (by decide +kernel)⟩

end Desk

end MappedSql
