import Mathlib.Logic.Function.Basic
import MappedSql.Proofs.Database.Register
import MappedSql.Proofs.Execution.Provenance
import MappedSql.Proofs.Session.Visits

/-!
# What sessions publish

However the calls of sessions are interleaved, the shared caches change only when a session commits
and that goes through, or when a session without uncommitted updates is closed or let go; and what is
added then are rows of queries that the same session ran since it last committed or rolled back
(`History.publication_of_moves`).
-/

namespace MappedSql

variable {σ α β : Type}

open Executor.Shared (Publishes Recorded)

namespace Session

def toScene (scene : SessionScene σ) : Scene σ :=
  ⟨scene.source, scene.shared, scene.session.executor, scene.parameter⟩

def Act.Settles (act : Act σ α) : Prop :=
  ∀ scene : SessionScene σ, (toScene scene).Settles (toScene (act scene).2)

namespace Act.Settles

theorem bind {act : Act σ α} {next : α → Act σ β} (first : Settles act)
    (second : ∀ a, Settles (next a)) : Settles (act >>= next) :=
  Action.related_bind (fun before after => (toScene before).Settles (toScene after))
    Scene.Settles.trans first second

theorem pure (a : α) : Settles (Pure.pure a : Act σ α) :=
  fun _ => .refl _

theorem ofResult (result : Except Error α) : Settles (liftM result : Act σ α) :=
  fun _ => .refl _

theorem get : Settles (MonadState.get : Act σ (SessionScene σ)) :=
  fun _ => .refl _

theorem setDirty (dirty : Bool) : Settles (Session.setDirty dirty : Act σ Unit) :=
  fun _ => .refl _

theorem onSource (act : Action σ α) : Settles (Session.onSource act) :=
  fun _ => Scene.SameCaches.settles ⟨rfl, rfl, rfl, rfl⟩

theorem attempt {act : Act σ α} (settles : Settles act) : Settles act.attempt :=
  settles

theorem inContext {act : Act σ α} (settles : Settles act) (context : String) :
    Settles (act.inContext context) :=
  settles

theorem perform {work : Work σ α} (settles : Work.Settles work) :
    Settles (Session.perform work) :=
  fun scene => settles (toScene scene)

end Act.Settles

variable {pipeline : Pipeline σ} (direct : pipeline.Direct)
  (cached : pipeline.configuration.settings.cacheEnabled = true)

def ranFor (pipeline : Pipeline σ) (id : String) (bounds : RowBounds) (scene : SessionScene σ) :
    List Ran :=
  match pipeline.configuration.statement id with
  | .ok statement => Executor.ran pipeline statement scene.parameter bounds (toScene scene)
  | .error _ => []

theorem list_of_unknown {id : String} {e : Error}
    (unknown : pipeline.configuration.statement id = .error e) (bounds : RowBounds)
    (scene : SessionScene σ) : list pipeline id bounds scene = (.error e, scene) := by
  rw [list, unknown]
  rfl

theorem list_after {id : String} {statement : MappedStatement}
    (found : pipeline.configuration.statement id = .ok statement) (bounds : RowBounds)
    (scene : SessionScene σ) :
    toScene (list pipeline id bounds scene).2 =
      (Executor.query pipeline statement scene.parameter bounds (toScene scene)).2 := by
  rw [list, found]
  rfl

include direct cached

theorem recorded_list (id : String) (bounds : RowBounds) {scene : SessionScene σ}
    (perpetual : scene.shared.Perpetual) {log : List Ran}
    (covered : scene.session.executor.Covered log) :
    Recorded log (ranFor pipeline id bounds scene) (toScene scene)
      (toScene (list pipeline id bounds scene).2) := by
  have executor : (toScene scene).executor.Covered log := covered
  unfold ranFor
  cases found : pipeline.configuration.statement id with
  | error e =>
      rw [list_of_unknown found]
      exact ⟨.refl _, by simpa using executor⟩
  | ok statement =>
      rw [list_after found]
      exact Executor.recorded_query direct cached statement scene.parameter bounds perpetual executor

omit direct cached in
theorem one_after (id : String) (scene : SessionScene σ) :
    (one pipeline id scene).2 = (list pipeline id .unbounded scene).2 := by
  unfold one
  rw [Action.bind_apply]
  rcases list pipeline id .unbounded scene with ⟨_ | rows, after⟩
  · rfl
  · rcases rows with _ | ⟨_, _ | _⟩ <;> rfl

theorem settles_cursor (id : String) (bounds : RowBounds) :
    Act.Settles (cursor pipeline id bounds) := by
  refine (Act.Settles.ofResult _).bind fun statement => Act.Settles.get.bind fun scene => ?_
  exact (Act.Settles.perform (Executor.settles_queryCursor direct cached _ _ _)).inContext _

theorem settles_update (id : String) : Act.Settles (update pipeline id) := by
  refine (Act.Settles.ofResult _).bind fun statement => (Act.Settles.setDirty true).bind fun _ => ?_
  exact (Act.Settles.perform (Executor.settles_update direct cached statement)).inContext _

theorem settles_select {τ : Type} (id : String) (bounds : RowBounds)
    (receive : Nat → Value → Action τ Bool) (receiver : τ) :
    Act.Settles (select pipeline id bounds receive receiver) := by
  refine Act.Settles.bind (settles_cursor direct cached id bounds).attempt fun opened => ?_
  split
  · exact Act.Settles.pure _
  · exact Act.Settles.onSource _

omit cached in
theorem settles_flush : Act.Settles (flush pipeline) :=
  (Act.Settles.perform (Executor.settles_flush direct)).inContext _

structure Published (log later : List Ran) (may : Bool) (before after : Scene σ) : Prop where
  held : may = false → before.shared.SameContents after.shared
  added : Publishes log before.shared after.shared
  perpetual : after.shared.Perpetual
  covered : after.executor.Covered later

omit direct cached

theorem published_of_recorded {log more : List Ran} {before after : Scene σ}
    (perpetual : before.shared.Perpetual) (recorded : Recorded log more before after) (may : Bool) :
    Published log (log ++ more) may before after where
  held := fun _ => recorded.shared
  added := Executor.Shared.publishes_of_sameContents perpetual recorded.shared log
  perpetual := perpetual.of_sameContents recorded.shared
  covered := recorded.covered

theorem published_of_settles {log : List Ran} {before after : Scene σ}
    (perpetual : before.shared.Perpetual) (covered : before.executor.Covered log)
    (settled : before.Settles after) (may : Bool) : Published log log may before after where
  held := fun _ => settled.shared perpetual
  added := Executor.Shared.publishes_of_sameContents perpetual (settled.shared perpetual) log
  perpetual := perpetual.of_sameContents (settled.shared perpetual)
  covered := settled.covered log covered

def leave (scene : SessionScene σ) (after : Scene σ) : SessionScene σ :=
  ⟨after.source, after.shared, { scene.session with executor := after.executor }, after.parameter⟩

theorem perform_apply (work : Work σ α) (context : String) (scene : SessionScene σ) :
    (perform work).inContext context scene =
      (withContext (fun _ => context) (work (toScene scene)).1,
        leave scene (work (toScene scene)).2) :=
  rfl

theorem ending_apply (work : Work σ Unit) (context : String) (scene : SessionScene σ) :
    (((perform work).inContext context >>= fun _ => setDirty false) : Act σ Unit) scene =
      match work (toScene scene) with
      | (.ok _, after) =>
          (.ok (), { leave scene after with
            session := { (leave scene after).session with dirty := false } })
      | (.error e, after) => (.error (e.inContext context), leave scene after) := by
  rw [Action.bind_apply, perform_apply]
  rcases work (toScene scene) with ⟨_ | _, after⟩ <;> rfl

theorem marking_after (work : Work σ Unit) (scene : SessionScene σ) :
    toScene ((perform work >>= fun _ => setDirty false : Act σ Unit) scene).2 =
      (work (toScene scene)).2 := by
  have worked : perform work scene =
      ((work (toScene scene)).1, leave scene (work (toScene scene)).2) := rfl
  rw [Action.bind_apply, worked]
  rcases work (toScene scene) with ⟨_ | _, after⟩ <;> rfl

theorem commit_apply (force : Bool) (scene : SessionScene σ) :
    commit pipeline force scene =
      (((perform (Executor.commit pipeline (scene.session.required force))).inContext
        "Error committing transaction" >>= fun _ => setDirty false) : Act σ Unit) scene :=
  rfl

theorem rollback_apply (force : Bool) (scene : SessionScene σ) :
    rollback pipeline force scene =
      (((perform (Executor.rollback pipeline (scene.session.required force))).inContext
        "Error rolling back transaction" >>= fun _ => setDirty false) : Act σ Unit) scene :=
  rfl

theorem rollback_isOk (force : Bool) (scene : SessionScene σ) :
    (rollback pipeline force scene).1.isOk =
      (Executor.rollback pipeline (scene.session.required force) (toScene scene)).1.isOk := by
  rw [rollback_apply, ending_apply]
  rcases Executor.rollback pipeline (scene.session.required force) (toScene scene) with
    ⟨_ | _, after⟩ <;> rfl

theorem rollback_after (force : Bool) (scene : SessionScene σ) :
    toScene (rollback pipeline force scene).2 =
      (Executor.rollback pipeline (scene.session.required force) (toScene scene)).2 := by
  rw [rollback_apply, ending_apply]
  rcases Executor.rollback pipeline (scene.session.required force) (toScene scene) with
    ⟨_ | _, after⟩ <;> rfl

theorem close_apply (scene : SessionScene σ) :
    close pipeline scene =
      if scene.session.isClosed then (.ok (), scene)
      else ((perform (Executor.close pipeline (scene.session.required false)) >>=
        fun _ => setDirty false) : Act σ Unit) scene := by
  unfold close
  rw [Action.bind_apply]
  change (ite _ _ _ : Act σ Unit) scene = _
  split <;> rfl

section

variable {scene : SessionScene σ} {log : List Ran}
  (perpetual : (toScene scene).shared.Perpetual) (covered : (toScene scene).executor.Covered log)

include direct cached perpetual covered

theorem published_commit (force : Bool) :
    Published log (if (commit pipeline force scene).1.isOk then [] else log)
      (commit pipeline force scene).1.isOk (toScene scene)
      (toScene (commit pipeline force scene).2) := by
  rw [commit_apply, ending_apply, Executor.commit_eq direct cached]
  rcases Executor.Shared.commit_cases perpetual covered (scene.session.required force) with
    ⟨e, after, failed, settled⟩ | ⟨after, done, added, still, empty⟩
  · rw [failed]
    exact published_of_settles perpetual covered settled false
  · rw [done]
    have held : (Except.ok () : Except Error Unit).isOk = false →
        (toScene scene).shared.SameContents after.shared := fun failed => by cases failed
    exact ⟨held, added, still, empty⟩

theorem published_rollback (force : Bool) :
    Published log (if (rollback pipeline force scene).1.isOk then [] else log) false (toScene scene)
      (toScene (rollback pipeline force scene).2) := by
  rw [rollback_isOk, rollback_after, Executor.rollback_eq direct cached]
  have settled := @Executor.Shared.rollback_settles σ pipeline log (toScene scene) perpetual covered
    (scene.session.required force)
  rcases went : Executor.Shared.rollback pipeline (scene.session.required force) (toScene scene) with
    ⟨e | _, after⟩ <;> rw [went] at settled <;> obtain ⟨same, empty⟩ := settled
  · exact ⟨fun _ => same, Executor.Shared.publishes_of_sameContents perpetual same log,
      perpetual.of_sameContents same, empty.mono (List.nil_subset log)⟩
  · exact ⟨fun _ => same, Executor.Shared.publishes_of_sameContents perpetual same log,
      perpetual.of_sameContents same, empty⟩

omit direct in
theorem published_close :
    Published log log (!scene.session.required false) (toScene scene)
      (toScene (close pipeline scene).2) := by
  rw [close_apply]
  split
  · exact published_of_settles perpetual covered (.refl _) _
  · have closed := @Executor.Shared.close_cases σ pipeline log (toScene scene) perpetual covered
      (scene.session.required false)
    rw [Executor.close_eq cached, marking_after]
    obtain ⟨held, added, still, empty⟩ := closed
    exact ⟨fun forced => held (by simpa using forced), added, still, empty⟩

end

def Call.publishes (call : Call) (session : Session) (result : Except Error Unit) : Bool :=
  match call with
  | .commit _ => result.isOk
  | .close => !session.required false
  | _ => false

def Call.restarts (call : Call) (result : Except Error Unit) : Bool :=
  match call with
  | .commit _ | .rollback _ => result.isOk
  | _ => false

def Call.ran (pipeline : Pipeline σ) (call : Call) (scene : SessionScene σ) : List Ran :=
  match call with
  | .list id bounds => ranFor pipeline id bounds scene
  | .one id => ranFor pipeline id .unbounded scene
  | _ => []

def Call.logged (pipeline : Pipeline σ) (call : Call) (scene : SessionScene σ) (log : List Ran) :
    List Ran :=
  if call.restarts (call.act pipeline scene).1 then [] else log ++ call.ran pipeline scene

theorem after_unit (act : Act σ α) (scene : SessionScene σ) :
    ((do let _ ← act : Act σ Unit) scene).2 = (act scene).2 := by
  rw [Action.bind_apply]
  rcases act scene with ⟨_ | a, after⟩ <;> rfl

include direct cached in
theorem Call.published (call : Call) {scene : SessionScene σ} {log : List Ran}
    (perpetual : (toScene scene).shared.Perpetual)
    (covered : (toScene scene).executor.Covered log) :
    Published log (call.logged pipeline scene log)
      (call.publishes scene.session (call.act pipeline scene).1) (toScene scene)
      (toScene (call.act pipeline scene).2) := by
  have settles {β : Type} {act : Act σ β} (quiet : Act.Settles act) :
      Published log (log ++ []) false (toScene scene)
        (toScene ((do let _ ← act : Act σ Unit) scene).2) := by
    rw [after_unit, List.append_nil]
    exact published_of_settles perpetual covered (quiet scene) _
  -- only list and one add to what was recorded; a commit, a rollback and a close end it
  cases call with
  | list id bounds =>
      have after : (Call.act pipeline (.list id bounds) scene).2 =
          (Session.list pipeline id bounds scene).2 := after_unit _ scene
      rw [after]
      exact published_of_recorded perpetual (recorded_list direct cached id bounds perpetual covered) _
  | one id =>
      have after : (Call.act pipeline (.one id) scene).2 =
          (Session.list pipeline id .unbounded scene).2 :=
        (after_unit _ scene).trans (one_after id scene)
      rw [after]
      exact published_of_recorded perpetual
        (recorded_list direct cached id .unbounded perpetual covered) _
  | cursor id bounds => exact settles (settles_cursor direct cached id bounds)
  | select id bounds receive receiver =>
      exact settles (settles_select direct cached id bounds receive receiver)
  | update id => exact settles (settles_update direct cached id)
  | flush => exact settles (settles_flush direct)
  | commit force =>
      have ended := published_commit direct cached perpetual covered force
      simpa [Call.logged, Call.restarts, Call.ran, Call.publishes, Call.act] using ended
  | rollback force =>
      have ended := published_rollback direct cached perpetual covered force
      simpa [Call.logged, Call.restarts, Call.ran, Call.publishes, Call.act] using ended
  | clearCache =>
      have cleared : Act.Settles (Session.clearCache : Act σ Unit) :=
        Act.Settles.perform Executor.settles_clearLocal
      simpa [Call.logged, Call.restarts, Call.ran, Call.publishes, Call.act] using
        published_of_settles perpetual covered (cleared scene) false
  | close =>
      have closed := @published_close σ pipeline cached scene log perpetual covered
      simpa [Call.logged, Call.restarts, Call.ran, Call.publishes, Call.act] using closed

end Session

/-- A desk, and the queries that each session ran since it last committed or rolled back. -/
structure History (σ : Type) where
  desk : Desk σ
  log : String → List Ran

namespace History

open Desk (Move)
open Session (Call toScene)

def start (source : σ) (shared : SharedCaches) : History σ :=
  ⟨⟨source, shared, [], [], []⟩, fun _ => []⟩

def logged (pipeline : Pipeline σ) (history : History σ) : Move σ → String → List Ran
  | .opens name _ _ _ _ => Function.update history.log name []
  | .calls name parameter call =>
      match history.desk.sessions.lookup name with
      | some session =>
          Function.update history.log name
            (call.logged pipeline ⟨history.desk.source, history.desk.shared, session, parameter⟩
              (history.log name))
      | none => history.log
  | .drops _ | .elsewhere _ => history.log

def next (pipeline : Pipeline σ) (history : History σ) (move : Move σ) : History σ :=
  ⟨history.desk.play pipeline move, history.logged pipeline move⟩

def after (pipeline : Pipeline σ) (history : History σ) (moves : List (Move σ)) : History σ :=
  moves.foldl (next pipeline) history

/-- Whether a move publishes: a commit that goes through, or the end of a session without uncommitted
updates. -/
def publishing (pipeline : Pipeline σ) (desk : Desk σ) : Move σ → Bool
  | .opens name _ _ _ _ | .drops name =>
      (desk.sessions.lookup name).any fun session => !session.required false
  | .calls name parameter call =>
      (desk.sessions.lookup name).any fun session =>
        call.publishes session (desk.call name session parameter (call.act pipeline)).1
  | .elsewhere _ => false

def session? : Move σ → Option String
  | .opens name _ _ _ _ | .calls name _ _ | .drops name => some name
  | .elsewhere _ => none

structure Kept (history : History σ) : Prop where
  perpetual : history.desk.shared.Perpetual
  covered : ∀ name session, history.desk.sessions.lookup name = some session →
    session.executor.Covered (history.log name)

/-- What a move does to the shared caches. -/
structure Publication (log : String → List Ran) (may : Bool) (name? : Option String)
    (before after : SharedCaches) : Prop where
  held : may = false → before.SameContents after
  added : ∀ name ∈ name?, Publishes (log name) before after

theorem Publication.of_same (log : String → List Ran) (name? : Option String)
    {shared : SharedCaches} (perpetual : shared.Perpetual) (may : Bool) :
    Publication log may name? shared shared :=
  ⟨fun _ => .refl _, fun name _ =>
    Executor.Shared.publishes_of_sameContents perpetual (.refl _) (log name)⟩

theorem covered_ofKind (kind : ExecutorKind) (transaction : Transaction) (autocommit : Bool)
    (drains : Drains) :
    (Session.onTransaction kind transaction autocommit drains).executor.Covered [] :=
  Executor.Shared.covered_empty rfl rfl

variable {pipeline : Pipeline σ} (direct : pipeline.Direct)
  (cached : pipeline.configuration.settings.cacheEnabled = true)

include cached in
theorem published_closeSession {history : History σ} (kept : history.Kept) {name : String}
    {session : Session} (present : history.desk.sessions.lookup name = some session) :
    Publication history.log (!session.required false) (some name) history.desk.shared
        (history.desk.closeSession pipeline session).shared ∧
      (history.desk.closeSession pipeline session).shared.Perpetual := by
  have published := @Session.published_close σ pipeline cached
    ⟨history.desk.source, history.desk.shared, session, .null⟩ (history.log name) kept.perpetual
    (kept.covered name session present)
  refine ⟨⟨published.held, ?_⟩, published.perpetual⟩
  rintro _ ⟨rfl⟩
  exact published.added

include cached in
theorem published_opens {history : History σ} (kept : history.Kept) (name : String)
    (kind : ExecutorKind) (transaction : Transaction) (autocommit : Bool) (drains : Drains) :
    Publication history.log
        (publishing pipeline history.desk (.opens name kind transaction autocommit drains)) (some name)
        history.desk.shared
        (history.next pipeline (.opens name kind transaction autocommit drains)).desk.shared ∧
      (history.next pipeline (.opens name kind transaction autocommit drains)).Kept := by
  have covered (other : String) (session : Session)
      (present : (history.desk.sessions.put name
        (.onTransaction kind transaction autocommit drains)).lookup other = some session) :
      session.executor.Covered (Function.update history.log name [] other) := by
    by_cases same : other = name
    · subst same
      rw [Named.lookup_put_self, Option.some.injEq] at present
      subst present
      rw [Function.update_self]
      exact covered_ofKind kind transaction autocommit drains
    · rw [Named.lookup_put_of_ne _ _ same] at present
      rw [Function.update_of_ne same]
      exact kept.covered other session present
  cases found : history.desk.sessions.lookup name with
  | none =>
      simp only [next, logged, Desk.play, Desk.putSession, publishing, found, Option.any_none]
      exact ⟨.of_same _ _ kept.perpetual _, kept.perpetual, covered⟩
  | some old =>
      have closed := published_closeSession cached kept found
      simp only [next, logged, Desk.play, Desk.putSession, publishing, found, Option.any_some]
      exact ⟨closed.1, closed.2, covered⟩

include cached in
theorem published_drops {history : History σ} (kept : history.Kept) (name : String) :
    Publication history.log (publishing pipeline history.desk (.drops name)) (some name)
        history.desk.shared (history.next pipeline (.drops name)).desk.shared ∧
      (history.next pipeline (.drops name)).Kept := by
  have covered (other : String) (session : Session)
      (present : (history.desk.sessions.remove name).lookup other = some session) :
      session.executor.Covered (history.log other) := by
    by_cases same : other = name
    · rw [same, Named.lookup_remove_self] at present
      cases present
    · rw [Named.lookup_remove_of_ne _ same] at present
      exact kept.covered other session present
  cases found : history.desk.sessions.lookup name with
  | none =>
      simp only [next, logged, Desk.play, Desk.dropSession, publishing, found, Option.any_none]
      exact ⟨.of_same _ _ kept.perpetual _, kept.perpetual, kept.covered⟩
  | some session =>
      have closed := published_closeSession cached kept found
      simp only [next, logged, Desk.play, Desk.dropSession, publishing, found, Option.any_some]
      exact ⟨closed.1, closed.2, covered⟩

include direct cached in
theorem published_calls {history : History σ} (kept : history.Kept) (name : String)
    (parameter : Value) (call : Call) :
    Publication history.log (publishing pipeline history.desk (.calls name parameter call))
        (some name) history.desk.shared
        (history.next pipeline (.calls name parameter call)).desk.shared ∧
      (history.next pipeline (.calls name parameter call)).Kept := by
  cases found : history.desk.sessions.lookup name with
  | none =>
      simp only [next, logged, Desk.play, publishing, found, Option.any_none]
      exact ⟨.of_same _ _ kept.perpetual _, kept.perpetual, kept.covered⟩
  | some session =>
      have published := @Call.published σ pipeline direct cached call
        ⟨history.desk.source, history.desk.shared, session, parameter⟩ (history.log name)
        kept.perpetual (kept.covered name session found)
      have covered (other : String) (later : Session)
          (present : (history.desk.call name session parameter
            (call.act pipeline)).2.2.sessions.lookup other = some later) :
          later.executor.Covered (Function.update history.log name
            (call.logged pipeline ⟨history.desk.source, history.desk.shared, session, parameter⟩
              (history.log name)) other) := by
        by_cases same : other = name
        · subst same
          rw [Desk.call, Named.lookup_put_self, Option.some.injEq] at present
          subst present
          rw [Function.update_self]
          exact published.covered
        · rw [Desk.call, Named.lookup_put_of_ne _ _ same] at present
          rw [Function.update_of_ne same]
          exact kept.covered other later present
      simp only [next, logged, Desk.play, publishing, found, Option.any_some]
      refine ⟨⟨published.held, ?_⟩, published.perpetual, covered⟩
      rintro _ ⟨rfl⟩
      exact published.added

include direct cached in
theorem published_next {history : History σ} (kept : history.Kept) (move : Move σ) :
    Publication history.log (publishing pipeline history.desk move) (session? move)
        history.desk.shared (history.next pipeline move).desk.shared ∧
      (history.next pipeline move).Kept := by
  cases move with
  | opens name kind transaction autocommit drains =>
      exact published_opens cached kept name kind transaction autocommit drains
  | calls name parameter call => exact published_calls direct cached kept name parameter call
  | drops name => exact published_drops cached kept name
  | elsewhere source =>
      exact ⟨.of_same history.log none kept.perpetual false, kept.perpetual, kept.covered⟩

include direct cached in
theorem kept_after {history : History σ} (kept : history.Kept) (moves : List (Move σ)) :
    (history.after pipeline moves).Kept := by
  induction moves generalizing history with
  | nil => exact kept
  | cons move rest ih => exact ih (published_next direct cached kept move).2

/-- After any moves from fresh sessions, the next move leaves the shared caches alone unless it
publishes, and whatever it adds are rows of queries that its own session ran since it last committed
or rolled back. -/
theorem publication_of_moves (plain : pipeline.Plain)
    (cached : pipeline.configuration.settings.cacheEnabled = true) (source : σ)
    {shared : SharedCaches} (perpetual : shared.Perpetual) (moves : List (Move σ)) (move : Move σ) :
    Publication ((start source shared).after pipeline moves).log
      (publishing pipeline ((start source shared).after pipeline moves).desk move) (session? move)
      ((start source shared).after pipeline moves).desk.shared
      (((start source shared).after pipeline moves).desk.play pipeline move).shared := by
  have fresh : (start source shared).Kept :=
    ⟨perpetual, fun name session present => by cases present⟩
  exact (published_next plain.direct cached (kept_after plain.direct cached fresh moves) move).1

def sharing : MappedStatement :=
  Register.statementOf "q" .select (.static ⟨"select n", []⟩) (some "c")

def reading : List (Move Register) :=
  [.opens "a" .simple { autocommit := false } false .asStaged, .calls "a" .null (.list "q" .unbounded)]

theorem publication_of_moves_reading :
    Publication ((start {} [("c", .empty)]).after (Register.pipeline [sharing]) reading).log true
        (some "a") ((start {} [("c", .empty)]).after (Register.pipeline [sharing]) reading).desk.shared
        (((start {} [("c", .empty)]).after (Register.pipeline [sharing]) reading).desk.play
          (Register.pipeline [sharing]) (.calls "a" .null (.commit false))).shared ∧
      (((start {} [("c", .empty)]).after (Register.pipeline [sharing]) reading).log "a").length = 1 ∧
      (((start {} [("c", .empty)]).after (Register.pipeline [sharing]) reading).desk.play
          (Register.pipeline [sharing]) (.calls "a" .null (.commit false))).shared.map
        (fun cache => cache.2.size) = [1] := by
  have perpetual : SharedCaches.Perpetual [("c", .empty)] := by
    intro id cache found
    by_cases same : "c" = id <;> simp [Fields.get?, same] at found
    exact ⟨[], found.symm⟩
  have published := @publication_of_moves Register (Register.pipeline [sharing]) ⟨rfl, rfl⟩ rfl {} _
    perpetual reading (.calls "a" .null (.commit false))
  have publishing : publishing (Register.pipeline [sharing])
      ((start {} [("c", .empty)]).after (Register.pipeline [sharing]) reading).desk
      (.calls "a" .null (.commit false)) = true := by decide +kernel
  rw [publishing] at published
  exact ⟨published, by decide +kernel, by decide +kernel⟩

end History

end MappedSql
