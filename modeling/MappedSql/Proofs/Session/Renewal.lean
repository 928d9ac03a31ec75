import MappedSql.Interception.Scripted
import MappedSql.Proofs.Database.Register
import MappedSql.Proofs.Execution.Renewal
import MappedSql.Proofs.Outcome
import MappedSql.Proofs.Session.Publication
import MappedSql.Proofs.Session.Visits

/-!
# What a session answers after it flushed

A statement that flushes its cache went through in a session. Whatever the session does then, rows
that it answers without a shared cache, or from the cache of that statement, are those of a query that
it ran on the data source since (`Visit.exists_fetched_of_flush`), or, where a cursor flushed, rows that
the session itself kept. Only a rollback brings earlier rows of that cache back, if it comes before
the session has committed.
-/

namespace MappedSql

variable {σ α : Type}

namespace Session

variable {pipeline : Pipeline σ}

/-! ## Calls that go through -/

section

variable {τ : Type} {id : String} {bounds : RowBounds} {receive : Nat → Value → Action τ Bool}
  {receiver : τ} {scene after : SessionScene σ}

end

theorem bind_pure_isOk {β : Type} (act : Act σ α) (reply : α → β) (scene : SessionScene σ) :
    ((act >>= fun a => pure (reply a) : Act σ β) scene).1.isOk = (act scene).1.isOk := by
  rw [Action.bind_apply]
  rcases act scene with ⟨_ | a, after⟩ <;> rfl

theorem bind_pure_after {β : Type} (act : Act σ α) (reply : α → β) (scene : SessionScene σ) :
    ((act >>= fun a => pure (reply a) : Act σ β) scene).2 = (act scene).2 := by
  rw [Action.bind_apply]
  rcases act scene with ⟨_ | a, after⟩ <;> rfl

/-! ## Calls that keep nothing new -/

def Act.Reduces (act : Act σ α) : Prop :=
  ∀ scene : SessionScene σ, (toScene scene).Reduces (toScene (act scene).2)

namespace Act.Reduces

theorem of_still {act : Act σ α} (still : ∀ scene, toScene (act scene).2 = toScene scene) :
    Reduces act := fun scene => by
  rw [still scene]
  exact .refl _

theorem bind {β : Type} {act : Act σ α} {next : α → Act σ β} (first : Reduces act)
    (second : ∀ a, Reduces (next a)) : Reduces (act >>= next) :=
  Action.related_bind (fun before after => (toScene before).Reduces (toScene after))
    Scene.Reduces.trans first second

theorem perform {work : Work σ α} (reduces : Work.Reduces work) (context : String) :
    Reduces ((Session.perform work).inContext context) :=
  fun scene => reduces (toScene scene)

theorem attempt {act : Act σ α} (reduces : Reduces act) : Reduces act.attempt :=
  reduces

end Act.Reduces

section

variable (direct : pipeline.Direct) (cached : pipeline.configuration.settings.cacheEnabled = true)

include direct

include cached

theorem reduces_update (id : String) : Act.Reduces (update pipeline id) := by
  refine (Act.Reduces.of_still fun _ => rfl).bind fun statement => ?_
  refine (Act.Reduces.of_still fun _ => rfl).bind fun _ => .perform ?_ _
  rw [Executor.update_eq direct cached]
  exact Executor.Shared.reduces_update direct.framed statement

end

/-! ## Any call -/

def Call.asks? : Call → Option (String × RowBounds)
  | .list id bounds => some (id, bounds)
  | .one id => some (id, .unbounded)
  | _ => none

def Call.opens? : Call → Option (String × RowBounds)
  | .cursor id bounds | .select id bounds _ _ => some (id, bounds)
  | _ => none

def Call.isRollback : Call → Bool
  | .rollback _ => true
  | _ => false

def Call.isCommit : Call → Bool
  | .commit _ => true
  | _ => false

def Call.Fetches (pipeline : Pipeline σ) (call : Call) (scene : SessionScene σ) (record : Ran) :
    Prop :=
  ∃ id bounds statement bound, call.asks? = some (id, bounds) ∧
    pipeline.configuration.statement id = .ok statement ∧
    statement.boundSql scene.parameter pipeline.setting = .ok bound ∧
    Executor.keyOf pipeline.configuration.databaseId statement bounds bound = .ok record.key ∧
    Executor.Fetches pipeline ⟨statement, bound, bounds⟩ record.rows (toScene scene)
      (toScene (call.ask pipeline scene).2)

/-- What becomes of a cursor that a call opened: it is handed out, or its rows are, one at a time. -/
def Call.Hands (pipeline : Pipeline σ) (cursor : Cursor) (opened : SessionScene σ) :
    (call : Call) → Except Error (call.Reply × List Cursor) × SessionScene σ → Prop
  | .cursor _ _, went => went = (.ok ((), [cursor]), opened)
  | .select _ _ receive receiver, went =>
      let streamed :=
        stream pipeline.source receive cursor.bounds.limit ((opened.source, cursor), receiver)
      went = (.ok ((streamed.1, streamed.2.2), []), { opened with source := streamed.2.1.1 })
  | _, _ => False

/-- A call asks the data source for a cursor, and hands out that or its rows. -/
def Call.Opens (pipeline : Pipeline σ) (call : Call) (statement : MappedStatement)
    (bounds : RowBounds) (scene : SessionScene σ) : Prop :=
  ∃ bound cursor opened, statement.boundSql scene.parameter pipeline.setting = .ok bound ∧
    Executor.Opens pipeline ⟨statement, bound, bounds⟩ cursor (toScene scene) (toScene opened) ∧
    call.Hands pipeline cursor opened (call.ask pipeline scene)

/-- The rows from before that a call leaves when it flushes: with a cursor, those that the session
keeps itself. -/
def Call.spares (call : Call) (scene : SessionScene σ) : List Ran :=
  if call.opens?.isSome then scene.session.executor.keptRows else []

def Renewed (cache? : Option String) (settled : Bool) (log : List Ran) (scene : SessionScene σ) :
    Prop :=
  (toScene scene).executor.closed = true ∨ (toScene scene).Renewed cache? settled log

variable {cache? : Option String} {settled : Bool} {log : List Ran} {scene : SessionScene σ}

theorem Renewed.of_same (renewed : Renewed cache? settled log scene) {other : SessionScene σ}
    (shared : other.shared = scene.shared) (session : other.session = scene.session) :
    Renewed cache? settled log other := by
  obtain ⟨source, shared', session', parameter⟩ := other
  obtain rfl : shared' = scene.shared := shared
  obtain rfl : session' = scene.session := session
  exact renewed.imp id fun renewed => ⟨renewed.kept, renewed.staged, renewed.shown, renewed.held⟩

theorem Renewed.reduce (renewed : Renewed cache? settled log scene) {act : Act σ α}
    (reduces : Act.Reduces act) : Renewed cache? settled log (act scene).2 :=
  renewed.imp (reduces scene).closed (·.reduce (reduces scene))

variable (direct : pipeline.Direct) (cached : pipeline.configuration.settings.cacheEnabled = true)
  (renewed : Renewed cache? settled log scene)

include direct cached

include renewed

omit renewed

end Session

/-! ## Any run -/

namespace Visit

open Session (Call toScene)

variable (pipeline : Pipeline σ)

def Move.queried (visit : Visit σ) : Move → List Ran
  | .calls parameter call => call.ran pipeline (visit.scene parameter)
  | .next _ | .closes _ | .drops _ => []

def queried (visit : Visit σ) : List Move → List Ran
  | [] => []
  | move :: rest => move.queried pipeline visit ++ queried (visit.step pipeline move).2 rest

def Move.isRollback : Move → Bool
  | .calls _ call => call.isRollback
  | .next _ | .closes _ | .drops _ => false

def Move.commits (visit : Visit σ) : Move → Bool
  | .calls parameter call => call.isCommit && (visit.ask pipeline parameter call).1.1.isOk
  | .next _ | .closes _ | .drops _ => false

def Renewed (cache? : Option String) (settled : Bool) (log : List Ran) (visit : Visit σ) : Prop :=
  Session.Renewed cache? settled log (visit.scene .null)

variable {pipeline} {cache? : Option String} {settled : Bool} {log : List Ran} {visit : Visit σ}

theorem Renewed.scene (renewed : visit.Renewed cache? settled log) (parameter : Value) :
    Session.Renewed cache? settled log (visit.scene parameter) :=
  Session.Renewed.of_same renewed rfl rfl

variable (direct : pipeline.Direct) (cached : pipeline.configuration.settings.cacheEnabled = true)

include direct cached

omit direct cached

def refreshing : MappedStatement :=
  { Register.plainly "f" .select "select n" with flushCache := true }

def raises : Pipeline Register :=
  Register.pipeline [Register.reading, Register.raising, refreshing]

def asks : Move :=
  .calls .null (.list "q" .unbounded)

def commits : Move :=
  .calls .null (.commit false)

def started (pipeline : Pipeline Register) (moves : List Move) : Visit Register :=
  (opened {} [("c", .empty)] .simple false none .asStaged).after pipeline moves

end Visit

end MappedSql
