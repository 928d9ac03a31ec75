import Mathlib.Data.List.Perm.Basic
import MappedSql.Proofs.Execution.Closings
import MappedSql.Proofs.Session.Publication
import MappedSql.Proofs.Session.Streaming
import MappedSql.Proofs.Session.Visits

/-!
# The books are balanced at the end

Through all the calls of a session and all that is done with its cursors, whatever fails, everything that
is open belongs to the session or to a cursor that is open (`Visit.Balanced`). Once the session is closed
and no cursor is open, as much was closed as was opened of each kind.
-/

namespace MappedSql

open MappedSql.Action (Leaves Meets)
open Session (Act Call toScene)

variable {σ α β τ : Type} {ledger : σ → Ledger} {others rows : List Nat}

/-! ## Cursors -/

namespace Cursor

def Accounted (ledger : σ → Ledger) (transaction : Transaction) (others rows : List Nat)
    (state : σ × Cursor) : Prop :=
  (ledger state.1).Accounts transaction (state.2.statement.toList ++ others)
    (state.2.rows.toList ++ rows)

structure Charged (ledger : σ → Ledger) (transaction : Transaction) (others rows : List Nat)
    (state : σ × Cursor) : Prop where
  accounted : Accounted ledger transaction others rows state
  idle : state.2.isOpen = false → state.2.statement = none ∧ state.2.rows = none

structure Released (ledger : σ → Ledger) (transaction : Transaction) (others rows : List Nat)
    (state : σ × Cursor) : Prop where
  bare : state.2.statement = none ∧ state.2.rows = none
  accounts : (ledger state.1).Accounts transaction others rows

variable {source : DataSource σ} {transaction : Transaction}

theorem Released.charged {state : σ × Cursor}
    (released : Released ledger transaction others rows state) :
    Charged ledger transaction others rows state := by
  refine ⟨?_, fun _ => released.bare⟩
  rw [Accounted, released.bare.1, released.bare.2]
  exact released.accounts

variable (keeps : source.Keeps ledger)

include keeps

theorem accounts_finishRows {state : σ} {statements : List Nat} {own : Option RowsId}
    (accounts : (ledger state).Accounts transaction statements (own.toList ++ rows)) :
    (ledger (finishIfAny source.finishRows own state).2).Accounts transaction statements rows := by
  cases own with
  | none => exact accounts
  | some id =>
      rw [finishIfAny, keeps.ledger_finishRows]
      exact accounts.closing_rows

theorem accounts_finishStatement {state : σ} {own : Option StatementId}
    (accounts : (ledger state).Accounts transaction (own.toList ++ others) rows) :
    (ledger (finishIfAny source.finishStatement own state).2).Accounts transaction others rows := by
  cases own with
  | none => exact accounts
  | some st =>
      rw [finishIfAny, keeps.ledger_finishStatement]
      exact accounts.closing_statement

theorem meets_release :
    Meets (Accounted ledger transaction others rows) (release source)
      (fun _ => Released ledger transaction others rows) (Released ledger transaction others rows) := by
  apply Meets.always
  rintro ⟨state, cursor⟩ accounted
  rw [release_after]
  exact ⟨⟨rfl, rfl⟩, accounts_finishStatement keeps (accounts_finishRows keeps accounted)⟩

theorem meets_close :
    Meets (Accounted ledger transaction others rows) (close source)
      (fun _ => Released ledger transaction others rows) (Released ledger transaction others rows) := by
  have changed : Meets (Accounted ledger transaction others rows)
      (update fun cursor =>
        { cursor with state := if cursor.state = .consumed then .consumed else .closed })
      (fun _ => Accounted ledger transaction others rows)
      (Released ledger transaction others rows) :=
    Meets.modify fun _ => id
  exact changed.bind fun _ => meets_release keeps

theorem leaves_skipRows (rows : RowsId) (count : Nat) : Leaves ledger (skipRows source rows count) := by
  induction count with
  | zero => exact Leaves.pure _
  | succ count ih =>
      apply (keeps.nextRow rows).bind
      intro row
      split
      · exact ih
      · exact Leaves.pure _

def books (ledger : σ → Ledger) (state : σ × Cursor) :
    Ledger × Option StatementId × Option RowsId × CursorState :=
  (ledger state.1, state.2.statement, state.2.rows, state.2.state)

omit keeps in
theorem leaves_onFirst {act : Action σ α} (leaves : Leaves ledger act) :
    Leaves (books ledger) (act.onFirst : Action (σ × Cursor) α) := by
  apply Leaves.within
  intro state
  simp only [books, leaves state.1]

theorem leaves_fetch : Leaves (books ledger) (fetch source) := by
  apply Leaves.get.bind
  rintro ⟨_, cursor⟩
  dsimp only
  split
  · exact Leaves.pure _
  next id _ =>
    have skipped : Leaves (books ledger) (skipOffset source id) := by
      apply Leaves.get.bind
      rintro ⟨_, cursor⟩
      dsimp only
      split
      · exact Leaves.pure _
      · apply Leaves.bind
        · exact fun _ => rfl
        · intro _
          exact leaves_onFirst (leaves_skipRows keeps id _)
    apply skipped.bind
    intro enough
    split
    · exact Leaves.pure _
    · split
      · exact Leaves.pure _
      · apply (leaves_onFirst (keeps.nextRow id)).bind
        intro row
        split
        · exact (Leaves.lift _).bind fun _ => Leaves.pure _
        · exact Leaves.pure _

def Reading (ledger : σ → Ledger) (transaction : Transaction) (others rows : List Nat)
    (state : σ × Cursor) : Prop :=
  Accounted ledger transaction others rows state ∧ state.2.state = .opened

theorem meets_fetch :
    Meets (Reading ledger transaction others rows) (fetch source)
      (fun _ => Reading ledger transaction others rows)
      (Reading ledger transaction others rows) := by
  apply Meets.of_leaves (leaves_fetch keeps)
  rintro before after same ⟨accounted, opened⟩
  simp only [books, Prod.mk.injEq] at same
  obtain ⟨kept, statement, rows, stage⟩ := same
  refine ⟨?_, stage.trans opened⟩
  rw [Accounted, kept, statement, rows]
  exact accounted

theorem meets_end (stage : CursorState) {last : Action (σ × Cursor) α}
    (answers : Meets (Charged ledger transaction others rows) last
      (fun _ => Charged ledger transaction others rows) (Charged ledger transaction others rows)) :
    Meets (Reading ledger transaction others rows)
      (do
        update fun cursor => { cursor with state := stage }
        (release source).quietly
        last)
      (fun _ => Charged ledger transaction others rows)
      (Charged ledger transaction others rows) := by
  have changed : Meets (Reading ledger transaction others rows)
      (update fun cursor => { cursor with state := stage })
      (fun _ => Accounted ledger transaction others rows)
      (Charged ledger transaction others rows) :=
    Meets.modify fun _ reading => reading.1
  apply changed.bind
  intro _
  apply (meets_release keeps).quietly.bind
  intro _
  exact answers.weaken (fun _ => Released.charged) (fun _ _ => id) fun _ => id

theorem meets_advance :
    Meets (Accounted ledger transaction others rows)
      (do
        update fun cursor => { cursor with state := .opened }
        match ← (fetch source).attempt with
        | .ok (some value) =>
            update fun cursor => { cursor with yielded := cursor.yielded + 1 }
            return some value
        | .ok none =>
            update fun cursor => { cursor with state := .consumed }
            (release source).quietly
            return none
        | .error e =>
            update fun cursor => { cursor with state := .closed }
            (release source).quietly
            throw e)
      (fun _ => Charged ledger transaction others rows)
      (Charged ledger transaction others rows) := by
  have begun : Meets (Accounted ledger transaction others rows)
      (update fun cursor => { cursor with state := .opened })
      (fun _ => Reading ledger transaction others rows) (Charged ledger transaction others rows) :=
    Meets.modify fun _ accounted => ⟨accounted, rfl⟩
  apply begun.bind
  intro _
  apply (meets_fetch keeps).attempt_either.bind
  intro result
  -- the end of the rows and a failure release the cursor; a row leaves it open
  cases result with
  | error e => exact meets_end keeps .closed (Meets.throw fun _ => id)
  | ok row =>
      cases row with
      | none => exact meets_end keeps .consumed (Meets.pure fun _ => id)
      | some value =>
          have counted : Meets (Reading ledger transaction others rows)
              (update fun cursor => { cursor with yielded := cursor.yielded + 1 })
              (fun _ => Charged ledger transaction others rows)
              (Charged ledger transaction others rows) :=
            Meets.modify fun state ⟨accounted, opened⟩ =>
              ⟨accounted, fun no => by simp [Cursor.isOpen, opened] at no⟩
          exact counted.bind fun _ => Meets.pure fun _ => id

theorem meets_next :
    Meets (Charged ledger transaction others rows) (next source)
      (fun _ => Charged ledger transaction others rows) (Charged ledger transaction others rows) := by
  intro state charged
  unfold next
  rw [Action.bind_apply, Action.get_apply]
  dsimp only
  cases state.2.isOpen with
  | false => exact ⟨fun _ _ => charged, fun _ no => by cases no⟩
  | true => exact meets_advance keeps state charged.accounted

end Cursor

/-! ## Rows one at a time -/

namespace Session

section

variable {source : DataSource σ} {transaction : Transaction} (keeps : source.Keeps ledger)

include keeps

theorem meets_receiveRows (receive : Nat → Value → Action τ Bool) (number steps : Nat) :
    Meets
      (fun state : (σ × Cursor) × τ => Cursor.Charged ledger transaction others rows state.1)
      (receiveRows source receive number steps)
      (fun _ state => Cursor.Charged ledger transaction others rows state.1)
      (fun state => Cursor.Charged ledger transaction others rows state.1) := by
  induction steps generalizing number with
  | zero => exact Meets.pure fun _ => id
  | succ steps ih =>
      have advanced : Meets
          (fun state : (σ × Cursor) × τ => Cursor.Charged ledger transaction others rows state.1)
          ((Cursor.next source).onFirst)
          (fun _ state => Cursor.Charged ledger transaction others rows state.1)
          (fun state => Cursor.Charged ledger transaction others rows state.1) :=
        fun state charged => Cursor.meets_next keeps state.1 charged
      apply advanced.bind
      intro row
      cases row with
      | none => exact Meets.pure fun _ => id
      | some row =>
          have received : Meets
              (fun state : (σ × Cursor) × τ => Cursor.Charged ledger transaction others rows state.1)
              (Action.within Prod.snd (fun state after => (state.1, after)) (receive number row))
              (fun _ state => Cursor.Charged ledger transaction others rows state.1)
              (fun state => Cursor.Charged ledger transaction others rows state.1) :=
            Meets.always fun _ => id
          apply received.bind
          intro enough
          cases enough with
          | true => exact Meets.pure fun _ => id
          | false => exact ih (number + 1)

theorem meets_stream (receive : Nat → Value → Action τ Bool) (limit : Nat) :
    Meets
      (fun state : (σ × Cursor) × τ => Cursor.Charged ledger transaction others rows state.1)
      (stream source receive limit)
      (fun _ state => Cursor.Released ledger transaction others rows state.1)
      (fun state => Cursor.Released ledger transaction others rows state.1) := by
  have closed : Meets
      (fun state : (σ × Cursor) × τ => Cursor.Charged ledger transaction others rows state.1)
      ((Cursor.close source).onFirst)
      (fun _ state => Cursor.Released ledger transaction others rows state.1)
      (fun state => Cursor.Released ledger transaction others rows state.1) :=
    fun state charged => Cursor.meets_close keeps state.1 charged.accounted
  apply (meets_receiveRows keeps receive 1 (limit + 1)).attempt_either.bind
  intro result
  cases result with
  | ok _ => exact closed
  | error e => exact closed.quietly.bind fun _ => Meets.throw fun _ => id

end

/-! ## Calls -/

def Solvent (ledger : σ → Ledger) (others rows : List Nat) (scene : SessionScene σ) : Prop :=
  (toScene scene).Solvent ledger others rows

def Act.Solves (ledger : σ → Ledger) (act : Act σ α) : Prop :=
  ∀ others rows, Meets (Solvent ledger others rows) act (fun _ => Solvent ledger others rows)
    (Solvent ledger others rows)

namespace Act.Solves

theorem bind {act : Act σ α} {next : α → Act σ β} (first : Solves ledger act)
    (second : ∀ a, Solves ledger (next a)) : Solves ledger (act >>= next) :=
  fun others rows => (first others rows).bind fun a => second a others rows

theorem of_leaves {act : Act σ α}
    (leaves : Action.Leaves (fun scene => (toScene scene).books ledger) act) : Solves ledger act :=
  fun _ _ => Meets.of_leaves leaves fun _ _ => Scene.Solvent.told

theorem pure (a : α) : Solves ledger (Pure.pure a : Act σ α) :=
  of_leaves (Action.Leaves.pure a)

theorem setDirty (dirty : Bool) : Solves ledger (Session.setDirty dirty : Act σ Unit) :=
  of_leaves (Action.Leaves.modify fun _ => rfl)

theorem perform {work : Work σ α} (solves : Executor.Solves ledger work) :
    Solves ledger (Session.perform work) :=
  fun others rows scene solvent => solves others rows (toScene scene) solvent

theorem inContext {act : Act σ α} (solves : Solves ledger act) (context : String) :
    Solves ledger (act.inContext context) :=
  fun others rows => (solves others rows).inContext context

end Act.Solves

variable {pipeline : Pipeline σ} (keeps : pipeline.source.Keeps ledger) (plain : pipeline.Plain)

include keeps plain

theorem solves_list (id : String) (bounds : RowBounds) :
    Act.Solves ledger (list pipeline id bounds) := by
  apply (Act.Solves.of_leaves (Action.Leaves.lift _)).bind
  intro statement
  apply (Act.Solves.of_leaves Action.Leaves.get).bind
  intro scene
  exact (Act.Solves.perform (Executor.solves_query keeps plain _ _ _)).inContext _

theorem solves_one (id : String) : Act.Solves ledger (one pipeline id) := by
  apply (solves_list keeps plain id .unbounded).bind
  intro rows
  split
  · exact .pure _
  · exact .pure _
  · exact .of_leaves (Action.Leaves.throw _)

theorem solves_update (id : String) : Act.Solves ledger (update pipeline id) := by
  apply (Act.Solves.of_leaves (Action.Leaves.lift _)).bind
  intro statement
  apply (Act.Solves.setDirty true).bind
  intro _
  exact (Act.Solves.perform (Executor.solves_update keeps plain _)).inContext _

theorem solves_flush : Act.Solves ledger (flush pipeline) :=
  (Act.Solves.perform (Executor.solves_flush keeps plain)).inContext _

theorem solves_commit (force : Bool) : Act.Solves ledger (commit pipeline force) := by
  apply (Act.Solves.of_leaves Action.Leaves.get).bind
  intro scene
  apply ((Act.Solves.perform (Executor.solves_commit keeps plain _)).inContext _).bind
  intro _
  exact .setDirty false

theorem solves_rollback (force : Bool) : Act.Solves ledger (rollback pipeline force) := by
  apply (Act.Solves.of_leaves Action.Leaves.get).bind
  intro scene
  apply ((Act.Solves.perform (Executor.solves_rollback keeps plain _)).inContext _).bind
  intro _
  exact .setDirty false

omit plain in
theorem solves_close : Act.Solves ledger (close pipeline) := by
  apply (Act.Solves.of_leaves Action.Leaves.get).bind
  intro scene
  have closed : Act.Solves ledger
      (perform (Executor.close pipeline (scene.session.required false))) :=
    fun others rows scene solvent =>
      ((Executor.meets_close keeps _).weaken (fun _ => id) (fun _ _ => .inr) fun _ => .inr)
        (toScene scene) solvent
  dsimp only
  split
  · exact .pure _
  · exact closed.bind fun _ => .setDirty false

theorem meets_cursor (id : String) (bounds : RowBounds) :
    Meets (Solvent ledger others rows) (cursor pipeline id bounds)
      (fun opened scene => opened.isOpen ∧
        Solvent ledger (opened.statement.toList ++ others) (opened.rows.toList ++ rows) scene)
      (Solvent ledger others rows) := by
  apply ((Act.Solves.of_leaves (Action.Leaves.lift _)) others rows).bind
  intro statement
  apply ((Act.Solves.of_leaves Action.Leaves.get) others rows).bind
  intro scene
  apply Meets.inContext
  exact fun scene solvent =>
    Executor.meets_queryCursor keeps plain statement _ bounds (toScene scene) solvent

theorem solves_select (id : String) (bounds : RowBounds) (receive : Nat → Value → Action τ Bool)
    (receiver : τ) : Act.Solves ledger (select pipeline id bounds receive receiver) := by
  intro others rows
  apply (meets_cursor keeps plain id bounds).attempt.bind
  intro result
  cases result with
  | error e => exact Meets.pure fun scene held => held.2 e rfl
  | ok opened =>
      apply Meets.always
      intro scene held
      obtain ⟨isOpen, solvent⟩ := held.1 opened rfl
      apply Scene.Solvent.onSource solvent
      intro transaction kept accounts
      have charged : Cursor.Charged ledger transaction (kept ++ others) rows
          (scene.source, opened) := by
        refine ⟨accounts.mono (fun id mem => ?_) fun _ mem => mem, fun no => ?_⟩
        · simp only [List.mem_append] at mem ⊢
          exact or_left_comm.1 mem
        · simp [isOpen] at no
      exact ((meets_stream keeps receive opened.bounds.limit).after ((scene.source, opened), receiver)
        charged).accounts

theorem meets_ask (call : Call) :
    Meets (Solvent ledger others rows) (call.ask pipeline)
      (fun answer scene => (∀ cursor ∈ answer.2, cursor.isOpen) ∧
        Solvent ledger (answer.2.flatMap (·.statement.toList) ++ others)
          (answer.2.flatMap (·.rows.toList) ++ rows) scene)
      (Solvent ledger others rows) := by
  have plainly {γ : Type} {act : Act σ γ} (solves : Act.Solves ledger act) :
      Meets (Solvent ledger others rows) (do return (← act, ([] : List Cursor)))
        (fun answer scene => (∀ cursor ∈ answer.2, cursor.isOpen) ∧
          Solvent ledger (answer.2.flatMap (·.statement.toList) ++ others)
            (answer.2.flatMap (·.rows.toList) ++ rows) scene)
        (Solvent ledger others rows) := by
    apply (solves others rows).bind
    intro reply
    exact Meets.pure fun _ solvent => ⟨fun _ no => (by cases no), solvent⟩
  cases call with
  | list id bounds => exact plainly (solves_list keeps plain id bounds)
  | one id => exact plainly (solves_one keeps plain id)
  | cursor id bounds =>
      apply (meets_cursor keeps plain id bounds).bind
      intro opened
      refine Meets.pure fun scene held => ⟨fun cursor mem => ?_, ?_⟩
      · obtain rfl := List.mem_singleton.1 mem
        exact held.1
      · simpa using held.2
  | select id bounds receive receiver =>
      exact plainly (solves_select keeps plain id bounds receive receiver)
  | update id => exact plainly (solves_update keeps plain id)
  | flush => exact plainly (solves_flush keeps plain)
  | commit force => exact plainly (solves_commit keeps plain force)
  | rollback force => exact plainly (solves_rollback keeps plain force)
  | clearCache =>
      exact plainly (Act.Solves.perform (Executor.solves_of_leaves Executor.leaves_clearLocal))
  | close => exact plainly (solves_close keeps)

end Session

/-! ## Visits -/

namespace Visit

structure Balanced (ledger : σ → Ledger) (visit : Visit σ) : Prop where
  solvent : Session.Solvent ledger (visit.cursors.flatMap (·.statement.toList))
    (visit.cursors.flatMap (·.rows.toList)) (visit.scene .null)
  idle : ∀ cursor ∈ visit.cursors, cursor.isOpen = false →
    cursor.statement = none ∧ cursor.rows = none

theorem mem_flatMap_at {cursors : List Cursor} {place : Nat} {cursor : Cursor}
    (found : cursors[place]? = some cursor) (owned : Cursor → List Nat) (id : Nat) :
    id ∈ cursors.flatMap owned ↔ id ∈ owned cursor ++ (cursors.eraseIdx place).flatMap owned := by
  obtain ⟨inside, rfl⟩ := List.getElem?_eq_some_iff.1 found
  exact ((List.getElem_cons_eraseIdx_perm inside).flatMap_right owned).mem_iff.symm

def beside (visit : Visit σ) (place : Nat) (owned : Cursor → List Nat) : List Nat :=
  (visit.cursors.eraseIdx place).flatMap owned

variable {visit : Visit σ} {place : Nat} {cursor : Cursor}

theorem Balanced.charged (balanced : visit.Balanced ledger)
    (found : visit.cursors[place]? = some cursor) {transaction : Transaction} {kept : List Nat}
    (accounts : (ledger visit.source).Accounts transaction
      (kept ++ visit.cursors.flatMap (·.statement.toList)) (visit.cursors.flatMap (·.rows.toList))) :
    Cursor.Charged ledger transaction (kept ++ visit.beside place (·.statement.toList))
      (visit.beside place (·.rows.toList)) (visit.source, cursor) := by
  refine ⟨accounts.mono (fun id mem => ?_) (fun id mem => ?_), ?_⟩
  · rw [List.mem_append, mem_flatMap_at found, List.mem_append] at mem
    simp only [List.mem_append]
    exact or_left_comm.1 mem
  · rwa [mem_flatMap_at found] at mem
  · exact balanced.idle cursor (List.mem_of_getElem? found)

variable {pipeline : Pipeline σ} (keeps : pipeline.source.Keeps ledger) (plain : pipeline.Plain)

theorem balanced_onCursor (balanced : visit.Balanced ledger) {act : Action (σ × Cursor) α}
    (meets : ∀ transaction others rows,
      Meets (Cursor.Charged ledger transaction others rows) act
        (fun _ => Cursor.Charged ledger transaction others rows)
        (Cursor.Charged ledger transaction others rows)) :
    (visit.onCursor place act).2.Balanced ledger := by
  cases found : visit.cursors[place]? with
  | none =>
      rw [onCursor_of_none found]
      exact balanced
  | some cursor =>
      rw [onCursor_of_some found]
      obtain ⟨inside, -⟩ := List.getElem?_eq_some_iff.1 found
      have after {transaction : Transaction} {kept : List Nat}
          (accounts : (ledger visit.source).Accounts transaction
            (kept ++ visit.cursors.flatMap (·.statement.toList))
            (visit.cursors.flatMap (·.rows.toList))) :=
        (meets transaction _ _).after (visit.source, cursor) (balanced.charged found accounts)
      have placed : (visit.cursors.set place (act (visit.source, cursor)).2.2)[place]? =
          some (act (visit.source, cursor)).2.2 := List.getElem?_set_self inside
      constructor
      · apply Scene.Solvent.onSource balanced.solvent
        intro transaction kept accounts
        apply (after accounts).accounted.mono
        · intro id mem
          rw [List.mem_append, mem_flatMap_at placed, List.eraseIdx_set_eq, List.mem_append]
          simp only [List.mem_append] at mem
          exact or_left_comm.1 mem
        · intro id mem
          rwa [mem_flatMap_at placed, List.eraseIdx_set_eq]
      · intro other mem
        cases List.mem_or_eq_of_mem_set mem with
        | inl old => exact balanced.idle other old
        | inr new =>
            subst new
            obtain ⟨kept, accounts⟩ := balanced.solvent.accounts
            exact (after accounts).idle

include keeps

theorem balanced_letGo (balanced : visit.Balanced ledger) (place : Nat) :
    (visit.letGo pipeline place).Balanced ledger := by
  unfold letGo
  cases found : visit.cursors[place]? with
  | none => exact balanced
  | some cursor =>
      constructor
      · apply Scene.Solvent.onSource balanced.solvent
        intro transaction kept accounts
        have charged := balanced.charged found accounts
        exact ((Cursor.meets_close keeps).after (visit.source, cursor) charged.accounted).accounts
      · intro other mem
        exact balanced.idle other (List.mem_of_mem_eraseIdx mem)

include plain

theorem balanced_ask (balanced : visit.Balanced ledger) (parameter : Value) (call : Call) :
    (visit.ask pipeline parameter call).2.Balanced ledger := by
  have begun : (toScene (visit.scene parameter)).books ledger =
      (toScene (visit.scene .null)).books ledger := rfl
  have asked := Session.meets_ask keeps plain call (visit.scene parameter)
    (Scene.Solvent.told begun balanced.solvent)
  unfold ask
  rcases ran : call.ask pipeline (visit.scene parameter) with ⟨e | ⟨reply, handed⟩, after⟩ <;>
    rw [ran] at asked
  · have left : (toScene ((visit.leave after []).scene .null)).books ledger =
        (toScene after).books ledger := rfl
    have same : (visit.leave after []).cursors = visit.cursors := List.append_nil _
    constructor
    · rw [same]
      exact Scene.Solvent.told left (asked.2 e rfl)
    · rw [same]
      exact balanced.idle
  · obtain ⟨isOpen, solvent⟩ := asked.1 _ rfl
    have left : (toScene ((visit.leave after handed).scene .null)).books ledger =
        (toScene after).books ledger := rfl
    constructor
    · apply Scene.Solvent.told left
      apply Scene.Solvent.mono solvent
      · intro id mem
        simp only [leave, List.flatMap_append, List.mem_append]
        exact (List.mem_append.1 mem).symm
      · intro id mem
        simp only [leave, List.flatMap_append, List.mem_append]
        exact (List.mem_append.1 mem).symm
    · intro cursor mem no
      cases List.mem_append.1 mem with
      | inl old => exact balanced.idle cursor old no
      | inr new =>
          rw [isOpen cursor new] at no
          cases no

theorem balanced_step (balanced : visit.Balanced ledger) (move : Move) :
    (visit.step pipeline move).2.Balanced ledger := by
  cases move with
  | calls parameter call => exact balanced_ask keeps plain balanced parameter call
  | next place => exact balanced_onCursor balanced fun _ _ _ => Cursor.meets_next keeps
  | closes place =>
      exact balanced_onCursor balanced fun _ _ _ => (Cursor.meets_close keeps).weaken
        (fun _ charged => charged.accounted) (fun _ _ released => released.charged)
        fun _ released => released.charged
  | drops place => exact balanced_letGo keeps balanced place

omit keeps plain in
theorem Balanced.settled (balanced : visit.Balanced ledger) (closed : visit.session.isClosed = true)
    (done : ∀ cursor ∈ visit.cursors, cursor.isOpen = false) :
    (∀ asset, (ledger visit.source asset).opened = (ledger visit.source asset).closed) ∧
      (ledger visit.source .connection).opened ≤ 1 := by
  have bare (owned : Cursor → List Nat)
      (none : ∀ cursor : Cursor, cursor.statement = Option.none ∧ cursor.rows = Option.none →
        owned cursor = []) : visit.cursors.flatMap owned = [] :=
    List.flatMap_eq_nil_iff.2 fun cursor mem => none cursor (balanced.idle cursor mem (done cursor mem))
  have ended := balanced.solvent.ended closed
  rw [bare _ fun cursor none => by simp [none.1], bare _ fun cursor none => by simp [none.2]] at ended
  obtain ⟨-, unconnected, ⟨connection, once, -⟩, statement, rows⟩ := ended
  rw [unconnected] at connection
  refine ⟨fun asset => ?_, once⟩
  cases asset with
  | connection =>
      exact connection.balanced.settled fun id live => by cases connection.owned id live
  | statement =>
      exact statement.balanced.settled fun id live => by cases statement.owned id live
  | rows => exact rows.balanced.settled fun id live => by cases rows.owned id live

end Visit

/-! ## The recording data source -/

/-- What a recording data source is told to fail at and to answer. -/
structure Conditions where
  faults : List String := []
  script : Script := {}

def Conditions.on (conditions : Conditions) (faulty : Faulty Recording) : Faulty Recording :=
  { faulty with
    inner := { faulty.inner with script := conditions.script }
    faults := conditions.faults }

theorem Conditions.ledger_on (conditions : Conditions) (faulty : Faulty Recording) :
    (conditions.on faulty).inner.ledger = faulty.inner.ledger := by
  funext asset
  cases asset <;> rfl

namespace Visit

variable {pipeline : Pipeline (Faulty Recording)}

def under (pipeline : Pipeline (Faulty Recording)) (visit : Visit (Faulty Recording))
    (moves : List (Conditions × Move)) : Visit (Faulty Recording) :=
  moves.foldl (fun visit move =>
    ({ visit with source := move.1.on visit.source }.step pipeline move.2).2) visit

theorem balanced_under (keeps : pipeline.source.Keeps (Recording.ledger ∘ Faulty.inner))
    (plain : pipeline.Plain) {visit : Visit (Faulty Recording)}
    (balanced : visit.Balanced (Recording.ledger ∘ Faulty.inner)) (moves : List (Conditions × Move)) :
    (visit.under pipeline moves).Balanced (Recording.ledger ∘ Faulty.inner) := by
  induction moves generalizing visit with
  | nil => exact balanced
  | cons move rest ih =>
      apply ih
      apply balanced_step keeps plain
      refine ⟨?_, balanced.idle⟩
      apply Scene.Solvent.told _ balanced.solvent
      simp only [Scene.books, toScene, scene, Function.comp, Conditions.ledger_on]

theorem balanced_opened (shared : SharedCaches) (kind : ExecutorKind) (autocommit : Bool)
    (timeout : Option Nat) (drains : Drains) :
    (opened { inner := {} } shared kind autocommit timeout drains).Balanced
      (Recording.ledger ∘ Faulty.inner) := by
  have empty : (⟨0, 0, []⟩ : Shelf).Accounted [] := ⟨⟨rfl, rfl⟩, fun id live => by cases live⟩
  have accounts : (Recording.ledger {}).Accounts { autocommit := autocommit, timeout := timeout }
      [] [] := ⟨⟨empty, Nat.zero_le 1, fun _ _ => rfl⟩, empty, empty⟩
  refine ⟨.inl ?_, fun cursor mem => by cases mem⟩
  cases kind with
  | simple => exact ⟨.simple, trivial, rfl, rfl, accounts⟩
  | reuse => exact ⟨.reuse [], List.nodup_nil, rfl, rfl, accounts⟩
  | batch => exact ⟨.batch [] none, trivial, rfl, rfl, accounts⟩

/-- Once the session is closed and no cursor is open, as many statements, row sources and connections
were closed as were opened, and at most one connection was. -/
theorem counters_of_closed (plain : pipeline.Plain)
    (recorded : pipeline.source = Faulty.around Recording.source) (shared : SharedCaches)
    (kind : ExecutorKind) (autocommit : Bool) (timeout : Option Nat) (drains : Drains)
    (moves : List (Conditions × Move)) {visit : Visit (Faulty Recording)}
    (played : visit = (opened { inner := {} } shared kind autocommit timeout drains).under pipeline moves)
    (closed : visit.session.isClosed = true)
    (done : ∀ cursor ∈ visit.cursors, cursor.isOpen = false) :
    visit.source.inner.counters.prepared = visit.source.inner.counters.statementsClosed ∧
      visit.source.inner.counters.cursorsOpened = visit.source.inner.counters.cursorsClosed ∧
      visit.source.inner.counters.connectionsOpened =
        visit.source.inner.counters.connectionsClosed ∧
      visit.source.inner.counters.connectionsOpened ≤ 1 := by
  have keeps : pipeline.source.Keeps (Recording.ledger ∘ Faulty.inner) := by
    rw [recorded]
    exact Faulty.keeps_around Recording.keeps
  have balanced : visit.Balanced (Recording.ledger ∘ Faulty.inner) := by
    rw [played]
    exact balanced_under keeps plain (balanced_opened shared kind autocommit timeout drains) moves
  obtain ⟨settled, once⟩ := balanced.settled closed done
  exact ⟨settled .statement, settled .rows, settled .connection, once⟩

/-- A select whose execution fails, an update whose statement is not closed cleanly, and a cursor that is
used after the session. -/
def troubled : List (Conditions × Move) :=
  [({ faults := ["query"] }, .calls .null (.list "q" .unbounded)),
    ({ faults := ["stmt_close"] }, .calls .null (.update "u")),
    ({}, .calls .null (.cursor "q" .unbounded)),
    ({ faults := ["batch"] }, .calls .null .close),
    ({ faults := ["row:1"] }, .next 0)]

def troubledPipeline : Pipeline (Faulty Recording) :=
  .over (Faulty.around Recording.source)
    [Register.statementOf "q" .select (.static ⟨"select n", []⟩) none,
      Register.statementOf "u" .update (.static ⟨"raise n", []⟩) none]

def outcome : Visit (Faulty Recording) :=
  (opened { inner := {} } [] .batch false none .asStaged).under troubledPipeline troubled

theorem counters_of_closed_troubled :
    outcome.session.isClosed = true ∧ (∀ cursor ∈ outcome.cursors, cursor.isOpen = false) ∧
      (outcome.source.inner.counters.prepared = outcome.source.inner.counters.statementsClosed ∧
        outcome.source.inner.counters.cursorsOpened = outcome.source.inner.counters.cursorsClosed ∧
        outcome.source.inner.counters.connectionsOpened =
          outcome.source.inner.counters.connectionsClosed ∧
        outcome.source.inner.counters.connectionsOpened ≤ 1) ∧
      outcome.source.inner.counters.prepared = 3 := by
  have closed : outcome.session.isClosed = true := by decide +kernel
  have done : ∀ cursor ∈ outcome.cursors, cursor.isOpen = false := by decide +kernel
  have counted : outcome.source.inner.counters.prepared = 3 := by decide +kernel
  have plain : troubledPipeline.Plain := ⟨rfl, rfl⟩
  exact ⟨closed, done, counters_of_closed plain rfl [] .batch false none .asStaged troubled rfl closed done,
    counted⟩

end Visit

end MappedSql
