import MappedSql.Proofs.Database.Tracing
import MappedSql.Proofs.Session.Streaming

/-!
# Rows on demand

A cursor passes over the rows before its offset and hands out those within its limit one at a time.
Collecting them comes to what mapping a whole result comes to, no row is fetched before it is asked
for, and none beyond the limit. However a cursor is read and closed, its row source and its statement
are closed once (`Cursor.paging`).
-/

namespace MappedSql

/-! ## What a trace counts -/

namespace Operation

def isNextRow (rows : RowsId) : Operation → Bool
  | nextRow id => id == rows
  | _ => false

def isCloseRows (rows : RowsId) : Operation → Bool
  | closeRows id => id == rows
  | _ => false

def isCloseStatement (st : StatementId) : Operation → Bool
  | closeStatement id => id == st
  | _ => false

end Operation

namespace Traced

variable {τ : Type} (source : DataSource τ)

def count (kind : Operation → Bool) (traced : Traced τ) : Nat :=
  traced.trace.countP (Event.asks kind)

def Fetches (rows : RowsId) (fetched : Nat) (before after : Traced τ) : Prop :=
  ∀ kind, after.count kind = before.count kind + fetched * (kind (.nextRow rows)).toNat

theorem Fetches.refl (rows : RowsId) (traced : Traced τ) : Fetches rows 0 traced traced := by
  intro kind
  rw [Nat.zero_mul, Nat.add_zero]

theorem Fetches.trans {rows : RowsId} {m n : Nat} {first second third : Traced τ}
    (left : Fetches rows m first second) (right : Fetches rows n second third) :
    Fetches rows (m + n) first third := by
  intro kind
  rw [right kind, left kind, Nat.add_mul, Nat.add_assoc]

theorem count_ask (kind : Operation → Bool) (operation : Operation) (traced : Traced τ) :
    (ask source operation traced).2.count kind = traced.count kind + (kind operation).toNat := by
  show (traced.trace ++ [Event.asked operation _]).countP (Event.asks kind) = _
  rw [List.countP_append]
  cases asked : kind operation <;> simp [Event.asks, asked, count]

theorem fetches_nextRow (rows : RowsId) (traced : Traced τ) :
    Fetches rows 1 traced ((around source).nextRow rows traced).2 := by
  intro kind
  rw [Nat.one_mul]
  exact count_ask source kind (.nextRow rows) traced

theorem count_finishRows (kind : Operation → Bool) (rows : RowsId) (traced : Traced τ) :
    ((around source).finishRows rows traced).2.count kind =
      traced.count kind + (kind (.closeRows rows)).toNat :=
  count_ask source kind (.closeRows rows) traced

theorem count_finishStatement (kind : Operation → Bool) (st : StatementId) (traced : Traced τ) :
    ((around source).finishStatement st traced).2.count kind =
      traced.count kind + (kind (.closeStatement st)).toNat :=
  count_ask source kind (.closeStatement st) traced

end Traced

namespace Cursor

open Traced (Fetches)

variable {σ τ : Type}

/-! ## What the operations of a cursor do -/

def toSkip (cursor : Cursor) : Nat :=
  if cursor.skipped then 0 else cursor.bounds.offset

section

variable (source : DataSource σ) (state : σ) (cursor : Cursor)

theorem skipOffset_apply (rows : RowsId) : skipOffset source rows (state, cursor) =
    ((skipRows source rows cursor.toSkip state).1,
      ((skipRows source rows cursor.toSkip state).2, { cursor with skipped := true })) := by
  obtain ⟨own, statement, mapper, bounds, stage, skipped, yielded⟩ := cursor
  cases skipped <;> rfl

theorem fetch_apply {rows : RowsId} (held : cursor.rows = some rows) :
    fetch source (state, cursor) =
      match skipRows source rows cursor.toSkip state with
      | (.error e, state) => (.error e, (state, { cursor with skipped := true }))
      | (.ok false, state) => (.ok none, (state, { cursor with skipped := true }))
      | (.ok true, state) =>
          if cursor.bounds.limit ≤ cursor.yielded then
            (.ok none, (state, { cursor with skipped := true }))
          else
            match source.nextRow rows state with
            | (.error e, state) => (.error e, (state, { cursor with skipped := true }))
            | (.ok none, state) => (.ok none, (state, { cursor with skipped := true }))
            | (.ok (some row), state) =>
                ((cursor.mapper.mapRow row).map some, (state, { cursor with skipped := true })) := by
  obtain ⟨own, statement, mapper, bounds, stage, skipped, yielded⟩ := cursor
  obtain rfl : own = some rows := held
  rw [fetch, Action.bind_apply, Action.get_apply]
  dsimp only
  rw [Action.bind_apply, skipOffset_apply]
  rcases skipRows source rows _ state with ⟨_ | _ | _, state⟩
  · rfl
  · rfl
  · by_cases ended : bounds.limit ≤ yielded
    · simp only [ended, if_true, Bool.not_true, Bool.false_eq_true, if_false]
      rfl
    · simp only [ended, Bool.not_true, Bool.false_eq_true, if_false]
      rw [Action.bind_apply]
      rcases fetched : source.nextRow rows state with ⟨e | _ | row, state⟩
      · simp only [Action.onFirst, Action.within, fetched]
      · simp only [Action.onFirst, Action.within, fetched]
        rfl
      · simp only [Action.onFirst, Action.within, fetched]
        rw [Action.bind_apply]
        cases mapper.mapRow row <;> rfl

theorem next_apply (isOpen : cursor.isOpen = true) : next source (state, cursor) =
    match fetch source (state, { cursor with state := .opened }) with
    | (.ok (some value), (state, cursor)) =>
        (.ok (some value), (state, { cursor with yielded := cursor.yielded + 1 }))
    | (.ok none, (state, cursor)) =>
        (.ok none, (release source (state, { cursor with state := .consumed })).2)
    | (.error e, (state, cursor)) =>
        (.error e, (release source (state, { cursor with state := .closed })).2) := by
  have updated : update (fun cursor => { cursor with state := .opened }) (state, cursor) =
      (.ok (), (state, { cursor with state := .opened })) := rfl
  rw [next, Action.bind_apply, Action.get_apply]
  dsimp only
  rw [isOpen]
  show (_ >>= _ : Action _ _) _ = _
  rw [Action.bind_apply, updated]
  dsimp only
  rw [Action.bind_apply, Action.attempt]
  rcases fetch source (state, { cursor with state := .opened }) with ⟨e | _ | value, state, cursor⟩ <;>
    rfl

theorem next_of_ended (ended : cursor.isOpen = false) :
    next source (state, cursor) = (.ok none, (state, cursor)) := by
  rw [next, Action.bind_apply, Action.get_apply]
  dsimp only
  rw [ended]
  rfl

theorem close_apply : close source (state, cursor) =
    release source (state,
      { cursor with state := if cursor.state = .consumed then .consumed else .closed }) :=
  rfl

end

/-! ## What a cursor asks for -/

section

variable (source : DataSource τ) {rows : RowsId} {statement : StatementId} {bounds : RowBounds}

theorem fetches_skipRows (count : Nat) (traced : Traced τ) :
    ∃ fetched ≤ count,
      Fetches rows fetched traced (skipRows (Traced.around source) rows count traced).2 ∧
        ((skipRows (Traced.around source) rows count traced).1 = .ok true → fetched = count) := by
  induction count generalizing traced with
  | zero => exact ⟨0, Nat.le_refl _, .refl _ _, fun _ => rfl⟩
  | succ count ih =>
      have first := Traced.fetches_nextRow source rows traced
      rw [skipRows, Action.bind_apply]
      rcases went : (Traced.around source).nextRow rows traced with ⟨e | _ | row, after⟩ <;>
        rw [went] at first
      · exact ⟨1, Nat.le_add_left _ _, first, fun done => by cases done⟩
      · exact ⟨1, Nat.le_add_left _ _, first, fun done => by cases done⟩
      · obtain ⟨fetched, few, rest, all⟩ := ih after
        exact ⟨1 + fetched, by omega, first.trans rest, fun done => by rw [all done, Nat.add_comm]⟩

theorem fetches_fetch {cursor : Cursor} (held : cursor.rows = some rows) (traced : Traced τ) :
    ∃ fetched after,
      (fetch (Traced.around source) (traced, cursor)).2 = (after, { cursor with skipped := true }) ∧
        Fetches rows fetched traced after ∧
        fetched ≤ cursor.toSkip + (if cursor.bounds.limit ≤ cursor.yielded then 0 else 1) ∧
        ∀ value, (fetch (Traced.around source) (traced, cursor)).1 = .ok (some value) →
          fetched = cursor.toSkip + 1 ∧ cursor.yielded < cursor.bounds.limit := by
  obtain ⟨skipped, few, passed, all⟩ := fetches_skipRows source cursor.toSkip traced
  rw [fetch_apply _ _ _ held]
  rcases went : skipRows (Traced.around source) rows cursor.toSkip traced with ⟨e | _ | _, after⟩ <;>
    rw [went] at passed all
  · exact ⟨skipped, after, rfl, passed, by omega, nofun⟩
  · exact ⟨skipped, after, rfl, passed, by omega, nofun⟩
  · dsimp only
    by_cases ended : cursor.bounds.limit ≤ cursor.yielded
    · rw [if_pos ended, if_pos ended]
      exact ⟨skipped, after, rfl, passed, by omega, nofun⟩
    · rw [if_neg ended, if_neg ended]
      have one := Traced.fetches_nextRow source rows after
      have whole : skipped + 1 = cursor.toSkip + 1 := congrArg (· + 1) (all rfl)
      rcases went : (Traced.around source).nextRow rows after with ⟨e | _ | row, last⟩ <;>
        rw [went] at one
      · exact ⟨skipped + 1, last, rfl, passed.trans one, Nat.le_of_eq whole, nofun⟩
      · exact ⟨skipped + 1, last, rfl, passed.trans one, Nat.le_of_eq whole, nofun⟩
      · exact ⟨skipped + 1, last, rfl, passed.trans one, Nat.le_of_eq whole,
          fun _ _ => ⟨whole, Nat.lt_of_not_le ended⟩⟩

theorem count_release (kind : Operation → Bool) (traced : Traced τ) (cursor : Cursor) :
    (release (Traced.around source) (traced, cursor)).2.1.count kind = traced.count kind +
      (cursor.rows.elim 0 fun rows => (kind (.closeRows rows)).toNat) +
      (cursor.statement.elim 0 fun st => (kind (.closeStatement st)).toNat) := by
  have rows : (finishIfAny (Traced.around source).finishRows cursor.rows traced).2.count kind =
      traced.count kind + (cursor.rows.elim 0 fun rows => (kind (.closeRows rows)).toNat) := by
    cases cursor.rows with
    | none => rfl
    | some rows => exact Traced.count_finishRows source kind rows traced
  rw [release_after, ← rows]
  cases cursor.statement with
  | none => rfl
  | some st => exact Traced.count_finishStatement source kind st _

/-! ## Open cursors, and those that have ended -/

variable (rows statement bounds)

structure Running (state : Traced τ × Cursor) : Prop where
  isOpen : state.2.isOpen = true
  ownRows : state.2.rows = some rows
  ownStatement : state.2.statement = some statement
  sameBounds : state.2.bounds = bounds
  fetched : state.1.count (Operation.isNextRow rows) + state.2.toSkip =
    bounds.offset + state.2.yielded
  within : state.2.yielded ≤ bounds.limit
  rowsHeld : state.1.count (Operation.isCloseRows rows) = 0
  statementHeld : state.1.count (Operation.isCloseStatement statement) = 0

structure Ended (state : Traced τ × Cursor) : Prop where
  isOpen : state.2.isOpen = false
  ownRows : state.2.rows = none
  ownStatement : state.2.statement = none
  fetched : state.1.count (Operation.isNextRow rows) ≤ bounds.offset + bounds.limit
  rowsClosed : state.1.count (Operation.isCloseRows rows) = 1
  statementClosed : state.1.count (Operation.isCloseStatement statement) = 1

variable {rows statement bounds} {state : Traced τ × Cursor}

theorem Running.fetched_le (running : Running rows statement bounds state) :
    state.1.count (Operation.isNextRow rows) ≤ bounds.offset + bounds.limit := by
  have fetched := running.fetched
  have within := running.within
  omega

theorem ended_release {traced : Traced τ} {cursor : Cursor} (ended : cursor.isOpen = false)
    (ownRows : cursor.rows = some rows) (ownStatement : cursor.statement = some statement)
    (fetched : traced.count (Operation.isNextRow rows) ≤ bounds.offset + bounds.limit)
    (rowsHeld : traced.count (Operation.isCloseRows rows) = 0)
    (statementHeld : traced.count (Operation.isCloseStatement statement) = 0) :
    Ended rows statement bounds (release (Traced.around source) (traced, cursor)).2 where
  isOpen := by rw [release_after]; exact ended
  ownRows := by rw [release_after]
  ownStatement := by rw [release_after]
  fetched := by
    rw [count_release, ownRows, ownStatement]
    exact fetched
  rowsClosed := by
    rw [count_release, ownRows, ownStatement, rowsHeld]
    simp [Operation.isCloseRows]
  statementClosed := by
    rw [count_release, ownRows, ownStatement, statementHeld]
    simp [Operation.isCloseStatement]

theorem release_of_ended (ended : Ended rows statement bounds state) :
    (release (Traced.around source) state).2 = state := by
  obtain ⟨traced, cursor⟩ := state
  rw [release_after, ended.ownRows, ended.ownStatement]
  obtain ⟨rows, statement, mapper, bounds, stage, skipped, yielded⟩ := cursor
  cases ended.ownRows
  cases ended.ownStatement
  rfl

theorem Running.next (running : Running rows statement bounds state) :
    (∃ value after, next (Traced.around source) state = (.ok (some value), after) ∧
      Running rows statement bounds after ∧ after.2.yielded = state.2.yielded + 1 ∧
        after.2.skipped = true) ∨
    ∃ result after, next (Traced.around source) state = (result, after) ∧
      (∀ value, result ≠ .ok (some value)) ∧ Ended rows statement bounds after := by
  obtain ⟨traced, cursor⟩ := state
  have held : { cursor with state := .opened : Cursor }.rows = some rows := running.ownRows
  obtain ⟨fetched, after, left, fetches, few, exactly⟩ := fetches_fetch source held traced
  have before : traced.count (Operation.isNextRow rows) + cursor.toSkip =
    bounds.offset + cursor.yielded := running.fetched
  have within : cursor.yielded ≤ bounds.limit := running.within
  have same : cursor.bounds = bounds := running.sameBounds
  have asked : after.count (Operation.isNextRow rows) =
      traced.count (Operation.isNextRow rows) + fetched := by
    simpa [Operation.isNextRow] using fetches (Operation.isNextRow rows)
  have rowsHeld : after.count (Operation.isCloseRows rows) = 0 := by
    rw [fetches]
    exact running.rowsHeld
  have statementHeld : after.count (Operation.isCloseStatement statement) = 0 := by
    rw [fetches]
    exact running.statementHeld
  -- a row is asked for only below the limit, and those to skip only once
  have bounded : after.count (Operation.isNextRow rows) ≤ bounds.offset + bounds.limit := by
    change fetched ≤ cursor.toSkip + ite (cursor.bounds.limit ≤ cursor.yielded) 0 1 at few
    rw [same] at few
    split at few <;> omega
  rw [next_apply _ _ _ running.isOpen]
  rcases went : fetch (Traced.around source) (traced, { cursor with state := .opened }) with
    ⟨e | _ | value, reached⟩ <;> rw [went] at left exactly <;> obtain rfl : reached = _ := left
  · exact .inr ⟨_, _, rfl, nofun, ended_release source rfl running.ownRows running.ownStatement bounded
      rowsHeld statementHeld⟩
  · exact .inr ⟨_, _, rfl, nofun, ended_release source rfl running.ownRows running.ownStatement bounded
      rowsHeld statementHeld⟩
  · obtain ⟨all, less⟩ := exactly value rfl
    change fetched = cursor.toSkip + 1 at all
    change cursor.yielded < cursor.bounds.limit at less
    rw [same] at less
    have counted : after.count (Operation.isNextRow rows) + 0 =
        bounds.offset + (cursor.yielded + 1) := by omega
    exact .inl ⟨value, _, rfl, ⟨rfl, running.ownRows, running.ownStatement, same, counted, less,
      rowsHeld, statementHeld⟩, rfl, rfl⟩

theorem Running.close (running : Running rows statement bounds state) :
    Ended rows statement bounds (close (Traced.around source) state).2 := by
  obtain ⟨traced, cursor⟩ := state
  refine ended_release source ?_ running.ownRows running.ownStatement running.fetched_le running.rowsHeld
    running.statementHeld
  by_cases consumed : cursor.state = .consumed <;> simp [Cursor.isOpen, consumed]

theorem Ended.close (ended : Ended rows statement bounds state) :
    Ended rows statement bounds (close (Traced.around source) state).2 := by
  obtain ⟨traced, cursor⟩ := state
  have closed : Ended rows statement bounds (traced,
      { cursor with state := if cursor.state = .consumed then .consumed else .closed }) := by
    refine ⟨?_, ended.ownRows, ended.ownStatement, ended.fetched, ended.rowsClosed,
      ended.statementClosed⟩
    by_cases consumed : cursor.state = .consumed <;> simp [Cursor.isOpen, consumed]
  rw [close_apply, release_of_ended source closed]
  exact closed

theorem Ended.next (ended : Ended rows statement bounds state) :
    next (Traced.around source) state = (.ok none, state) :=
  next_of_ended _ _ _ ended.isOpen

/-! ## Reading and closing in any order -/

inductive Move
  | next
  | close
  deriving DecidableEq

def Move.act (source : DataSource σ) : Move → σ × Cursor → σ × Cursor
  | next, state => (Cursor.next source state).2
  | close, state => (Cursor.close source state).2

def play (source : DataSource σ) (moves : List Move) (state : σ × Cursor) : σ × Cursor :=
  moves.foldl (fun state move => move.act source state) state

theorem act_kept (move : Move)
    (kept : Running rows statement bounds state ∨ Ended rows statement bounds state) :
    Running rows statement bounds (move.act (Traced.around source) state) ∨
      Ended rows statement bounds (move.act (Traced.around source) state) := by
  cases move with
  | next =>
      show Running _ _ _ (next _ state).2 ∨ Ended _ _ _ (next _ state).2
      rcases kept with running | ended
      · rcases running.next source with ⟨_, _, went, still, -⟩ | ⟨_, _, went, -, ended⟩ <;> rw [went]
        · exact .inl still
        · exact .inr ended
      · rw [ended.next]
        exact .inr ended
  | close =>
      rcases kept with running | ended
      · exact .inr (running.close source)
      · exact .inr (ended.close source)

theorem play_kept (moves : List Move)
    (kept : Running rows statement bounds state ∨ Ended rows statement bounds state) :
    Running rows statement bounds (play (Traced.around source) moves state) ∨
      Ended rows statement bounds (play (Traced.around source) moves state) := by
  induction moves generalizing state with
  | nil => exact kept
  | cons move rest ih => exact ih (act_kept source move kept)

theorem fetched_close : (close (Traced.around source) state).2.1.count (Operation.isNextRow rows) =
    state.1.count (Operation.isNextRow rows) := by
  obtain ⟨traced, cursor⟩ := state
  rw [close_apply, count_release]
  have nothing : ∀ own : Option RowsId, (own.elim 0 fun id =>
      (Operation.isNextRow rows (.closeRows id)).toNat) = 0 := by rintro (_ | _) <;> rfl
  have neither : ∀ own : Option StatementId, (own.elim 0 fun id =>
      (Operation.isNextRow rows (.closeStatement id)).toNat) = 0 := by rintro (_ | _) <;> rfl
  rw [nothing, neither]
  rfl

theorem fetched_play {moves : List Move} (unread : .next ∉ moves) :
    (play (Traced.around source) moves state).1.count (Operation.isNextRow rows) =
      state.1.count (Operation.isNextRow rows) := by
  induction moves generalizing state with
  | nil => rfl
  | cons move rest ih =>
      rw [List.mem_cons, not_or] at unread
      cases move with
      | next => exact absurd rfl unread.1
      | close => exact (ih unread.2).trans (fetched_close source)

/-- Rows handed out one after the other. -/
inductive Yields (source : DataSource σ) : σ × Cursor → List Value → σ × Cursor → Prop
  | nil {state : σ × Cursor} : Yields source state [] state
  | cons {state between after : σ × Cursor} {value : Value} {values : List Value}
      (first : next source state = (.ok (some value), between))
      (rest : Yields source between values after) : Yields source state (value :: values) after

/-- Rows gathered until there are no more, or up to the first failure. -/
inductive Collects (source : DataSource σ) :
    σ × Cursor → Except Error (List Value) → σ × Cursor → Prop
  | done {state after : σ × Cursor} (ended : next source state = (.ok none, after)) :
      Collects source state (.ok []) after
  | failed {state after : σ × Cursor} {e : Error} (ended : next source state = (.error e, after)) :
      Collects source state (.error e) after
  | more {state between after : σ × Cursor} {value : Value} {result : Except Error (List Value)}
      (first : next source state = (.ok (some value), between))
      (rest : Collects source between result after) :
      Collects source state (result.map (value :: ·)) after

theorem Collects.unique {source : DataSource σ} {state after after' : σ × Cursor}
    {result result' : Except Error (List Value)} (one : Collects source state result after)
    (other : Collects source state result' after') : result = result' ∧ after = after' := by
  induction one generalizing result' after' with
  | done ended =>
      cases other with
      | done ended' => exact ⟨rfl, congrArg Prod.snd (ended.symm.trans ended')⟩
      | failed ended' => cases ended.symm.trans ended'
      | more first' _ => cases ended.symm.trans first'
  | failed ended =>
      cases other with
      | done ended' => cases ended.symm.trans ended'
      | failed ended' =>
          obtain ⟨same, rfl⟩ := Prod.mk.inj (ended.symm.trans ended')
          exact ⟨congrArg Except.error (Except.error.inj same), rfl⟩
      | more first' _ => cases ended.symm.trans first'
  | more first _ ih =>
      cases other with
      | done ended' => cases first.symm.trans ended'
      | failed ended' => cases first.symm.trans ended'
      | more first' rest' =>
          cases first.symm.trans first'
          obtain ⟨rfl, rfl⟩ := ih rest'
          exact ⟨rfl, rfl⟩

theorem Running.yields {values : List Value} {after : Traced τ × Cursor}
    (running : Running rows statement bounds state)
    (yields : Yields (Traced.around source) state values after) :
    Running rows statement bounds after ∧
      after.2.yielded = state.2.yielded + values.length ∧
        (values ≠ [] → after.2.skipped = true) := by
  induction yields with
  | nil => exact ⟨running, rfl, fun some => absurd rfl some⟩
  | @cons state between after value values first rest ih =>
      rcases running.next source with ⟨_, _, went, still, yielded, skipped⟩ | ⟨_, _, went, none, -⟩
      · cases first.symm.trans went
        obtain ⟨running, handed, passed⟩ := ih still
        refine ⟨running, by rw [handed, yielded, List.length_cons]; omega, fun _ => ?_⟩
        cases values with
        | nil => cases rest; exact skipped
        | cons => exact passed (List.cons_ne_nil _ _)
      · rw [first] at went
        exact absurd (congrArg Prod.fst went).symm (none value)

end

/-! ## A row source that serves its rows -/

end Cursor

/-- A row source hands out what remains of its rows, one at a time. -/
def DataSource.Serves {σ : Type} (source : DataSource σ) (rows : RowsId)
    (remaining : σ → List Row) : Prop :=
  ∀ state, ∃ after, source.nextRow rows state = (.ok (remaining state).head?, after) ∧
    remaining after = (remaining state).tail

theorem DataSource.Serves.around {τ : Type} {source : DataSource τ} {rows : RowsId}
    {remaining : τ → List Row} (serves : source.Serves rows remaining) :
    (Traced.around source).Serves rows fun traced => remaining traced.inner := by
  intro traced
  obtain ⟨after, went, left⟩ := serves traced.inner
  have asked : (Traced.around source).nextRow rows traced =
      ((source.nextRow rows traced.inner).1, _) := rfl
  rw [asked, went]
  exact ⟨_, rfl, by rw [← left]; exact congrArg remaining (congrArg Prod.snd went)⟩

namespace Recording

def unread (rows : RowsId) (recording : Recording) : List Row :=
  if (recording.rowSource rows).closed then []
  else (recording.rowSource rows).rows.map (Row.mk (recording.rowSource rows).columns)

theorem serves (rows : RowsId) : source.Serves rows (unread rows) := by
  intro recording
  show ∃ after, nextRow rows recording = _ ∧ _
  rw [nextRow, Action.bind_apply, Action.read]
  dsimp only
  cases closed : (recording.rowSource rows).closed with
  | true => exact ⟨recording, by simp [unread, closed]; rfl, by simp [unread, closed]⟩
  | false =>
      cases held : (recording.rowSource rows).rows with
      | nil => exact ⟨recording, by simp [unread, held]; rfl, by simp [unread, held]⟩
      | cons values rest =>
          refine ⟨_, by simp [unread, closed, held]; rfl, ?_⟩
          cases found : recording.rowSources[rows]? with
          | none => simp [rowSource, found] at closed
          | some own =>
              simp only [rowSource, found, Option.getD_some] at closed held
              simp [unread, rowSource, found, closed, held]

end Recording

namespace Cursor

section

variable {source : DataSource σ} {rows : RowsId} {remaining : σ → List Row} {cursor : Cursor}
  {state : σ} (serves : source.Serves rows remaining)

def advanced (cursor : Cursor) : Cursor :=
  { cursor with state := .opened, skipped := true, yielded := cursor.yielded + 1 }

def ahead (cursor : Cursor) (remaining : List Row) : List Row :=
  (remaining.drop cursor.toSkip).take (cursor.bounds.limit - cursor.yielded)

theorem ahead_eq_cons {all rest : List Row} {row : Row} (next : cursor.ahead all = row :: rest) :
    cursor.yielded < cursor.bounds.limit ∧
      all.drop cursor.toSkip = row :: all.drop (cursor.toSkip + 1) ∧
        rest = (all.drop (cursor.toSkip + 1)).take (cursor.bounds.limit - (cursor.yielded + 1)) := by
  unfold ahead at next
  cases behind : all.drop cursor.toSkip with
  | nil => simp [behind] at next
  | cons first others =>
      obtain ⟨some, less⟩ : ∃ n, cursor.bounds.limit - cursor.yielded = n + 1 := by
        refine Nat.exists_eq_succ_of_ne_zero fun none => ?_
        rw [none] at next
        cases next
      rw [behind, less, List.take_succ_cons] at next
      obtain ⟨rfl, rfl⟩ := List.cons.inj next
      have tail : all.drop (cursor.toSkip + 1) = others := by
        rw [← List.tail_drop, behind, List.tail_cons]
      have fewer : cursor.bounds.limit - (cursor.yielded + 1) = some := by omega
      exact ⟨by omega, by rw [tail], by rw [tail, fewer]⟩

theorem ahead_eq_nil {all : List Row} (none : cursor.ahead all = []) :
    cursor.bounds.limit ≤ cursor.yielded ∨ all.drop cursor.toSkip = [] := by
  rcases List.take_eq_nil_iff.1 none with ended | behind
  · exact .inl (Nat.le_of_sub_eq_zero ended)
  · exact .inr behind

theorem ahead_advanced {all rest : List Row} {row : Row}
    (coming : cursor.ahead all = row :: rest) :
    cursor.advanced.ahead (all.drop (cursor.toSkip + 1)) = rest :=
  (ahead_eq_cons coming).2.2.symm

include serves

theorem skipRows_of_serves (count : Nat) (state : σ) :
    ∃ after, skipRows source rows count state =
        (.ok (decide (count ≤ (remaining state).length)), after) ∧
      remaining after = (remaining state).drop count := by
  induction count generalizing state with
  | zero => exact ⟨state, rfl, rfl⟩
  | succ count ih =>
      obtain ⟨next, went, left⟩ := serves state
      rw [skipRows, Action.bind_apply, went]
      cases held : remaining state with
      | nil => exact ⟨next, rfl, by rw [left, held]; rfl⟩
      | cons row rest =>
          obtain ⟨after, passed, dropped⟩ := ih next
          rw [held, List.tail_cons] at left
          rw [left] at passed dropped
          refine ⟨after, passed.trans ?_, dropped⟩
          simp

theorem fetch_of_serves (held : cursor.rows = some rows) (state : σ) :
    ∃ left, (fetch source (state, cursor)).2 = (left, { cursor with skipped := true }) ∧
      match cursor.ahead (remaining state) with
      | [] => (fetch source (state, cursor)).1 = .ok none
      | row :: _ => (fetch source (state, cursor)).1 = (cursor.mapper.mapRow row).map some ∧
          remaining left = (remaining state).drop (cursor.toSkip + 1) := by
  obtain ⟨passed, skipped, dropped⟩ := skipRows_of_serves serves cursor.toSkip state
  obtain ⟨last, went, left⟩ := serves passed
  rw [dropped] at went left
  rw [fetch_apply _ _ _ held, skipped]
  cases next : cursor.ahead (remaining state) with
  | nil =>
      by_cases all : cursor.toSkip ≤ (remaining state).length
      · rw [decide_eq_true all]
        dsimp only
        rcases ahead_eq_nil next with ended | behind
        · rw [if_pos ended]
          exact ⟨_, rfl, rfl⟩
        · rw [went, behind]
          split <;> exact ⟨_, rfl, rfl⟩
      · rw [decide_eq_false all]
        exact ⟨_, rfl, rfl⟩
  | cons row rest =>
      obtain ⟨less, behind, -⟩ := ahead_eq_cons next
      have all : cursor.toSkip ≤ (remaining state).length := by
        by_contra beyond
        rw [List.drop_of_length_le (Nat.le_of_not_le beyond)] at behind
        cases behind
      rw [decide_eq_true all]
      dsimp only
      rw [if_neg (Nat.not_le_of_lt less), went, behind]
      exact ⟨last, rfl, rfl, by rw [left, behind, List.tail_cons]⟩

theorem next_of_ahead_nil (isOpen : cursor.isOpen = true) (held : cursor.rows = some rows)
    (last : cursor.ahead (remaining state) = []) :
    ∃ after, next source (state, cursor) = (.ok none, after) := by
  have own : { cursor with state := .opened : Cursor }.rows = some rows := held
  obtain ⟨left, -, fetched⟩ := fetch_of_serves serves own state
  have same : { cursor with state := .opened : Cursor }.ahead (remaining state) = [] := last
  rw [same] at fetched
  rw [next_apply _ _ _ isOpen]
  rcases went : fetch source (state, { cursor with state := .opened }) with ⟨result, reached⟩
  rw [went] at fetched
  obtain rfl : result = .ok none := fetched
  exact ⟨_, rfl⟩

theorem next_of_ahead_cons (isOpen : cursor.isOpen = true) (held : cursor.rows = some rows)
    {row : Row} {rest : List Row} (coming : cursor.ahead (remaining state) = row :: rest) :
    (∀ e, cursor.mapper.mapRow row = .error e →
        ∃ after, next source (state, cursor) = (.error e, after)) ∧
      ∀ value, cursor.mapper.mapRow row = .ok value → ∃ left,
        next source (state, cursor) = (.ok (some value), left, cursor.advanced) ∧
        remaining left = (remaining state).drop (cursor.toSkip + 1) := by
  have own : { cursor with state := .opened : Cursor }.rows = some rows := held
  obtain ⟨left, moved, fetched⟩ := fetch_of_serves serves own state
  have same : { cursor with state := .opened : Cursor }.ahead (remaining state) = row :: rest :=
    coming
  rw [same] at fetched
  obtain ⟨fetched, behind⟩ := fetched
  rw [next_apply _ _ _ isOpen]
  rcases went : fetch source (state, { cursor with state := .opened }) with ⟨result, reached⟩
  rw [went] at moved fetched
  obtain rfl : reached = _ := moved
  obtain rfl : result = (cursor.mapper.mapRow row).map some := fetched
  constructor
  · intro e failed
    rw [failed]
    exact ⟨_, rfl⟩
  · intro value mapped
    rw [mapped]
    exact ⟨left, rfl, behind⟩

theorem collects_of_serves (isOpen : cursor.isOpen = true) (held : cursor.rows = some rows)
    (state : σ) : ∃ after, Collects source (state, cursor)
      ((cursor.ahead (remaining state)).mapM cursor.mapper.mapRow) after := by
  -- on the rows that are ahead, each of which takes the cursor one row further
  generalize coming : cursor.ahead (remaining state) = rowsAhead
  induction rowsAhead generalizing cursor state with
  | nil =>
      obtain ⟨after, ended⟩ := next_of_ahead_nil serves isOpen held coming
      exact ⟨after, .done ended⟩
  | cons row rest ih =>
      obtain ⟨failing, mapping⟩ := next_of_ahead_cons serves isOpen held coming
      rw [List.mapM_cons]
      cases mapped : cursor.mapper.mapRow row with
      | error e =>
          obtain ⟨after, failed⟩ := failing e mapped
          exact ⟨after, .failed failed⟩
      | ok value =>
          obtain ⟨left, first, behind⟩ := mapping value mapped
          have own : cursor.advanced.rows = some rows := held
          have further : cursor.advanced.ahead (remaining left) = rest := by
            rw [behind, ahead_advanced coming]
          obtain ⟨after, collected⟩ := ih rfl own left further
          exact ⟨after, .more first collected⟩

theorem exists_of_next_eq_some (isOpen : cursor.isOpen = true) (held : cursor.rows = some rows)
    {value : Value} {after : σ × Cursor}
    (went : next source (state, cursor) = (.ok (some value), after)) :
    ∃ left, after = (left, cursor.advanced) ∧ cursor.toSkip < (remaining state).length ∧
      remaining left = (remaining state).drop (cursor.toSkip + 1) := by
  cases coming : cursor.ahead (remaining state) with
  | nil =>
      obtain ⟨_, ended⟩ := next_of_ahead_nil serves isOpen held coming
      cases ended.symm.trans went
  | cons row rest =>
      obtain ⟨failing, mapping⟩ := next_of_ahead_cons serves isOpen held coming
      cases mapped : cursor.mapper.mapRow row with
      | error e =>
          obtain ⟨_, failed⟩ := failing e mapped
          cases failed.symm.trans went
      | ok value =>
          obtain ⟨left, first, behind⟩ := mapping value mapped
          refine ⟨left, congrArg Prod.snd (went.symm.trans first), ?_, behind⟩
          by_contra beyond
          have short := (ahead_eq_cons coming).2.1
          rw [List.drop_of_length_le (Nat.le_of_not_lt beyond)] at short
          cases short

theorem remaining_of_yields {start after : σ × Cursor} {values : List Value}
    (yields : Yields source start values after) (isOpen : start.2.isOpen = true)
    (held : start.2.rows = some rows) (some : values ≠ []) :
    start.2.toSkip + values.length ≤ (remaining start.1).length ∧
      remaining after.1 = (remaining start.1).drop (start.2.toSkip + values.length) := by
  induction yields with
  | nil => exact absurd rfl some
  | @cons start between after value values first rest ih =>
      obtain ⟨state, cursor⟩ := start
      obtain ⟨left, rfl, inside, behind⟩ := exists_of_next_eq_some serves isOpen held first
      cases values with
      | nil =>
          cases rest
          exact ⟨inside, behind⟩
      | cons next values =>
          have own : cursor.advanced.rows = .some rows := held
          obtain ⟨enough, last⟩ := ih rfl own (List.cons_ne_nil _ _)
          have nothing : cursor.advanced.toSkip = 0 := rfl
          simp only [nothing, behind, List.length_drop, List.drop_drop] at enough last
          simp only [List.length_cons] at enough last ⊢
          refine ⟨by omega, last.trans (congrArg (List.drop · _) (by omega))⟩

end

/-! ## Paging -/

section

variable (source : DataSource τ) (start : τ) (rows : RowsId) (statement : StatementId)
  (mapper : RowMapper) (bounds : RowBounds)

/-- A new cursor over a row source that is to be traced, with the statement behind it. -/
def traced : Traced τ × Cursor :=
  (attachStatement (Traced.around source) statement
    ({ inner := start }, { rows := some rows, mapper := mapper, bounds := bounds })).2

theorem running_traced :
    Running rows statement bounds (traced source start rows statement mapper bounds) where
  isOpen := rfl
  ownRows := rfl
  ownStatement := rfl
  sameBounds := rfl
  fetched := Nat.zero_add _
  within := Nat.zero_le _
  rowsHeld := rfl
  statementHeld := rfl

/-- Collecting what a cursor hands out comes to what mapping the whole result comes to, the values or
the failure. So many rows handed out, as many were fetched behind those passed over, and these are
gone from the row source. Whatever the source answers and in whatever order the cursor is read and
closed, no row is fetched before it is asked for one, none beyond the limit, and row source and
statement are closed once by the time the cursor is dropped. -/
theorem paging :
    (∀ remaining results, source.Serves rows remaining → remaining start = results.rows →
      (∀ result, (∃ after, Collects (Traced.around source)
          (traced source start rows statement mapper bounds) result after) ↔
            result = ResultSet.mapRows results mapper bounds) ∧
        ∀ values after, Yields (Traced.around source)
            (traced source start rows statement mapper bounds) values after → values ≠ [] →
          after.1.count (Operation.isNextRow rows) = bounds.offset + values.length ∧
            bounds.offset + values.length ≤ results.rows.length ∧
            remaining after.1.inner = results.rows.drop (bounds.offset + values.length)) ∧
      ∀ moves,
        let after := play (Traced.around source) moves
          (traced source start rows statement mapper bounds)
        let dropped := drop (Traced.around source) after.2 after.1
        (.next ∉ moves → after.1.count (Operation.isNextRow rows) = 0) ∧
          dropped.count (Operation.isNextRow rows) ≤ bounds.offset + bounds.limit ∧
          dropped.count (Operation.isCloseRows rows) = 1 ∧
          dropped.count (Operation.isCloseStatement statement) = 1 := by
  have running := running_traced source start rows statement mapper bounds
  refine ⟨fun remaining results serves held => ⟨fun result => ?_, fun values after yields some => ?_⟩,
    fun moves => ⟨fun unread => ?_, ?_⟩⟩
  · obtain ⟨_, collected⟩ := collects_of_serves serves.around running.isOpen running.ownRows
      { inner := start }
    have lazily : (results.rows.drop bounds.offset).take bounds.limit = bounds.select results.rows :=
      rfl
    change Collects _ (traced source start rows statement mapper bounds)
      (((remaining start).drop bounds.offset).take bounds.limit |>.mapM mapper.mapRow) _ at collected
    rw [held, lazily] at collected
    constructor
    · rintro ⟨_, other⟩
      exact (other.unique collected).1
    · rintro rfl
      exact ⟨_, collected⟩
  · obtain ⟨running, yielded, skipped⟩ := running.yields source yields
    have passed : after.2.toSkip = 0 := if_pos (skipped some)
    have fetched := running.fetched
    rw [passed, yielded] at fetched
    have left := remaining_of_yields serves.around yields rfl rfl some
    rw [← held]
    exact ⟨fetched.trans (congrArg (bounds.offset + ·) (Nat.zero_add _)), left⟩
  · exact fetched_play source unread
  · -- dropping closes; whatever was played leaves the cursor running or ended
    have ended : Ended rows statement bounds (close (Traced.around source)
        (play (Traced.around source) moves (traced source start rows statement mapper bounds))).2 := by
      rcases play_kept source moves (.inl running) with running | ended
      · exact running.close source
      · exact ended.close source
    exact ⟨ended.fetched, ended.rowsClosed, ended.statementClosed⟩

def numbered : Recording :=
  { rowSources := [{ columns := ["n"], rows := [[.int 1], [.int 2], [.int 3], [.int 4]] }] }

theorem paging_numbered :
    let lazy := Traced.around Recording.source
    let first := traced Recording.source numbered 0 0 .scalar ⟨1, 2⟩
    let closed := play lazy [.next, .close, .next] first
    (∃ after, Collects lazy first (.ok [.int 2, .int 3]) after) ∧
      (next lazy first).2.1.count (Operation.isNextRow 0) = 2 ∧
      (drop lazy closed.2 closed.1).count (Operation.isCloseStatement 0) = 1 := by
  obtain ⟨served, played⟩ := paging Recording.source numbered 0 0 .scalar ⟨1, 2⟩
  obtain ⟨collected, yielded⟩ := served (Recording.unread 0)
    { rows := [[.int 1], [.int 2], [.int 3], [.int 4]].map (Row.mk ["n"]) } (Recording.serves 0) rfl
  have one := yielded [.int 2] _ (.cons rfl .nil) (List.cons_ne_nil _ _)
  exact ⟨(collected _).2 rfl, one.1, (played [.next, .close, .next]).2.2.2⟩

end

end Cursor

end MappedSql
