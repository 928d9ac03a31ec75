import MappedSql.Proofs.Execution.Endings
import MappedSql.Session

namespace MappedSql

variable {σ S τ α β : Type}

structure Cursor.Follows (picture : Picture σ) (before after : σ × Cursor) : Prop where
  keeps : picture.Keeps (before.2.statement = some ·) before.1 after.1
  statement : ∀ st, after.2.statement = some st → before.2.statement = some st

variable {picture : Picture σ}

theorem Cursor.Follows.refl (state : σ × Cursor) : Follows picture state state :=
  ⟨.refl _ _, fun _ => id⟩

theorem Cursor.Follows.trans {first second third : σ × Cursor} (left : Follows picture first second)
    (right : Follows picture second third) : Follows picture first third :=
  ⟨left.keeps.trans (right.keeps.mono left.statement),
    fun st own => left.statement st (right.statement st own)⟩

def Action.Reads (picture : Picture σ) (view : S → σ × Cursor) (act : Action S α) : Prop :=
  ∀ state, Cursor.Follows picture (view state) (view (act state).2)

namespace Action.Reads

variable {view : S → σ × Cursor}

theorem bind {act : Action S α} {next : α → Action S β} (first : Reads picture view act)
    (second : ∀ a, Reads picture view (next a)) : Reads picture view (act >>= next) :=
  Action.related_bind (fun before after => Cursor.Follows picture (view before) (view after))
    Cursor.Follows.trans first second

theorem pure (a : α) : Reads picture view (Pure.pure a : Action S α) :=
  fun _ => .refl _

theorem throw (e : Error) : Reads picture view (MonadExcept.throw e : Action S α) :=
  fun _ => .refl _

theorem ofResult (result : Except Error α) : Reads picture view (liftM result : Action S α) :=
  fun _ => .refl _

theorem get : Reads picture view (MonadState.get : Action S S) :=
  fun _ => .refl _

theorem attempt {act : Action S α} (reads : Reads picture view act) :
    Reads picture view act.attempt :=
  reads

theorem quietly {act : Action S α} (reads : Reads picture view act) :
    Reads picture view act.quietly :=
  reads

theorem onFirst {act : Action S α} (reads : Reads picture view act) :
    Reads picture (fun state : S × τ => view state.1) act.onFirst :=
  fun state => reads state.1

theorem update {change : Cursor → Cursor}
    (same : ∀ cursor, (change cursor).statement = cursor.statement) :
    Reads picture id (Cursor.update change : Action (σ × Cursor) Unit) :=
  fun state => ⟨.refl _ _, fun _ own => (same state.2).symm.trans own⟩

theorem onSource {act : Action σ α}
    (keeps : ∀ state, picture.Keeps (fun _ => False) state (act state).2) :
    Reads picture id (act.onFirst : Action (σ × Cursor) α) :=
  fun state => ⟨(keeps state.1).mono fun _ no => no.elim, fun _ => id⟩

end Action.Reads

namespace Cursor

open MappedSql.Action (Reads)

variable {source : DataSource σ}

theorem release_after (state : σ) (cursor : Cursor) :
    (release source (state, cursor)).2 =
      ((finishIfAny source.finishStatement cursor.statement
        (finishIfAny source.finishRows cursor.rows state).2).2,
        { cursor with rows := none, statement := none }) := by
  have rows : (finishIfAny source.finishRows cursor.rows).attempt.onFirst
      (state, { cursor with rows := none, statement := none }) =
      (.ok (finishIfAny source.finishRows cursor.rows state).1,
        ((finishIfAny source.finishRows cursor.rows state).2,
          { cursor with rows := none, statement := none })) := rfl
  have updated : update (fun cursor => { cursor with rows := none, statement := none })
      (state, cursor) = (.ok (), (state, { cursor with rows := none, statement := none })) := rfl
  have statement (left : σ) : (finishIfAny source.finishStatement cursor.statement).attempt.onFirst
      (left, { cursor with rows := none, statement := none }) =
      (.ok (finishIfAny source.finishStatement cursor.statement left).1,
        ((finishIfAny source.finishStatement cursor.statement left).2,
          { cursor with rows := none, statement := none })) := rfl
  simp only [release, Action.bind_apply, Action.get_apply, updated, rows, statement]
  rcases finishIfAny source.finishRows cursor.rows state with ⟨_ | _, after⟩ <;> rfl

variable (isolates : source.Isolates picture)

include isolates

theorem reads_release : Reads picture id (release source) := by
  rintro ⟨state, cursor⟩
  have rows : picture.Keeps (fun _ => False) state
      (finishIfAny source.finishRows cursor.rows state).2 := by
    cases cursor.rows with
    | none => exact .refl _ _
    | some rows => exact isolates.finishRows rows state
  have statement (left : σ) : picture.Keeps (cursor.statement = some ·) left
      (finishIfAny source.finishStatement cursor.statement left).2 := by
    cases cursor.statement with
    | none => exact .refl _ _
    | some st => exact (isolates.finish st left).mono fun _ same => congrArg some same.symm
  rw [release_after]
  exact ⟨(rows.mono fun _ no => no.elim).trans (statement _), by rintro _ ⟨⟩⟩

theorem reads_close : Reads picture id (close source) :=
  (Reads.update fun _ => by rfl).bind fun _ => reads_release isolates

theorem keeps_skipRows (rows : RowsId) (count : Nat) (state : σ) :
    picture.Keeps (fun _ => False) state (skipRows source rows count state).2 := by
  induction count generalizing state with
  | zero => exact .refl _ _
  | succ count ih =>
      have read := isolates.nextRow state rows
      rw [skipRows, Action.bind_apply]
      rcases went : source.nextRow rows state with ⟨_ | _ | row, after⟩ <;> rw [went] at read
      · exact read
      · exact read
      · exact read.trans (ih after)

theorem reads_skipOffset (rows : RowsId) : Reads picture id (skipOffset source rows) := by
  refine Reads.get.bind fun (_, cursor) => ?_
  dsimp only
  split
  · exact Reads.pure _
  · refine (Reads.update fun _ => by rfl).bind fun _ => ?_
    exact Reads.onSource (keeps_skipRows isolates rows _)

theorem reads_fetch : Reads picture id (fetch source) := by
  refine Reads.get.bind fun (_, cursor) => ?_
  dsimp only
  split
  · exact Reads.pure _
  · refine (reads_skipOffset isolates _).bind fun inside => ?_
    split
    · exact Reads.pure _
    · split
      · exact Reads.pure _
      · refine (Reads.onSource fun state => isolates.nextRow state _).bind fun row => ?_
        cases row with
        | none => exact Reads.pure _
        | some row => exact (Reads.ofResult _).bind fun _ => Reads.pure _

theorem reads_next : Reads picture id (next source) := by
  refine Reads.get.bind fun (_, cursor) => ?_
  dsimp only
  split
  · exact Reads.pure _
  · refine (Reads.update fun _ => by rfl).bind fun _ => ?_
    refine (reads_fetch isolates).attempt.bind fun result => ?_
    rcases result with e | _ | row
    · refine (Reads.update fun _ => by rfl).bind fun _ => ?_
      exact (reads_release isolates).quietly.bind fun _ => Reads.throw e
    · refine (Reads.update fun _ => by rfl).bind fun _ => ?_
      exact (reads_release isolates).quietly.bind fun _ => Reads.pure _
    · exact (Reads.update fun _ => by rfl).bind fun _ => Reads.pure _

end Cursor

namespace Session

open MappedSql.Action (Reads)

variable {source : DataSource σ} (isolates : source.Isolates picture)

include isolates

theorem reads_receiveRows (receive : Nat → Value → Action τ Bool) (number steps : Nat) :
    Reads picture Prod.fst (receiveRows source receive number steps) := by
  induction steps generalizing number with
  | zero => exact Reads.pure _
  | succ steps ih =>
      refine (Cursor.reads_next isolates).onFirst.bind fun row => ?_
      cases row with
      | none => exact Reads.pure _
      | some row =>
          refine Reads.bind (fun state => .refl state.1) fun enough => ?_
          split
          · exact Reads.pure _
          · exact ih (number + 1)

theorem reads_stream (receive : Nat → Value → Action τ Bool) (limit : Nat) :
    Reads picture Prod.fst (stream source receive limit) := by
  refine (reads_receiveRows isolates receive 1 _).attempt.bind fun result => ?_
  cases result with
  | error e => exact (Cursor.reads_close isolates).quietly.onFirst.bind fun _ => Reads.throw e
  | ok => exact (Cursor.reads_close isolates).onFirst

end Session

end MappedSql
