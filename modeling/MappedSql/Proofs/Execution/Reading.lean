import MappedSql.Proofs.Execution.Deeds
import MappedSql.Session

namespace MappedSql

open MappedSql.Action (Accomplishes)

namespace Operation

def closesStatement : Operation → Bool
  | closeStatement _ => true
  | _ => false

def reads : Operation → Bool
  | closeStatement _ | nextRow _ | closeRows _ => true
  | _ => false

end Operation

variable {τ ρ α β : Type}

structure Asking (source : DataSource τ) (kind : Operation → Bool) (before : τ) (deeds : List Deed)
    (after : τ) : Prop where
  kind : Deed.Only kind deeds
  mode : source.KeepsModes → source.isAutocommit after = source.isAutocommit before

namespace Asking

variable {source : DataSource τ} {kind : Operation → Bool}

theorem quiet {before after : τ}
    (mode : source.KeepsModes → source.isAutocommit after = source.isAutocommit before) :
    Asking source kind before [] after :=
  ⟨nofun, mode⟩

theorem composes : Composes (Asking source kind) where
  nil := fun _ => .quiet fun _ => rfl
  append := fun first second =>
    ⟨List.forall_mem_append.2 ⟨first.kind, second.kind⟩,
      fun keeps => (second.mode keeps).trans (first.mode keeps)⟩

theorem ask (kind : Operation → Bool) {operation : Operation} (allowed : kind operation = true)
    (other : operation.isConnect = false) (state : τ) :
    Asking source kind state [.asks operation (source.ask operation state).1.isOk]
      (source.ask operation state).2 where
  kind := by
    rintro deed mem
    exact ⟨operation, _, List.mem_singleton.1 mem, allowed⟩
  mode := fun keeps => keeps.asked operation other state

theorem mono {wider : Operation → Bool} {before after : τ} {deeds : List Deed}
    (within : ∀ operation, kind operation = true → wider operation = true)
    (asking : Asking source kind before deeds after) : Asking source wider before deeds after where
  kind := asking.kind.mono within
  mode := asking.mode

end Asking

def besides {S S' : Type} (put : S → List Event → S') (state : S × ρ) (trace : List Event) : S' × ρ :=
  (put state.1 trace, state.2)

theorem Action.Accomplishes.onFirst {S S' : Type} {put : S → List Event → S'}
    {told : S → List Deed → S → Prop} {act : Chain (Traced τ) → Action S' α}
    (accomplishes : Accomplishes put told act) :
    Accomplishes (besides put) (fun (before : S × ρ) deeds after => told before.1 deeds after.1)
      fun chain => (act chain).onFirst :=
  accomplishes.within Prod.fst (fun state first => (first, state.2)) (fun _ _ => rfl)
    (fun _ _ _ _ => rfl) id

variable (source : DataSource τ)

theorem accomplishes_finishStatement (statement : StatementId) :
    Accomplishes Traced.mk (Asking source Operation.closesStatement)
      fun _ : Chain (Traced τ) => (Traced.around source).finishStatement statement := by
  have closed := Action.accomplishes_ask source (.closeStatement statement)
    (Asking.ask Operation.closesStatement rfl rfl)
  refine closed.attempt.bind Asking.composes fun result => ?_
  refine Accomplishes.bind Asking.composes ?_ fun _ => .ofResult Asking.composes _
  exact .idle (modify (source.dropStatement statement)) (fun _ _ => rfl)
    fun state => .quiet fun keeps => keeps.dropStatement statement state

theorem accomplishes_finishRows (rows : RowsId) :
    Accomplishes Traced.mk (Asking source Operation.reads)
      fun _ : Chain (Traced τ) => (Traced.around source).finishRows rows := by
  have closed := Action.accomplishes_ask source (.closeRows rows)
    (Asking.ask Operation.reads rfl rfl)
  refine closed.attempt.bind Asking.composes fun result => ?_
  refine Accomplishes.bind Asking.composes ?_ fun _ => .ofResult Asking.composes _
  exact .idle (modify (source.dropRows rows)) (fun _ _ => rfl)
    fun state => .quiet fun keeps => keeps.dropRows rows state

namespace Cursor

def Retrieves (before : τ × Cursor) (deeds : List Deed) (after : τ × Cursor) : Prop :=
  Asking source Operation.reads before.1 deeds after.1

theorem composes_retrieves : Composes (Retrieves source) where
  nil := fun _ => Asking.composes.nil _
  append := Asking.composes.append

def ReadsOnly (act : Action (Traced τ × Cursor) α) : Prop :=
  Accomplishes (besides Traced.mk) (Retrieves source) fun _ : Chain (Traced τ) => act

namespace ReadsOnly

variable {source} {act : Action (Traced τ × Cursor) α}

theorem bind {next : α → Action (Traced τ × Cursor) β} (first : ReadsOnly source act)
    (second : ∀ a, ReadsOnly source (next a)) : ReadsOnly source (act >>= next) :=
  Accomplishes.bind (composes_retrieves source) first second

theorem ofResult (result : Except Error α) : ReadsOnly source (Action.ofResult result) :=
  Accomplishes.ofResult (composes_retrieves source) result

theorem pure (a : α) : ReadsOnly source (Pure.pure a) :=
  ofResult (.ok a)

theorem onSource {act : Action (Traced τ) α} (accomplishes : Accomplishes Traced.mk
    (Asking source Operation.reads) fun _ : Chain (Traced τ) => act) :
    ReadsOnly source act.onFirst :=
  accomplishes.onFirst

theorem update (change : Cursor → Cursor) : ReadsOnly source (Cursor.update change) :=
  .idle (Cursor.update change) (fun _ _ => rfl) fun _ => .quiet fun _ => rfl

end ReadsOnly

theorem reading_release : ReadsOnly source (release (Traced.around source)) := by
  refine Accomplishes.get_bind (fun _ _ _ => rfl) fun (_, cursor) => ?_
  refine ReadsOnly.bind (.update _) fun _ => ?_
  have rows : Accomplishes Traced.mk (Asking source Operation.reads) fun _ : Chain (Traced τ) =>
      finishIfAny (Traced.around source).finishRows cursor.rows := by
    cases cursor.rows with
    | none => exact .ofResult Asking.composes (.ok ())
    | some rows => exact accomplishes_finishRows source rows
  have statement : Accomplishes Traced.mk (Asking source Operation.reads) fun _ : Chain (Traced τ) =>
      finishIfAny (Traced.around source).finishStatement cursor.statement := by
    cases cursor.statement with
    | none => exact .ofResult Asking.composes (.ok ())
    | some statement =>
        refine (accomplishes_finishStatement source statement).mono (Asking.mono fun operation is => ?_)
        cases operation <;> first | rfl | cases is
  refine ReadsOnly.bind (.onSource rows.attempt) fun rowsClosed => ?_
  refine ReadsOnly.bind (.onSource statement.attempt) fun statementClosed => ?_
  exact ReadsOnly.bind (.ofResult _) fun _ => .ofResult _

theorem reading_close : ReadsOnly source (close (Traced.around source)) :=
  ReadsOnly.bind (.update _) fun _ => reading_release source

theorem accomplishes_nextRow (rows : RowsId) :
    Accomplishes Traced.mk (Asking source Operation.reads) fun _ : Chain (Traced τ) =>
      (Traced.around source).nextRow rows :=
  Action.accomplishes_ask source (.nextRow rows) (Asking.ask Operation.reads rfl rfl)

theorem accomplishes_skipRows (rows : RowsId) (count : Nat) :
    Accomplishes Traced.mk (Asking source Operation.reads) fun _ : Chain (Traced τ) =>
      skipRows (Traced.around source) rows count := by
  induction count with
  | zero => exact .ofResult Asking.composes (.ok true)
  | succ count ih =>
      refine (accomplishes_nextRow source rows).bind Asking.composes fun
        | some _ => ih
        | none => .ofResult Asking.composes (.ok false)

theorem reading_skipOffset (rows : RowsId) :
    ReadsOnly source (skipOffset (Traced.around source) rows) := by
  refine Accomplishes.get_bind (fun _ _ _ => rfl) fun (_, cursor) => ?_
  dsimp only [besides]
  split
  · exact ReadsOnly.pure true
  · exact ReadsOnly.bind (.update _) fun _ =>
      .onSource (accomplishes_skipRows source rows cursor.bounds.offset)

theorem reading_fetch : ReadsOnly source (fetch (Traced.around source)) := by
  refine Accomplishes.get_bind (fun _ _ _ => rfl) fun (_, cursor) => ?_
  dsimp only [besides]
  split
  · exact ReadsOnly.pure none
  · refine ReadsOnly.bind (reading_skipOffset source _) fun inside => ?_
    split
    · exact ReadsOnly.pure none
    · split
      · exact ReadsOnly.pure none
      · refine ReadsOnly.bind (.onSource (accomplishes_nextRow source _)) fun
          | some row => ?_
          | none => ReadsOnly.pure none
        exact ReadsOnly.bind (.ofResult _) fun value => ReadsOnly.pure (some value)

theorem reading_next : ReadsOnly source (next (Traced.around source)) := by
  have released := (reading_release source).quietly
  refine Accomplishes.get_bind (fun _ _ _ => rfl) fun (_, cursor) => ?_
  dsimp only [besides]
  split
  · exact ReadsOnly.pure none
  · refine ReadsOnly.bind (.update _) fun _ => ?_
    refine ReadsOnly.bind (reading_fetch source).attempt fun
      | .ok (some value) => ?_
      | .ok none => ?_
      | .error e => ?_
    · exact ReadsOnly.bind (.update _) fun _ => ReadsOnly.pure (some value)
    · exact ReadsOnly.bind (.update _) fun _ => ReadsOnly.bind released fun _ => ReadsOnly.pure none
    · exact ReadsOnly.bind (.update _) fun _ =>
        ReadsOnly.bind released fun _ => ReadsOnly.ofResult (.error e)

end Cursor

end MappedSql
