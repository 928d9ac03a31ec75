import MappedSql.Database.Faults
import MappedSql.Database.Recording
import MappedSql.Proofs.Triple
import Mathlib.Logic.Function.Basic

namespace MappedSql

open MappedSql.Action (Leaves)

structure Shelf where
  opened : Nat
  closed : Nat
  flags : List Bool

namespace Shelf

variable (shelf : Shelf)

def Live (id : Nat) : Prop :=
  shelf.flags[id]? = some false

def opening : Shelf :=
  ⟨shelf.opened + 1, shelf.closed, shelf.flags ++ [false]⟩

def closing (id : Nat) : Shelf :=
  if shelf.flags[id]? = some false then ⟨shelf.opened, shelf.closed + 1, shelf.flags.set id true⟩
  else shelf

variable {shelf} in
theorem closing_of_live {id : Nat} (live : shelf.Live id) :
    shelf.closing id = ⟨shelf.opened, shelf.closed + 1, shelf.flags.set id true⟩ :=
  if_pos live

variable {shelf} in
theorem closing_of_not_live {id : Nat} (dead : ¬shelf.Live id) : shelf.closing id = shelf :=
  if_neg dead

theorem opened_closing (id : Nat) : (shelf.closing id).opened = shelf.opened := by
  unfold closing
  split <;> rfl

structure Balanced : Prop where
  opened : shelf.opened = shelf.flags.length
  closed : shelf.closed = shelf.flags.count true

variable {shelf}

theorem live_of_opening {id : Nat} (live : shelf.opening.Live id) :
    shelf.Live id ∨ id = shelf.flags.length := by
  unfold Live opening at live
  by_cases old : id < shelf.flags.length
  · rw [List.getElem?_append_left old] at live
    exact .inl live
  · rw [List.getElem?_append_right (Nat.le_of_not_lt old)] at live
    cases past : id - shelf.flags.length with
    | zero => right; omega
    | succ n => simp [past] at live

theorem live_of_closing {id other : Nat} (live : (shelf.closing id).Live other) :
    shelf.Live other ∧ other ≠ id := by
  unfold closing at live
  split at live
  next open_ =>
    have differ : other ≠ id := by
      rintro rfl
      obtain ⟨inside, -⟩ := List.getElem?_eq_some_iff.1 open_
      simp only [Live, List.getElem?_set_self inside] at live
      cases live
    refine ⟨?_, differ⟩
    simpa only [Live, List.getElem?_set_ne differ.symm] using live
  next shut =>
    refine ⟨live, ?_⟩
    rintro rfl
    exact shut live

theorem Balanced.opening (balanced : shelf.Balanced) : shelf.opening.Balanced := by
  constructor
  · simp [Shelf.opening, balanced.opened]
  · simp [Shelf.opening, balanced.closed]

theorem Balanced.closing (balanced : shelf.Balanced) (id : Nat) : (shelf.closing id).Balanced := by
  unfold Shelf.closing
  split
  next open_ =>
    obtain ⟨inside, found⟩ := List.getElem?_eq_some_iff.1 open_
    constructor
    · simpa using balanced.opened
    · have counted := List.count_set (a := true) (b := true) inside
      simp [found] at counted
      simp [balanced.closed, counted]
  next => exact balanced

theorem Balanced.settled (balanced : shelf.Balanced) (none : ∀ id, ¬shelf.Live id) :
    shelf.opened = shelf.closed := by
  have all : ∀ flag ∈ shelf.flags, true = flag := by
    intro flag mem
    cases flag with
    | true => rfl
    | false =>
        obtain ⟨id, inside, found⟩ := List.getElem_of_mem mem
        exact absurd (List.getElem?_eq_some_iff.2 ⟨inside, found⟩) (none id)
  rw [balanced.opened, balanced.closed, List.count_eq_length.2 all]

end Shelf

inductive Asset
  | connection
  | statement
  | rows
  deriving DecidableEq

abbrev Ledger := Asset → Shelf

namespace Ledger

variable {σ τ : Type} {asset : Asset}

def opening (ledger : Ledger) (asset : Asset) : Ledger :=
  Function.update ledger asset (ledger asset).opening

def closing (ledger : Ledger) (asset : Asset) (id : Nat) : Ledger :=
  Function.update ledger asset ((ledger asset).closing id)

def Opens (ledger : σ → Ledger) (asset : Asset) (act : Action σ Nat) : Prop :=
  ∀ state, (∃ e after, act state = (.error e, after) ∧ ledger after = ledger state) ∨
    ∃ id after, act state = (.ok id, after) ∧ id = (ledger state asset).flags.length ∧
      ledger after = (ledger state).opening asset

def Closes (ledger : σ → Ledger) (asset : Asset) (id : Nat) (act : Action σ Unit) : Prop :=
  ∀ state, ledger (act state).2 = (ledger state).closing asset id

end Ledger

open Ledger (Opens Closes)

structure DataSource.Keeps {σ : Type} (source : DataSource σ) (ledger : σ → Ledger) : Prop where
  connect : ∀ autocommit, Opens ledger .connection (source.connect autocommit)
  prepare : ∀ c sql options, Opens ledger .statement (source.prepare c sql options)
  openRows : ∀ st, Opens ledger .rows (source.openRows st)
  closeConnection : ∀ c, Closes ledger .connection c (source.closeConnection c)
  closeStatement : ∀ st, Closes ledger .statement st (source.closeStatement st)
  closeRows : ∀ rows, Closes ledger .rows rows (source.closeRows rows)
  isClosed : ∀ state st, source.isClosed state st → ¬(ledger state .statement).Live st
  commit : ∀ c, Leaves ledger (source.commit c)
  rollback : ∀ c, Leaves ledger (source.rollback c)
  setParameter : ∀ st position value, Leaves ledger (source.setParameter st position value)
  registerOutput : ∀ st position type, Leaves ledger (source.registerOutput st position type)
  output : ∀ st position, Leaves ledger (source.output st position)
  update : ∀ st, Leaves ledger (source.update st)
  query : ∀ st, Leaves ledger (source.query st)
  addBatch : ∀ st, Leaves ledger (source.addBatch st)
  executeBatch : ∀ st, Leaves ledger (source.executeBatch st)
  generatedKeys : ∀ st, Leaves ledger (source.generatedKeys st)
  nextRow : ∀ rows, Leaves ledger (source.nextRow rows)
  dropConnection : ∀ c state, ledger (source.dropConnection c state) = ledger state
  dropStatement : ∀ st state, ledger (source.dropStatement st state) = ledger state
  dropRows : ∀ rows state, ledger (source.dropRows rows state) = ledger state

namespace Recording

def ledger (recording : Recording) : Ledger
  | .connection => ⟨recording.counters.connectionsOpened, recording.counters.connectionsClosed,
      recording.connections.map (·.closed)⟩
  | .statement => ⟨recording.counters.prepared, recording.counters.statementsClosed,
      recording.statements.map (·.closed)⟩
  | .rows => ⟨recording.counters.cursorsOpened, recording.counters.cursorsClosed,
      recording.rowSources.map (·.closed)⟩

theorem map_modify {α β : Type} {view : α → β} {change : α → α}
    (same : ∀ a, view (change a) = view a) (as : List α) (id : Nat) :
    (as.modify id change).map view = as.map view := by
  induction as generalizing id with
  | nil => simp
  | cons a rest ih =>
      cases id with
      | zero => simp [same]
      | succ id => simp [ih]

theorem map_modify_set {α β : Type} {view : α → β} {change : α → α} {b : β}
    (becomes : ∀ a, view (change a) = b) (as : List α) (id : Nat) :
    (as.modify id change).map view = (as.map view).set id b := by
  induction as generalizing id with
  | nil => simp
  | cons a rest ih =>
      cases id with
      | zero => simp [becomes]
      | succ id => simp [ih]

theorem leaves_count {change : Counters → Counters}
    (same : ∀ recording : Recording,
      ledger { recording with counters := change recording.counters } = ledger recording) :
    Leaves ledger (count change) :=
  Leaves.modify same

theorem leaves_setStatement (id : StatementId) {change : RecordedStatement → RecordedStatement}
    (same : ∀ statement, (change statement).closed = statement.closed) :
    Leaves ledger (setStatement id change) := by
  apply Leaves.modify
  intro recording
  funext asset
  cases asset <;> simp only [ledger, map_modify same]

theorem leaves_setRows (id : RowsId) {change : RecordedRows → RecordedRows}
    (same : ∀ rows, (change rows).closed = rows.closed) : Leaves ledger (setRows id change) := by
  apply Leaves.modify
  intro recording
  funext asset
  cases asset <;> simp only [ledger, map_modify same]

theorem leaves_record (sql : String) (parameters : List Value) :
    Leaves ledger (record sql parameters) :=
  Leaves.modify fun _ => rfl

theorem leaves_takeKey : Leaves ledger takeKey :=
  fun _ => rfl

theorem leaves_openStatement (id : StatementId) : Leaves ledger (openStatement id) := by
  apply (Leaves.read _).bind
  intro statement
  split
  · exact Leaves.throw _
  · exact Leaves.pure _

theorem leaves_answer (id : StatementId) : Leaves ledger (answer id) := by
  apply (leaves_openStatement id).bind
  intro statement
  apply (Leaves.read _).bind
  intro script
  apply (Leaves.lift _).bind
  intro _
  apply (leaves_record _ _).bind
  intro _
  exact Leaves.pure _

theorem leaves_keys (returnKeys : Bool) {β : Type} {next : List Value → Action Recording β}
    (rest : ∀ keys, Leaves ledger (next keys)) :
    Leaves ledger
      (if returnKeys then (do next (← (do return [← takeKey]))) else (do next (← pure []))) := by
  split
  · exact (leaves_takeKey.bind fun _ => Leaves.pure _).bind rest
  · exact (Leaves.pure _).bind rest

theorem leaves_update (id : StatementId) : Leaves ledger (update id) := by
  apply (leaves_openStatement id).bind
  intro statement
  apply (Leaves.read _).bind
  intro script
  apply (Leaves.lift _).bind
  intro _
  apply (leaves_record _ _).bind
  intro _
  apply (leaves_count fun _ => rfl).bind
  intro _
  apply leaves_keys
  intro keys
  apply (leaves_setStatement id _).bind
  · intro _
    exact Leaves.pure _
  · intro _
    rfl

theorem leaves_runEntries (sql : String) (returnKeys : Bool) (entries : List (List Value)) :
    Leaves ledger (runEntries sql returnKeys entries) := by
  induction entries with
  | nil => exact Leaves.pure _
  | cons parameters rest ih =>
      apply (leaves_record _ _).bind
      intro _
      apply leaves_keys
      intro key
      exact ih.bind fun _ => Leaves.pure _

theorem leaves_executeBatch (id : StatementId) : Leaves ledger (executeBatch id) := by
  apply (leaves_openStatement id).bind
  intro statement
  apply (Leaves.read _).bind
  intro script
  apply (Leaves.lift _).bind
  intro _
  apply (leaves_count fun _ => rfl).bind
  intro _
  apply (leaves_runEntries _ _ _).bind
  intro keys
  apply (leaves_setStatement id _).bind
  · intro _
    exact Leaves.pure _
  · intro _
    rfl

theorem leaves_query (id : StatementId) : Leaves ledger (query id) := by
  apply (leaves_answer id).bind
  intro found
  exact (leaves_count fun _ => rfl).bind fun _ => Leaves.pure _

theorem leaves_addBatch (id : StatementId) : Leaves ledger (addBatch id) := by
  apply (leaves_openStatement id).bind
  intro _
  exact leaves_setStatement id fun _ => rfl

theorem leaves_generatedKeys (id : StatementId) : Leaves ledger (generatedKeys id) := by
  apply (Leaves.read _).bind
  intro statement
  apply (leaves_setStatement id _).bind
  · intro _
    exact Leaves.pure _
  · intro _
    rfl

theorem leaves_setParameter (id : StatementId) (position : Nat) (value : Value) :
    Leaves ledger (setParameter id position value) := by
  apply (leaves_openStatement id).bind
  intro _
  dsimp only
  split
  · exact Leaves.throw _
  · exact leaves_setStatement id fun _ => rfl

theorem leaves_registerOutput (id : StatementId) (position : Nat) (type : Option DbType) :
    Leaves ledger (registerOutput id position type) := by
  apply (Leaves.read _).bind
  intro statement
  dsimp only
  split
  · exact Leaves.throw _
  · exact leaves_setStatement id fun _ => rfl

theorem leaves_output (id : StatementId) (position : Nat) : Leaves ledger (output id position) := by
  apply Leaves.get.bind
  intro recording
  split
  · exact Leaves.throw _
  · exact Leaves.pure _

theorem leaves_nextRow (id : RowsId) : Leaves ledger (nextRow id) := by
  apply (Leaves.read _).bind
  intro rows
  split
  · exact Leaves.pure _
  · split
    · exact Leaves.pure _
    · apply (leaves_setRows id _).bind
      · intro _
        exact (leaves_count fun _ => rfl).bind fun _ => Leaves.pure _
      · intro _
        rfl

theorem connection_live (recording : Recording) (c : ConnectionId) :
    isConnectionClosed recording c = false ↔ (recording.ledger .connection).Live c := by
  unfold isConnectionClosed Shelf.Live ledger
  rw [List.getElem?_map]
  cases recording.connections[c]? with
  | none => simp
  | some connection => simp

theorem statement_live (recording : Recording) (id : StatementId) :
    (recording.statement id).closed = false ↔ (recording.ledger .statement).Live id := by
  unfold statement Shelf.Live ledger
  rw [List.getElem?_map]
  cases recording.statements[id]? with
  | none => simp
  | some statement => simp

theorem rows_live (recording : Recording) (id : RowsId) :
    (recording.rowSource id).closed = false ↔ (recording.ledger .rows).Live id := by
  unfold rowSource Shelf.Live ledger
  rw [List.getElem?_map]
  cases recording.rowSources[id]? with
  | none => simp
  | some rows => simp

theorem closes_of_live {asset : Asset} {id : Nat} {closed : Recording → Bool}
    {act : Action Recording Unit}
    (live : ∀ recording, closed recording = false ↔ (recording.ledger asset).Live id)
    (passes : ∀ recording, closed recording = true → (act recording).2 = recording)
    (closes : ∀ recording, closed recording = false → (act recording).2.ledger =
      Function.update recording.ledger asset
        ⟨(recording.ledger asset).opened, (recording.ledger asset).closed + 1,
          (recording.ledger asset).flags.set id true⟩) : Closes ledger asset id act := by
  intro recording
  unfold Ledger.closing
  cases shut : closed recording with
  | true =>
      have dead : ¬(recording.ledger asset).Live id := by
        intro alive
        simp [(live recording).2 alive] at shut
      rw [Shelf.closing_of_not_live dead, Function.update_eq_self, passes recording shut]
  | false =>
      rw [Shelf.closing_of_live ((live recording).1 shut), closes recording shut]

theorem closes_connection (c : ConnectionId) : Closes ledger .connection c (closeConnection c) := by
  apply closes_of_live fun recording => connection_live recording c
  · intro recording shut
    simp [closeConnection, Action.bind_apply, Action.get_apply, shut, Action.pure_apply]
  · intro recording alive
    unfold closeConnection
    rw [Action.bind_apply, Action.get_apply]
    dsimp only
    rw [alive]
    funext asset
    cases asset with
    | connection =>
        have flags := @map_modify_set _ _ RecordedConnection.closed ({ · with closed := true }) true
          (fun _ => rfl) recording.connections c
        exact congrArg (Shelf.mk _ (recording.counters.connectionsClosed + 1)) flags
    | statement => rfl
    | rows => rfl

theorem closes_statement (id : StatementId) : Closes ledger .statement id (closeStatement id) := by
  apply closes_of_live fun recording => statement_live recording id
  · intro recording shut
    simp [closeStatement, Action.bind_apply, Action.get_apply, shut, Action.pure_apply]
  · intro recording alive
    unfold closeStatement
    rw [Action.bind_apply, Action.get_apply]
    dsimp only
    rw [alive]
    funext asset
    cases asset with
    | statement =>
        have flags := @map_modify_set _ _ RecordedStatement.closed ({ · with closed := true }) true
          (fun _ => rfl) recording.statements id
        exact congrArg (Shelf.mk _ (recording.counters.statementsClosed + 1)) flags
    | connection => rfl
    | rows => rfl

theorem closes_rows (id : RowsId) : Closes ledger .rows id (closeRows id) := by
  apply closes_of_live fun recording => rows_live recording id
  · intro recording shut
    simp [closeRows, Action.bind_apply, Action.get_apply, shut, Action.pure_apply]
  · intro recording alive
    unfold closeRows
    rw [Action.bind_apply, Action.get_apply]
    dsimp only
    rw [alive]
    funext asset
    cases asset with
    | rows =>
        have flags := @map_modify_set _ _ RecordedRows.closed ({ · with closed := true }) true
          (fun _ => rfl) recording.rowSources id
        exact congrArg (Shelf.mk _ (recording.counters.cursorsClosed + 1)) flags
    | connection => rfl
    | statement => rfl

theorem opens_connection (autocommit : Bool) :
    Opens ledger .connection (connect autocommit) := by
  intro recording
  refine .inr ⟨_, _, rfl, by simp only [ledger, List.length_map], ?_⟩
  funext asset
  cases asset <;> simp [ledger, Ledger.opening, Shelf.opening]

theorem opens_statement (c : ConnectionId) (sql : String) (options : PrepareOptions) :
    Opens ledger .statement (prepare c sql options) := by
  intro recording
  unfold prepare
  rw [Action.bind_apply, Action.get_apply]
  dsimp only
  cases shut : isConnectionClosed recording c with
  | true => exact .inl ⟨_, _, rfl, rfl⟩
  | false =>
      refine .inr ⟨_, _, rfl, by simp only [ledger, List.length_map], ?_⟩
      funext asset
      cases asset <;> simp [ledger, Ledger.opening, Shelf.opening]

theorem opens_rows (id : StatementId) : Opens ledger .rows (openRows id) := by
  intro recording
  unfold openRows
  have same := leaves_answer id recording
  rw [Action.bind_apply]
  rcases ran : answer id recording with ⟨e | found, after⟩ <;> rw [ran] at same
  · exact .inl ⟨e, after, rfl, same⟩
  · rw [← same]
    refine .inr ⟨_, _, rfl, by simp only [ledger, List.length_map], ?_⟩
    funext asset
    cases asset <;> simp [ledger, Ledger.opening, Shelf.opening]

theorem keeps : source.Keeps ledger where
  connect := opens_connection
  prepare := opens_statement
  openRows := opens_rows
  closeConnection := closes_connection
  closeStatement := closes_statement
  closeRows := closes_rows
  isClosed := by
    intro recording id shut live
    rw [← statement_live] at live
    rw [show (recording.statement id).closed = true from shut] at live
    cases live
  commit := fun _ => leaves_count fun _ => rfl
  rollback := fun _ => leaves_count fun _ => rfl
  setParameter := leaves_setParameter
  registerOutput := leaves_registerOutput
  output := leaves_output
  update := leaves_update
  query := leaves_query
  addBatch := leaves_addBatch
  executeBatch := leaves_executeBatch
  generatedKeys := leaves_generatedKeys
  nextRow := leaves_nextRow
  dropConnection := fun _ _ => rfl
  dropStatement := fun _ _ => rfl
  dropRows := fun _ _ => rfl

end Recording

namespace Faulty

variable {τ α ν : Type} {view : τ → ν} {ledger : τ → Ledger} {source : DataSource τ}
  {asset : Asset}

theorem leaves_onInner {act : Action τ α} (leaves : Leaves view act) :
    Leaves (view ∘ inner) (onInner act) :=
  fun faulty => leaves faulty.inner

theorem leaves_strike (name : String) : Leaves (view ∘ inner) (strike (τ := τ) name) := by
  apply Leaves.get.bind
  intro faulty
  split
  · exact Leaves.throw _
  · exact Leaves.pure _

theorem leaves_before (name : String) {act : Action τ α} (leaves : Leaves view act) :
    Leaves (view ∘ inner) (before name act) :=
  (leaves_strike name).bind fun _ => leaves_onInner leaves

theorem opens_onInner {act : Action τ Nat} (opens : Opens ledger asset act) :
    Opens (ledger ∘ inner) asset (onInner act) := by
  intro faulty
  rcases opens faulty.inner with ⟨e, after, failed, same⟩ | ⟨id, after, opened, number, kept⟩
  · exact .inl ⟨e, { faulty with inner := after }, by simp only [onInner, Action.within, failed], same⟩
  · exact .inr ⟨id, { faulty with inner := after }, by simp only [onInner, Action.within, opened],
      number, kept⟩

theorem opens_bind {first : Action (Faulty τ) α} {next : α → Action (Faulty τ) Nat}
    (leaves : Leaves (ledger ∘ inner) first) (opens : ∀ a, Opens (ledger ∘ inner) asset (next a)) :
    Opens (ledger ∘ inner) asset (first >>= next) := by
  intro faulty
  have same := leaves faulty
  rw [Action.bind_apply]
  rcases ran : first faulty with ⟨e | a, after⟩ <;> rw [ran] at same
  · exact .inl ⟨e, after, rfl, same⟩
  · rw [← same]
    exact opens a after

theorem opens_before (name : String) {act : Action τ Nat} (opens : Opens ledger asset act) :
    Opens (ledger ∘ inner) asset (before name act) :=
  opens_bind (leaves_strike name) fun _ => opens_onInner opens

theorem closes_after (name : String) {id : Nat} {act : Action τ Unit}
    (closes : Closes ledger asset id act) : Closes (ledger ∘ inner) asset id (after name act) := by
  intro faulty
  have closed : (ledger ∘ inner) (onInner act faulty).2 =
      ((ledger ∘ inner) faulty).closing asset id := closes faulty.inner
  rw [← closed, after, Action.bind_apply]
  rcases onInner act faulty with ⟨e | _, left⟩
  · rfl
  · exact ((leaves_strike name).bind fun _ => Leaves.pure _) left

theorem opens_connect (keeps : source.Keeps ledger) (autocommit : Bool) :
    Opens (ledger ∘ inner) .connection (connect source autocommit) := by
  apply opens_bind Leaves.get
  intro faulty
  split
  · exact opens_bind (Leaves.throw _) fun _ => opens_onInner (keeps.connect autocommit)
  · exact opens_onInner (keeps.connect autocommit)

theorem opens_prepare (keeps : source.Keeps ledger) (c : ConnectionId) (sql : String)
    (options : PrepareOptions) :
    Opens (ledger ∘ inner) .statement (prepare source c sql options) := by
  have noted : Leaves (ledger ∘ inner) (modify (note (.prepare sql options))) :=
    Leaves.modify fun _ => rfl
  apply opens_bind noted
  intro _ faulty
  have opened := opens_before "prepare" (keeps.prepare c sql options) faulty
  rw [Action.bind_apply]
  obtain ⟨e, after, failed, same⟩ | ⟨id, after, went, number, kept⟩ := opened
  · rw [failed]
    exact .inl ⟨e, after, rfl, same⟩
  · rw [went]
    refine .inr ⟨id, _, rfl, number, ?_⟩
    rw [← kept]
    dsimp only [Function.comp]
    split <;> rfl

theorem leaves_registerOutput {st : StatementId} {position : Nat} {type : Option DbType}
    (leaves : Leaves view (source.registerOutput st position type)) :
    Leaves (view ∘ inner) (registerOutput source st position type) := by
  apply Leaves.get.bind
  intro faulty
  have rest : Leaves (view ∘ inner) (do
      modify (note (.registerOutput position type))
      onInner (source.registerOutput st position type)) :=
    (Leaves.modify fun _ => rfl).bind fun _ => leaves_onInner leaves
  split
  · exact (Leaves.throw _).bind fun _ => rest
  · exact rest

theorem leaves_output (keeps : source.Keeps ledger) (st : StatementId) (position : Nat) :
    Leaves (ledger ∘ inner) (output source st position) := by
  apply Leaves.get.bind
  intro faulty
  split
  · exact (Leaves.throw _).bind fun _ => leaves_onInner (keeps.output st position)
  · exact leaves_onInner (keeps.output st position)

theorem leaves_nextRow (keeps : source.Keeps ledger) (rows : RowsId) :
    Leaves (ledger ∘ inner) (nextRow source rows) := by
  have counted : Leaves (ledger ∘ inner) (countFetch (τ := τ) rows) :=
    fun _ => rfl
  exact counted.bind fun _ => leaves_before _ (keeps.nextRow rows)

theorem keeps_around (keeps : source.Keeps ledger) : (around source).Keeps (ledger ∘ inner) where
  connect := opens_connect keeps
  prepare := opens_prepare keeps
  openRows := fun st => opens_before _ (keeps.openRows st)
  closeConnection := fun c => closes_after _ (keeps.closeConnection c)
  closeStatement := fun st => closes_after _ (keeps.closeStatement st)
  closeRows := fun rows => closes_after _ (keeps.closeRows rows)
  isClosed := fun faulty => keeps.isClosed faulty.inner
  commit := fun c => leaves_before _ (keeps.commit c)
  rollback := fun c => leaves_before _ (keeps.rollback c)
  setParameter := fun st position value => leaves_before _ (keeps.setParameter st position value)
  registerOutput := fun st position type =>
    leaves_registerOutput (keeps.registerOutput st position type)
  output := leaves_output keeps
  update := fun st => leaves_before _ (keeps.update st)
  query := fun st => leaves_before _ (keeps.query st)
  addBatch := fun st => leaves_before _ (keeps.addBatch st)
  executeBatch := fun st => leaves_before _ (keeps.executeBatch st)
  generatedKeys := fun st => leaves_before _ (keeps.generatedKeys st)
  nextRow := leaves_nextRow keeps
  dropConnection := fun c faulty => keeps.dropConnection c faulty.inner
  dropStatement := fun st faulty => keeps.dropStatement st faulty.inner
  dropRows := fun rows faulty => keeps.dropRows rows faulty.inner

end Faulty

end MappedSql
