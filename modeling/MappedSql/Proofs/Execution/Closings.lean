import MappedSql.Proofs.Execution.Provenance
import MappedSql.Proofs.Execution.Releases

namespace MappedSql

open MappedSql.Action (Leaves Meets)

variable {σ α β : Type} {ledger : σ → Ledger} {others rows : List Nat}

structure Scene.Ended (ledger : σ → Ledger) (others rows : List Nat) (scene : Scene σ) : Prop where
  closed : scene.executor.closed = true
  unconnected : scene.executor.transaction.connection = none
  accounts : (ledger scene.source).Accounts scene.executor.transaction others rows

def Scene.Solvent (ledger : σ → Ledger) (others rows : List Nat) (scene : Scene σ) : Prop :=
  scene.Works ledger others rows ∨ scene.Ended ledger others rows

namespace Scene

variable {before after scene : Scene σ}

theorem Works.isOpen (works : scene.Works ledger others rows) : scene.executor.closed = false := by
  obtain ⟨strategy, -, charged⟩ := works
  exact charged.isOpen

theorem Ended.told (same : after.books ledger = before.books ledger)
    (ended : before.Ended ledger others rows) : after.Ended ledger others rows := by
  simp only [books, Prod.mk.injEq] at same
  obtain ⟨kept, -, transaction, closed⟩ := same
  refine ⟨closed.trans ended.closed, ?_, ?_⟩
  · rw [transaction]
    exact ended.unconnected
  · rw [kept, transaction]
    exact ended.accounts

theorem Solvent.told (same : after.books ledger = before.books ledger)
    (solvent : before.Solvent ledger others rows) : after.Solvent ledger others rows := by
  cases solvent with
  | inl works => exact .inl (works.told same)
  | inr ended => exact .inr (ended.told same)

theorem Solvent.works (solvent : scene.Solvent ledger others rows)
    (isOpen : scene.executor.closed = false) : scene.Works ledger others rows := by
  cases solvent with
  | inl works => exact works
  | inr ended =>
      rw [ended.closed] at isOpen
      cases isOpen

theorem Solvent.onSource (solvent : scene.Solvent ledger others rows) {source : σ}
    {others' rows' : List Nat}
    (changes : ∀ transaction kept, (ledger scene.source).Accounts transaction (kept ++ others) rows →
      (ledger source).Accounts transaction (kept ++ others') rows') :
    ({ scene with source := source } : Scene σ).Solvent ledger others' rows' := by
  cases solvent with
  | inl works =>
      obtain ⟨strategy, keyed, charged⟩ := works
      exact .inl ⟨strategy, keyed, charged.strategy, charged.isOpen, changes _ _ charged.accounts⟩
  | inr ended =>
      exact .inr ⟨ended.closed, ended.unconnected, changes _ [] ended.accounts⟩

theorem Solvent.mono (solvent : scene.Solvent ledger others rows) {more moreRows : List Nat}
    (sub : ∀ id ∈ others, id ∈ more) (subRows : ∀ id ∈ rows, id ∈ moreRows) :
    scene.Solvent ledger more moreRows := by
  apply solvent.onSource
  intro transaction kept accounts
  refine accounts.mono (fun id mem => ?_) subRows
  cases List.mem_append.1 mem with
  | inl own => exact List.mem_append_left _ own
  | inr other => exact List.mem_append_right _ (sub id other)

theorem Solvent.accounts (solvent : scene.Solvent ledger others rows) :
    ∃ kept, (ledger scene.source).Accounts scene.executor.transaction (kept ++ others) rows := by
  cases solvent with
  | inl works =>
      obtain ⟨strategy, -, charged⟩ := works
      exact ⟨strategy.owned, charged.accounts⟩
  | inr ended => exact ⟨[], ended.accounts⟩

theorem Solvent.ended (solvent : scene.Solvent ledger others rows)
    (closed : scene.executor.closed = true) : scene.Ended ledger others rows := by
  cases solvent with
  | inl works =>
      rw [works.isOpen] at closed
      cases closed
  | inr ended => exact ended

end Scene

namespace DataSource.Keeps

variable {source : DataSource σ} (keeps : source.Keeps ledger)

include keeps

theorem leaves_commit :
    Leaves (fun state : σ × Transaction => (ledger state.1, state.2)) (Transaction.commit source) := by
  apply Leaves.get.bind
  rintro ⟨state, transaction⟩
  dsimp only
  split
  next c _ =>
    apply Leaves.within
    intro state
    simp only [keeps.commit c state.1]
  next => exact Leaves.pure _

theorem leaves_rollback :
    Leaves (fun state : σ × Transaction => (ledger state.1, state.2)) (Transaction.rollback source) := by
  apply Leaves.get.bind
  rintro ⟨state, transaction⟩
  dsimp only
  split
  next c _ =>
    apply Leaves.within
    intro state
    simp only [keeps.rollback c state.1]
  next => exact Leaves.pure _

omit keeps in
theorem leaves_transaction {act : Action (σ × Transaction) α}
    (leaves : Leaves (fun state : σ × Transaction => (ledger state.1, state.2)) act) :
    Leaves (Scene.books ledger) (Work.onTransaction act) := by
  apply Leaves.within
  intro scene
  have same := leaves (scene.source, scene.executor.transaction)
  simp only [Prod.mk.injEq] at same
  simp only [Scene.books, same]

theorem meets_close {statements : List Nat} :
    Meets (fun state : σ × Transaction => (ledger state.1).Accounts state.2 statements rows)
      (Transaction.close source)
      (fun _ state => state.2.connection = none ∧ (ledger state.1).Accounts state.2 statements rows)
      (fun state => state.2.connection = none ∧ (ledger state.1).Accounts state.2 statements rows) := by
  apply Meets.always
  rintro ⟨state, transaction⟩ accounts
  unfold Transaction.close
  rw [Action.bind_apply, Action.get_apply]
  dsimp only
  rw [Action.bind_apply, Action.set_apply]
  dsimp only
  cases own : transaction.connection with
  | none => exact ⟨rfl, accounts.closing_none own⟩
  | some c =>
      have ended (start : σ) (same : ledger start = ledger state) :
          (ledger (source.dropConnection c (source.closeConnection c start).2)).Accounts
            { transaction with closed := true, connection := none } statements rows := by
        rw [keeps.dropConnection, keeps.closeConnection, same]
        exact accounts.closing_connection own
      dsimp only
      cases source.isAutocommit state c with
      | true => exact ⟨rfl, ended state rfl⟩
      | false => exact ⟨rfl, ended _ (keeps.rollback c state)⟩

end DataSource.Keeps

namespace Executor

variable {pipeline : Pipeline σ} (keeps : pipeline.source.Keeps ledger) (plain : pipeline.Plain)

theorem leaves_changeExecutor {change : Executor → Executor}
    (same : ∀ executor, (change executor).strategy = executor.strategy ∧
      (change executor).transaction = executor.transaction ∧
      (change executor).closed = executor.closed) :
    Leaves (Scene.books ledger) (Work.changeExecutor change) := by
  apply Leaves.modify
  intro scene
  simp only [Scene.books, same]

theorem leaves_keepRows (key : CacheKey) (rows : List Value) :
    Leaves (Scene.books ledger) (keepRows key rows) :=
  leaves_changeExecutor fun _ => ⟨rfl, rfl, rfl⟩

theorem leaves_clearLocal : Leaves (Scene.books ledger) clearLocal := by
  apply leaves_changeExecutor
  intro executor
  split <;> exact ⟨rfl, rfl, rfl⟩

def Solves (ledger : σ → Ledger) (act : Work σ α) : Prop :=
  ∀ others rows, Meets (Scene.Solvent ledger others rows) act
    (fun _ => Scene.Solvent ledger others rows) (Scene.Solvent ledger others rows)

theorem solves_of_leaves {act : Work σ α} (leaves : Leaves (Scene.books ledger) act) :
    Solves ledger act :=
  fun _ _ => Meets.of_leaves leaves fun _ _ => Scene.Solvent.told

theorem Solves.bind {act : Work σ α} {next : α → Work σ β} (first : Solves ledger act)
    (second : ∀ a, Solves ledger (next a)) : Solves ledger (act >>= next) :=
  fun others rows => (first others rows).bind fun a => second a others rows

theorem leaves_ensureOpen : Leaves (Scene.books ledger) ensureOpen := by
  apply (Leaves.read _).bind
  intro executor
  split
  · exact Leaves.throw _
  · exact Leaves.pure _

theorem meets_ensureOpen :
    Meets (Scene.Solvent ledger others rows) ensureOpen
      (fun _ => Scene.Works ledger others rows) (Scene.Solvent ledger others rows) := by
  intro scene solvent
  cases closed : scene.executor.closed with
  | true =>
      rw [ensureOpen_of_closed closed]
      exact ⟨fun _ no => (by cases no), fun _ _ => solvent⟩
  | false =>
      rw [ensureOpen_of_open closed]
      exact ⟨fun _ _ => solvent.works closed, fun _ no => by cases no⟩

theorem solves_of_works {act : Work σ α}
    (meets : ∀ others rows, Meets (Scene.Works ledger others rows) act
      (fun _ => Scene.Works ledger others rows) (Scene.Works ledger others rows)) :
    Solves ledger (do ensureOpen; act) := by
  intro others rows
  apply meets_ensureOpen.bind
  intro _
  exact (meets others rows).weaken (fun _ => id) (fun _ _ => .inl) fun _ => .inl

theorem works_of_leaves {act : Work σ α} (leaves : Leaves (Scene.books ledger) act) :
    Meets (Scene.Works ledger others rows) act (fun _ => Scene.Works ledger others rows)
      (Scene.Works ledger others rows) :=
  Meets.of_leaves leaves fun _ _ => Scene.Works.told

include keeps plain

namespace Local

theorem solves_update (statement : MappedStatement) :
    Solves ledger (Local.update pipeline statement) := by
  apply solves_of_works
  intro others rows
  apply (works_of_leaves leaves_clearLocal).bind
  intro _
  exact Strategy.meets_update keeps plain statement

theorem works_rowsFor (statement : MappedStatement) (bounds : RowBounds) (key : CacheKey)
    (bound : BoundSql) :
    Meets (Scene.Works ledger others rows) (rowsFor pipeline statement bounds key bound)
      (fun _ => Scene.Works ledger others rows) (Scene.Works ledger others rows) := by
  apply (works_of_leaves (Leaves.read _)).bind
  intro executor
  split
  · exact Meets.pure fun _ => id
  · apply (Strategy.meets_query keeps _ plain).bind
    intro found
    apply (works_of_leaves (leaves_keepRows key found)).bind
    intro _
    exact Meets.pure fun _ => id

theorem solves_keyedQuery (statement : MappedStatement) (bounds : RowBounds) (key : CacheKey)
    (bound : BoundSql) : Solves ledger (Local.keyedQuery pipeline statement bounds key bound) := by
  apply solves_of_works
  intro others rows
  have rest : Meets (Scene.Works ledger others rows)
      (do
        let result ← (rowsFor pipeline statement bounds key bound).attempt
        if pipeline.configuration.settings.localScope = .statement then clearLocal
        result : Work σ (List Value))
      (fun _ => Scene.Works ledger others rows) (Scene.Works ledger others rows) := by
    apply (works_rowsFor keeps plain statement bounds key bound).attempt_either.bind
    intro result
    dsimp only
    split
    · exact (works_of_leaves leaves_clearLocal).bind fun _ => works_of_leaves (Leaves.lift _)
    · exact works_of_leaves (Leaves.lift _)
  dsimp only
  split
  · exact (works_of_leaves leaves_clearLocal).bind fun _ => rest
  · exact rest

theorem meets_queryCursor (statement : MappedStatement) (parameter : Value) (bounds : RowBounds) :
    Meets (Scene.Solvent ledger others rows)
      (Local.queryCursor pipeline statement parameter bounds)
      (fun cursor scene => cursor.isOpen ∧ scene.Solvent ledger
        (cursor.statement.toList ++ others) (cursor.rows.toList ++ rows))
      (Scene.Solvent ledger others rows) := by
  apply meets_ensureOpen.bind
  intro _
  apply ((works_of_leaves (Leaves.lift _)).weaken (fun _ => id) (fun _ _ => id) fun _ => .inl).bind
  intro bound
  exact (Strategy.meets_openCursor keeps _ plain).weaken (fun _ => id)
    (fun _ _ ⟨isOpen, works⟩ => ⟨isOpen, .inl works⟩) fun _ => .inl

omit plain in
theorem solves_flush : Solves ledger (Local.flush pipeline) := by
  apply solves_of_works
  intro others rows
  exact (Strategy.meets_flush keeps false).weaken (fun _ => id) (fun _ _ => Scene.Idles.works)
    fun _ => Scene.Idles.works

omit plain in
theorem solves_commit (required : Bool) : Solves ledger (Local.commit pipeline required) := by
  intro others rows scene solvent
  cases closed : scene.executor.closed with
  | true =>
      rw [commit_of_closed closed]
      exact ⟨fun _ no => (by cases no), fun _ _ => solvent⟩
  | false =>
      rw [commit_of_open closed]
      have cleared : (clearLocal scene).2.Solvent ledger others rows :=
        solvent.told (leaves_clearLocal scene)
      revert cleared
      generalize (clearLocal scene).2 = start
      have finished : Solves ledger (finishCommit pipeline required) := by
        apply (solves_flush keeps).bind
        intro _
        split
        · exact solves_of_leaves (DataSource.Keeps.leaves_transaction keeps.leaves_commit)
        · exact solves_of_leaves (Leaves.pure _)
      exact finished others rows start

omit plain in
theorem meets_rollback (required : Bool) :
    Meets (Scene.Works ledger others rows) (Local.rollback pipeline required)
      (fun _ => Scene.Idles ledger others rows) (Scene.Idles ledger others rows) := by
  intro scene works
  rw [rollback_of_open works.isOpen]
  have cleared : (clearLocal scene).2.Works ledger others rows := works.told (leaves_clearLocal scene)
  revert cleared
  generalize (clearLocal scene).2 = start
  have idles {act : Work σ Unit} (leaves : Leaves (Scene.books ledger) act) :
      Meets (Scene.Idles ledger others rows) act (fun _ => Scene.Idles ledger others rows)
        (Scene.Idles ledger others rows) :=
    Meets.of_leaves leaves fun _ _ => Scene.Idles.told
  have finished : Meets (Scene.Works ledger others rows) (finishRollback pipeline required)
      (fun _ => Scene.Idles ledger others rows) (Scene.Idles ledger others rows) := by
    apply (Strategy.meets_flush keeps true).attempt_either.bind
    intro flushed
    have rest : Leaves (Scene.books ledger) (do let _ ← flushed : Work σ Unit) :=
      (Leaves.lift _).bind fun _ => Leaves.pure _
    dsimp only
    split
    · apply idles
      exact (DataSource.Keeps.leaves_transaction keeps.leaves_rollback).bind fun _ => rest
    · exact idles rest
  exact finished start

omit plain in
theorem solves_rollback (required : Bool) : Solves ledger (Local.rollback pipeline required) := by
  intro others rows scene solvent
  cases closed : scene.executor.closed with
  | true =>
      rw [rollback_of_closed closed]
      exact ⟨fun _ _ => solvent, fun _ no => by cases no⟩
  | false =>
      exact ((meets_rollback keeps required).weaken (fun _ => id)
        (fun _ _ idles => .inl idles.works) fun _ idles => .inl idles.works) scene
          (solvent.works closed)

omit plain in
theorem meets_close (required : Bool) :
    Meets (Scene.Solvent ledger others rows) (Local.close pipeline required)
      (fun _ => Scene.Ended ledger others rows) (Scene.Ended ledger others rows) := by
  apply Meets.always
  intro scene solvent
  cases closed : scene.executor.closed with
  | true =>
      rw [close_of_closed closed]
      exact solvent.ended closed
  | false =>
      rw [close_of_open closed]
      obtain ⟨strategy, -, -, charged⟩ :=
        (meets_rollback keeps required).after scene (solvent.works closed)
      obtain ⟨unconnected, accounts⟩ := keeps.meets_close.after (_, _) charged.accounts
      exact ⟨rfl, unconnected, accounts⟩

end Local

namespace Shared

omit keeps plain in
theorem leaves_setStaging (staging : Staging) : Leaves (Scene.books ledger) (setStaging staging) :=
  leaves_changeExecutor fun _ => ⟨rfl, rfl, rfl⟩

omit keeps plain in
theorem leaves_flushIfRequired (statement : MappedStatement) :
    Leaves (Scene.books ledger) (flushIfRequired statement) := by
  unfold flushIfRequired
  split
  · split
    · exact (Leaves.read _).bind fun _ => leaves_setStaging _
    · exact Leaves.pure _
  · exact Leaves.pure _

omit keeps plain in
theorem leaves_lookUp (id : String) (key : CacheKey) :
    Leaves (Scene.books ledger) (lookUp id key) :=
  fun _ => rfl

omit keeps plain in
theorem leaves_publish : Leaves (Scene.books ledger) publish :=
  Leaves.modify fun _ => rfl

theorem solves_update (statement : MappedStatement) :
    Solves ledger (Shared.update pipeline statement) :=
  (solves_of_leaves (leaves_flushIfRequired statement)).bind fun _ =>
    Local.solves_update keeps plain statement

theorem solves_rowsFor (statement : MappedStatement) (bounds : RowBounds) (key : CacheKey)
    (bound : BoundSql) (id : String) :
    Solves ledger (Shared.rowsFor pipeline statement bounds key bound id) := by
  apply (solves_of_leaves (leaves_lookUp id key)).bind
  intro hit
  split
  · exact solves_of_leaves (Leaves.pure _)
  · apply (Local.solves_keyedQuery keeps plain statement bounds key bound).bind
    intro rows
    apply solves_of_leaves
    exact (Leaves.read _).bind fun _ => (leaves_setStaging _).bind fun _ => Leaves.pure _

theorem solves_keyedQuery (statement : MappedStatement) (bounds : RowBounds) (key : CacheKey)
    (bound : BoundSql) : Solves ledger (Shared.keyedQuery pipeline statement bounds key bound) := by
  unfold Shared.keyedQuery
  split
  · exact Local.solves_keyedQuery keeps plain statement bounds key bound
  next id _ =>
    have flushed := solves_of_leaves (@leaves_flushIfRequired _ ledger statement)
    split
    · exact (solves_of_leaves (Leaves.lift _)).bind fun _ => flushed.bind fun _ =>
        solves_rowsFor keeps plain statement bounds key bound id
    · exact flushed.bind fun _ => Local.solves_keyedQuery keeps plain statement bounds key bound

theorem meets_queryCursor (statement : MappedStatement) (parameter : Value) (bounds : RowBounds) :
    Meets (Scene.Solvent ledger others rows)
      (Shared.queryCursor pipeline statement parameter bounds)
      (fun cursor scene => cursor.isOpen ∧ scene.Solvent ledger
        (cursor.statement.toList ++ others) (cursor.rows.toList ++ rows))
      (Scene.Solvent ledger others rows) :=
  (solves_of_leaves (leaves_flushIfRequired statement) others rows).bind fun _ =>
    Local.meets_queryCursor keeps plain statement parameter bounds

omit plain in
theorem solves_commit (required : Bool) : Solves ledger (Shared.commit pipeline required) :=
  (Local.solves_commit keeps required).bind fun _ => solves_of_leaves leaves_publish

omit plain in
theorem solves_rollback (required : Bool) : Solves ledger (Shared.rollback pipeline required) := by
  intro others rows
  apply (Local.solves_rollback keeps required others rows).attempt_either.bind
  intro result
  apply solves_of_leaves
  exact (leaves_setStaging _).bind fun _ => Leaves.lift _

omit plain in
theorem meets_close (required : Bool) :
    Meets (Scene.Solvent ledger others rows) (Shared.close pipeline required)
      (fun _ => Scene.Ended ledger others rows) (Scene.Ended ledger others rows) := by
  have staged {change : Scene σ → Scene σ}
      (same : ∀ scene, (change scene).books ledger = scene.books ledger) :
      Meets (Scene.Solvent ledger others rows)
        (modify change >>= fun _ => Local.close pipeline required)
        (fun _ => Scene.Ended ledger others rows) (Scene.Ended ledger others rows) :=
    (Meets.modify fun scene solvent => solvent.told (same scene)).bind fun _ =>
      Local.meets_close keeps required
  unfold Shared.close
  split
  · exact staged fun _ => rfl
  · exact staged fun _ => rfl

end Shared

omit keeps plain in
theorem solves_choose {shared unshared : Work σ α} (left : Solves ledger shared)
    (right : Solves ledger unshared) : Solves ledger (choose pipeline shared unshared) := by
  unfold choose
  split
  · exact left
  · exact right

theorem solves_update (statement : MappedStatement) : Solves ledger (update pipeline statement) := by
  rw [update, plain.call_eq]
  exact solves_choose (Shared.solves_update keeps plain statement)
    (Local.solves_update keeps plain statement)

theorem solves_query (statement : MappedStatement) (parameter : Value) (bounds : RowBounds) :
    Solves ledger (query pipeline statement parameter bounds) := by
  rw [query, plain.call_eq]
  apply (solves_of_leaves (Leaves.lift _)).bind
  intro bound
  have keyed : Leaves (Scene.books ledger) (cacheKey pipeline statement bounds bound) :=
    leaves_ensureOpen.bind fun _ => Leaves.lift _
  apply (solves_of_leaves keyed).bind
  intro key
  exact solves_choose (Shared.solves_keyedQuery keeps plain statement bounds key bound)
    (Local.solves_keyedQuery keeps plain statement bounds key bound)

theorem meets_queryCursor (statement : MappedStatement) (parameter : Value) (bounds : RowBounds) :
    Meets (Scene.Solvent ledger others rows) (queryCursor pipeline statement parameter bounds)
      (fun cursor scene => cursor.isOpen ∧ scene.Solvent ledger
        (cursor.statement.toList ++ others) (cursor.rows.toList ++ rows))
      (Scene.Solvent ledger others rows) := by
  rw [queryCursor, plain.call_eq]
  change Meets _ (choose pipeline _ _) _ _
  unfold choose
  split
  · exact Shared.meets_queryCursor keeps plain statement parameter bounds
  · exact Local.meets_queryCursor keeps plain statement parameter bounds

theorem solves_flush : Solves ledger (flush pipeline) := by
  rw [flush, plain.call_eq]
  exact Local.solves_flush keeps

theorem solves_commit (required : Bool) : Solves ledger (commit pipeline required) := by
  rw [commit, plain.call_eq]
  exact solves_choose (Shared.solves_commit keeps required) (Local.solves_commit keeps required)

theorem solves_rollback (required : Bool) : Solves ledger (rollback pipeline required) := by
  rw [rollback, plain.call_eq]
  exact solves_choose (Shared.solves_rollback keeps required) (Local.solves_rollback keeps required)

omit plain in
theorem meets_close (required : Bool) :
    Meets (Scene.Solvent ledger others rows) (close pipeline required)
      (fun _ => Scene.Ended ledger others rows) (Scene.Ended ledger others rows) := by
  rw [close]
  unfold choose
  split
  · exact Shared.meets_close keeps required
  · exact Local.meets_close keeps required

end Executor

end MappedSql
