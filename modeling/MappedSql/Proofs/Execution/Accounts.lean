import MappedSql.Proofs.Database.Ledger
import MappedSql.Proofs.Execution.Steps

namespace MappedSql

open MappedSql.Action (Leaves Meets)
open Ledger (Opens Closes)

variable {σ α β : Type}

structure Shelf.Accounted (shelf : Shelf) (ids : List Nat) : Prop where
  balanced : shelf.Balanced
  owned : ∀ id, shelf.Live id → id ∈ ids

namespace Shelf.Accounted

variable {shelf : Shelf} {ids : List Nat}

theorem mono (accounted : shelf.Accounted ids) {more : List Nat} (sub : ∀ id ∈ ids, id ∈ more) :
    shelf.Accounted more :=
  ⟨accounted.balanced, fun id live => sub id (accounted.owned id live)⟩

theorem opening (accounted : shelf.Accounted ids) :
    shelf.opening.Accounted (shelf.flags.length :: ids) := by
  refine ⟨accounted.balanced.opening, fun id live => ?_⟩
  cases live_of_opening live with
  | inl before => exact List.mem_cons_of_mem _ (accounted.owned id before)
  | inr new => exact new ▸ List.mem_cons_self

theorem closing {id : Nat} (accounted : shelf.Accounted (id :: ids)) :
    (shelf.closing id).Accounted ids := by
  refine ⟨accounted.balanced.closing id, fun other live => ?_⟩
  obtain ⟨before, differ⟩ := live_of_closing live
  exact List.mem_of_ne_of_mem differ (accounted.owned other before)

end Shelf.Accounted

structure Transaction.Accounted (transaction : Transaction) (shelf : Shelf) : Prop where
  accounted : shelf.Accounted transaction.connection.toList
  once : shelf.opened ≤ 1
  unused : transaction.connection = none → transaction.closed = false → shelf.opened = 0

/-- What the ledger has open is owned: the connection by the transaction, and the statements and row
sources that are listed. -/
structure Ledger.Accounts (ledger : Ledger) (transaction : Transaction)
    (statements rows : List Nat) : Prop where
  connection : transaction.Accounted (ledger .connection)
  statement : (ledger .statement).Accounted statements
  rows : (ledger .rows).Accounted rows

namespace Ledger.Accounts

variable {ledger : Ledger} {transaction : Transaction} {statements rows : List Nat}

theorem mono (accounts : ledger.Accounts transaction statements rows) {more moreRows : List Nat}
    (sub : ∀ id ∈ statements, id ∈ more) (subRows : ∀ id ∈ rows, id ∈ moreRows) :
    ledger.Accounts transaction more moreRows :=
  ⟨accounts.connection, accounts.statement.mono sub, accounts.rows.mono subRows⟩

theorem opening_connection (accounts : ledger.Accounts transaction statements rows)
    (none : transaction.connection = none) (isOpen : transaction.closed = false) {c : ConnectionId}
    (number : c = (ledger .connection).flags.length) :
    (ledger.opening .connection).Accounts { transaction with connection := some c } statements rows where
  connection := by
    have unused := accounts.connection.unused none isOpen
    have opened := accounts.connection.accounted.opening
    rw [none, ← number] at opened
    simp only [Ledger.opening, Function.update_self]
    refine ⟨opened, ?_, fun no => by cases no⟩
    simp [Shelf.opening, unused]
  statement := by simpa [Ledger.opening] using accounts.statement
  rows := by simpa [Ledger.opening] using accounts.rows

theorem opening_statement (accounts : ledger.Accounts transaction statements rows) :
    (ledger.opening .statement).Accounts transaction
      ((ledger .statement).flags.length :: statements) rows where
  connection := by simpa [Ledger.opening] using accounts.connection
  statement := by simpa [Ledger.opening] using accounts.statement.opening
  rows := by simpa [Ledger.opening] using accounts.rows

theorem opening_rows (accounts : ledger.Accounts transaction statements rows) :
    (ledger.opening .rows).Accounts transaction statements
      ((ledger .rows).flags.length :: rows) where
  connection := by simpa [Ledger.opening] using accounts.connection
  statement := by simpa [Ledger.opening] using accounts.statement
  rows := by simpa [Ledger.opening] using accounts.rows.opening

theorem closing_statement {id : Nat} (accounts : ledger.Accounts transaction (id :: statements) rows) :
    (ledger.closing .statement id).Accounts transaction statements rows where
  connection := by simpa [Ledger.closing] using accounts.connection
  statement := by simpa [Ledger.closing] using accounts.statement.closing
  rows := by simpa [Ledger.closing] using accounts.rows

theorem closing_rows {id : Nat} (accounts : ledger.Accounts transaction statements (id :: rows)) :
    (ledger.closing .rows id).Accounts transaction statements rows where
  connection := by simpa [Ledger.closing] using accounts.connection
  statement := by simpa [Ledger.closing] using accounts.statement
  rows := by simpa [Ledger.closing] using accounts.rows.closing

theorem closing_none (accounts : ledger.Accounts transaction statements rows)
    (none : transaction.connection = none) :
    ledger.Accounts { transaction with closed := true, connection := Option.none } statements rows where
  connection := by
    have accounted := accounts.connection.accounted
    rw [none] at accounted
    exact ⟨accounted, accounts.connection.once, fun _ no => by cases no⟩
  statement := accounts.statement
  rows := accounts.rows

theorem closing_connection (accounts : ledger.Accounts transaction statements rows) {c : ConnectionId}
    (own : transaction.connection = some c) :
    (ledger.closing .connection c).Accounts
      { transaction with closed := true, connection := none } statements rows where
  connection := by
    have accounted := accounts.connection.accounted
    rw [own] at accounted
    simp only [Ledger.closing, Function.update_self]
    refine ⟨accounted.closing, ?_, fun _ no => by cases no⟩
    rw [Shelf.opened_closing]
    exact accounts.connection.once
  statement := by simpa [Ledger.closing] using accounts.statement
  rows := by simpa [Ledger.closing] using accounts.rows

end Ledger.Accounts

def Scene.books (ledger : σ → Ledger) (scene : Scene σ) : Ledger × Strategy × Transaction × Bool :=
  (ledger scene.source, scene.executor.strategy, scene.executor.transaction, scene.executor.closed)

structure Scene.Charged (ledger : σ → Ledger) (strategy : Strategy) (statements rows : List Nat)
    (scene : Scene σ) : Prop where
  strategy : scene.executor.strategy = strategy
  isOpen : scene.executor.closed = false
  accounts : (ledger scene.source).Accounts scene.executor.transaction statements rows

variable {ledger : σ → Ledger} {strategy : Strategy} {statements rows : List Nat}

namespace Scene.Charged

variable {scene : Scene σ}

theorem mono (charged : scene.Charged ledger strategy statements rows) {more moreRows : List Nat}
    (sub : ∀ id ∈ statements, id ∈ more) (subRows : ∀ id ∈ rows, id ∈ moreRows) :
    scene.Charged ledger strategy more moreRows :=
  ⟨charged.strategy, charged.isOpen, charged.accounts.mono sub subRows⟩

theorem told {after : Scene σ} (same : after.books ledger = scene.books ledger)
    (charged : scene.Charged ledger strategy statements rows) :
    after.Charged ledger strategy statements rows := by
  obtain ⟨kept, way, transaction, closed⟩ :
      ledger after.source = ledger scene.source ∧ after.executor.strategy = scene.executor.strategy ∧
        after.executor.transaction = scene.executor.transaction ∧
        after.executor.closed = scene.executor.closed := by
    simpa [Scene.books] using same
  refine ⟨way.trans charged.strategy, closed.trans charged.isOpen, ?_⟩
  rw [kept, transaction]
  exact charged.accounts

end Scene.Charged

namespace Work

theorem stays {act : Work σ α} (leaves : Leaves (Scene.books ledger) act) :
    Meets (Scene.Charged ledger strategy statements rows) act
      (fun _ => Scene.Charged ledger strategy statements rows)
      (Scene.Charged ledger strategy statements rows) :=
  Meets.of_leaves leaves fun _ _ same charged => charged.told same

theorem leaves_onSource {act : Action σ α} (leaves : Leaves ledger act) :
    Leaves (Scene.books ledger) (Work.onSource act) := by
  apply Leaves.within
  intro scene
  simp only [Scene.books, leaves scene.source]

theorem leaves_setParameter (value : Value) :
    Leaves (Scene.books ledger) (Work.setParameter value : Work σ Unit) :=
  Leaves.modify fun _ => rfl

theorem meets_onSource {act : Action σ α} {left : List Nat} {given givenRows : α → List Nat}
    (meets : ∀ transaction, Meets (fun state => (ledger state).Accounts transaction statements rows) act
      (fun a state => (ledger state).Accounts transaction (given a) (givenRows a))
      (fun state => (ledger state).Accounts transaction left rows)) :
    Meets (Scene.Charged ledger strategy statements rows) (Work.onSource act)
      (fun a => Scene.Charged ledger strategy (given a) (givenRows a))
      (Scene.Charged ledger strategy left rows) := by
  intro scene charged
  obtain ⟨done, failed⟩ := meets scene.executor.transaction scene.source charged.accounts
  exact ⟨fun a same => ⟨charged.strategy, charged.isOpen, done a same⟩,
    fun e same => ⟨charged.strategy, charged.isOpen, failed e same⟩⟩

theorem meets_onTransaction {act : Action (σ × Transaction) α}
    (meets : Meets (fun state : σ × Transaction => (ledger state.1).Accounts state.2 statements rows)
      act (fun _ state => (ledger state.1).Accounts state.2 statements rows)
      (fun state => (ledger state.1).Accounts state.2 statements rows)) :
    Meets (Scene.Charged ledger strategy statements rows) (Work.onTransaction act)
      (fun _ => Scene.Charged ledger strategy statements rows)
      (Scene.Charged ledger strategy statements rows) := by
  intro scene charged
  obtain ⟨done, failed⟩ := meets (scene.source, scene.executor.transaction) charged.accounts
  exact ⟨fun a same => ⟨charged.strategy, charged.isOpen, done a same⟩,
    fun e same => ⟨charged.strategy, charged.isOpen, failed e same⟩⟩

theorem meets_setStrategy (next : Strategy) {never : Scene σ → Prop} :
    Meets (Scene.Charged ledger strategy statements rows) (Work.setStrategy next)
      (fun _ => Scene.Charged ledger next statements rows) never :=
  Meets.modify fun _ charged => ⟨rfl, charged.isOpen, charged.accounts⟩

theorem meets_executor {next : Executor → Work σ α} {post : α → Scene σ → Prop}
    {fails : Scene σ → Prop}
    (meets : ∀ executor : Executor, executor.strategy = strategy →
      Meets (Scene.Charged ledger strategy statements rows) (next executor) post fails) :
    Meets (Scene.Charged ledger strategy statements rows) (Work.executor >>= next) post fails :=
  fun scene charged => meets scene.executor charged.strategy scene charged

end Work

namespace DataSource.Keeps

variable {source : DataSource σ} (keeps : source.Keeps ledger)

include keeps

theorem ledger_finishStatement (st : StatementId) (state : σ) :
    ledger (source.finishStatement st state).2 = (ledger state).closing .statement st := by
  have closed := keeps.closeStatement st state
  rw [finishStatement, Action.bind_apply, ← closed]
  exact keeps.dropStatement st _

theorem ledger_finishRows (id : RowsId) (state : σ) :
    ledger (source.finishRows id state).2 = (ledger state).closing .rows id := by
  have closed := keeps.closeRows id state
  rw [finishRows, Action.bind_apply, ← closed]
  exact keeps.dropRows id _

theorem meets_finish (st : StatementId) (transaction : Transaction) :
    Meets (fun state => (ledger state).Accounts transaction (st :: statements) rows)
      (source.finishStatement st)
      (fun _ state => (ledger state).Accounts transaction statements rows)
      (fun state => (ledger state).Accounts transaction statements rows) := by
  apply Meets.always
  intro state accounts
  rw [keeps.ledger_finishStatement]
  exact accounts.closing_statement

theorem meets_finishStatement (st : StatementId) :
    Meets (Scene.Charged ledger strategy (st :: statements) rows)
      (Work.onSource (source.finishStatement st))
      (fun _ => Scene.Charged ledger strategy statements rows)
      (Scene.Charged ledger strategy statements rows) :=
  Work.meets_onSource (keeps.meets_finish st)

theorem meets_discard (st : StatementId) {never : Scene σ → Prop} :
    Meets (Scene.Charged ledger strategy (st :: statements) rows)
      (Work.onSource (source.finishStatement st)).quietly
      (fun _ => Scene.Charged ledger strategy statements rows) never :=
  (keeps.meets_finishStatement st).quietly

theorem meets_obtain :
    Meets (fun state : σ × Transaction => (ledger state.1).Accounts state.2 statements rows)
      (Transaction.obtain source)
      (fun _ state => (ledger state.1).Accounts state.2 statements rows)
      (fun state => (ledger state.1).Accounts state.2 statements rows) := by
  apply Meets.always
  rintro ⟨state, transaction⟩ accounts
  cases ended : transaction.closed with
  | true =>
      rw [obtain_of_closed ended]
      exact accounts
  | false =>
      cases own : transaction.connection with
      | some c =>
          rw [obtain_of_connected ended own]
          exact accounts
      | none =>
          rcases keeps.connect transaction.autocommit state with
            ⟨e, after, refused, same⟩ | ⟨c, after, opened, number, kept⟩
          · rw [obtain_of_refused ended own refused]
            change (ledger after).Accounts transaction statements rows
            rw [same]
            exact accounts
          · rw [obtain_of_opened ended own opened]
            change (ledger after).Accounts { transaction with connection := some c } statements rows
            rw [kept]
            exact accounts.opening_connection own ended number

end DataSource.Keeps

namespace Handler

variable {pipeline : Pipeline σ} (handler : Handler) (keeps : pipeline.source.Keeps ledger)

include keeps

theorem leaves_bindFrom (statement : StatementId) (position : Nat)
    (mappings : List ParameterMapping) :
    Leaves (Scene.books ledger) (handler.bindFrom pipeline statement position mappings) := by
  induction mappings generalizing position with
  | nil => exact Leaves.pure _
  | cons mapping rest ih =>
      have one : Leaves (Scene.books ledger) (handler.bindOne pipeline statement position mapping) := by
        apply (Leaves.lift _).bind
        intro value
        apply Leaves.inContext
        apply (Leaves.lift _).bind
        intro converted
        exact Work.leaves_onSource (keeps.setParameter _ _ _)
      unfold bindFrom
      split
      · exact one.bind fun _ => ih _
      · exact ih _

theorem leaves_registerFrom (statement : StatementId) (position : Nat)
    (mappings : List ParameterMapping) :
    Leaves (Scene.books ledger) (handler.registerFrom pipeline statement position mappings) := by
  induction mappings generalizing position with
  | nil => exact Leaves.pure _
  | cons mapping rest ih =>
      unfold registerFrom
      split
      · apply (Leaves.lift _).bind
        intro type
        exact (Work.leaves_onSource (keeps.registerOutput _ _ _)).bind fun _ => ih _
      · exact ih _

theorem leaves_readFrom (statement : StatementId) (position : Nat)
    (mappings : List ParameterMapping) :
    Leaves (Scene.books ledger) (readFrom pipeline statement position mappings) := by
  induction mappings generalizing position with
  | nil => exact Leaves.pure _
  | cons mapping rest ih =>
      unfold readFrom
      split
      · apply (Work.leaves_onSource (keeps.output _ _)).bind
        intro value
        apply (Leaves.read _).bind
        intro parameter
        apply (Leaves.lift _).bind
        intro changed
        exact (Work.leaves_setParameter _).bind fun _ => ih _
      · exact ih _

theorem leaves_assignKeys (statement : StatementId) :
    Leaves (Scene.books ledger) (handler.assignKeys pipeline statement) := by
  unfold assignKeys
  split
  · apply (Work.leaves_onSource (keeps.generatedKeys _)).bind
    intro keys
    apply (Leaves.read _).bind
    intro parameter
    exact (Work.leaves_setParameter _).bind fun _ => Leaves.lift _
  · exact Leaves.pure _

variable (plain : pipeline.Plain)

include plain

theorem leaves_parameterize (statement : StatementId) :
    Leaves (Scene.books ledger) (handler.parameterize pipeline statement) := by
  have set : Leaves (Scene.books ledger) (handler.setParameters pipeline statement) := by
    rw [setParameters, plain.call_eq]
    exact handler.leaves_bindFrom keeps _ _ _
  rw [parameterize, plain.call_eq]
  change Leaves _ (handler.supply pipeline statement)
  unfold supply
  split
  · exact Leaves.pure _
  · exact set
  · exact (handler.leaves_registerFrom keeps _ _ _).bind fun _ => set

theorem leaves_addBatch (statement : StatementId) :
    Leaves (Scene.books ledger) (addBatch pipeline statement) := by
  rw [addBatch, plain.call_eq]
  exact Work.leaves_onSource (keeps.addBatch _)

theorem leaves_update (statement : StatementId) :
    Leaves (Scene.books ledger) (handler.update pipeline statement) := by
  rw [update, plain.call_eq]
  apply (Work.leaves_onSource (keeps.update _)).bind
  intro count
  apply (handler.leaves_assignKeys keeps _).bind
  intro _
  split
  · rw [readOutputs, plain.call_eq]
    exact (leaves_readFrom keeps _ _ _).bind fun _ => Leaves.pure _
  · exact Leaves.pure _

theorem leaves_query (statement : StatementId) :
    Leaves (Scene.books ledger) (handler.query pipeline statement) := by
  rw [query, plain.call_eq]
  apply (Work.leaves_onSource (keeps.query _)).bind
  intro results
  rw [mapResults, plain.call_eq]
  exact Leaves.lift _

theorem meets_prepareInTransaction :
    Meets (Scene.Charged ledger strategy statements rows) (handler.prepareInTransaction pipeline)
      (fun st => Scene.Charged ledger strategy (st :: statements) rows)
      (Scene.Charged ledger strategy statements rows) := by
  apply Work.meets_executor
  intro executor _
  apply (Work.meets_onTransaction keeps.meets_obtain).bind
  intro connection
  rw [prepare, plain.call_eq]
  apply Meets.inContext
  apply Work.meets_onSource
  intro transaction state accounts
  rcases keeps.prepare connection (handler.preparedSql pipeline)
    (handler.prepareOptions pipeline executor.transaction.timeout) state with
    ⟨e, after, failed, same⟩ | ⟨id, after, prepared, rfl, kept⟩
  · rw [failed]
    refine ⟨fun _ no => (by cases no), fun _ _ => ?_⟩
    change (ledger after).Accounts transaction statements rows
    rw [same]
    exact accounts
  · rw [prepared]
    refine ⟨fun st done => ?_, fun _ no => by cases no⟩
    obtain rfl := Except.ok.inj done
    change (ledger after).Accounts transaction (_ :: statements) rows
    rw [kept]
    exact accounts.opening_statement

theorem meets_queryCursor (st : StatementId) :
    Meets (Scene.Charged ledger strategy (st :: statements) rows) (handler.queryCursor pipeline st)
      (fun cursor scene => cursor.isOpen ∧ scene.Charged ledger strategy
        (cursor.statement.toList ++ statements) (cursor.rows.toList ++ rows))
      (Scene.Charged ledger strategy statements rows) := by
  rw [queryCursor, plain.call_eq]
  change Meets _ (handler.openCursor pipeline st) _ _
  unfold openCursor
  have opened : Meets (Scene.Charged ledger strategy (st :: statements) rows)
      (Work.onSource (pipeline.source.openRows st) >>= fun rows => handler.mapCursor pipeline rows)
      (fun cursor scene => cursor.state = .created ∧
        scene.Charged ledger strategy (st :: statements) (cursor.rows.toList ++ rows))
      (Scene.Charged ledger strategy (st :: statements) rows) := by
    have rows : Meets (Scene.Charged ledger strategy (st :: statements) rows)
        (Work.onSource (pipeline.source.openRows st))
        (fun opened => Scene.Charged ledger strategy (st :: statements) (opened :: rows))
        (Scene.Charged ledger strategy (st :: statements) rows) := by
      apply Work.meets_onSource
      intro transaction state accounts
      rcases keeps.openRows st state with ⟨e, after, failed, same⟩ | ⟨id, after, went, rfl, kept⟩
      · rw [failed]
        refine ⟨fun _ no => (by cases no), fun _ _ => ?_⟩
        change (ledger after).Accounts transaction (st :: statements) rows
        rw [same]
        exact accounts
      · rw [went]
        refine ⟨fun opened done => ?_, fun _ no => by cases no⟩
        obtain rfl := Except.ok.inj done
        change (ledger after).Accounts transaction (st :: statements) (_ :: rows)
        rw [kept]
        exact accounts.opening_rows
    apply rows.bind
    intro opened
    rw [mapCursor, plain.call_eq]
    exact Meets.pure fun scene charged => ⟨rfl, charged⟩
  -- a cursor takes the statement along; where none was opened, the statement is discarded here
  apply opened.attempt.bind
  intro result
  cases result with
  | ok cursor =>
      have attached : Meets
          (fun scene => cursor.state = .created ∧
            scene.Charged ledger strategy (st :: statements) (cursor.rows.toList ++ rows))
          (Work.onSource (Action.beside cursor (Cursor.attachStatement pipeline.source st)))
          (fun given scene => given.2.isOpen ∧ scene.Charged ledger strategy
            (given.2.statement.toList ++ statements) (given.2.rows.toList ++ rows))
          (Scene.Charged ledger strategy statements rows) := by
        rintro scene ⟨created, charged⟩
        have ran : Work.onSource (Action.beside cursor
            (Cursor.attachStatement pipeline.source st)) scene =
            (.ok (.ok (), { cursor with statement := some st }), scene) := by
          simp only [Work.onSource, Action.within, Action.beside, attachStatement_of_created created]
        rw [ran]
        refine ⟨fun given done => ?_, fun _ no => by cases no⟩
        obtain rfl := Except.ok.inj done
        exact ⟨by simp [Cursor.isOpen, created], charged⟩
      refine (attached.bind fun given => ?_).weaken (fun _ held => held.1 cursor rfl) (fun _ _ => id)
        fun _ => id
      exact Meets.pure fun _ => id
  | error e =>
      refine ((keeps.meets_discard st).bind fun _ => ?_).weaken (fun _ held => held.2 e rfl)
        (fun _ _ => id) fun _ => id
      exact Meets.throw fun _ => id

end Handler

end MappedSql
