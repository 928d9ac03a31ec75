import MappedSql.Execution.Executor
import MappedSql.Proofs.Database.Isolation

namespace MappedSql

structure RegisterTransaction where
  base : Int64
  updates : List String := []

structure Register where
  committed : Int64 := 0
  transactions : List (Option RegisterTransaction) := []
  statements : List (Option Prepared) := []

namespace Register

def raises (sql : String) : Bool :=
  sql == "raise n"

def answer (number : Int64) (request : Request) : ResultSet where
  rows := [⟨["n", "v"], [.int number, (request.placed 1).getD .null]⟩]
  columns := some ["n", "v"]

end Register

def RegisterTransaction.view (transaction : RegisterTransaction) : Int64 :=
  transaction.base + Int64.ofNat (transaction.updates.countP Register.raises)

namespace Register

variable (register : Register)

def transaction (connection : ConnectionId) : Option RegisterTransaction :=
  (register.transactions[connection]?).join

def statement (id : StatementId) : Option Prepared :=
  (register.statements[id]?).join

def begun (connection : ConnectionId) : RegisterTransaction :=
  (register.transaction connection).getD { base := register.committed }

def stand (connection : ConnectionId) (transaction : Option RegisterTransaction) : Register :=
  { register with transactions := register.transactions.set connection transaction }

def change (id : StatementId) (statement : Option Prepared) : Register :=
  { register with statements := register.statements.set id statement }

def run (id : StatementId) (updating : Bool) : Register :=
  match register.statement id with
  | some ⟨connection, request⟩ =>
      let transaction := register.begun connection
      register.stand connection (some { transaction with
        updates := if updating then request.sql :: transaction.updates else transaction.updates })
  | none => register

def commit (connection : ConnectionId) : Register :=
  match register.transaction connection with
  | some transaction =>
      { register.stand connection none with
        committed :=
          if transaction.updates.any raises then transaction.view else register.committed }
  | none => register

def place (id : StatementId) (position : Nat) (value : Value) : Register :=
  match register.statement id with
  | some ⟨connection, request⟩ =>
      register.change id (some ⟨connection, request.place position value⟩)
  | none => register

def answerOf (id : StatementId) : ResultSet :=
  match register.statement id with
  | some ⟨connection, request⟩ => answer (register.begun connection).view request
  | none => answer register.committed (.unplaced "")

def source : DataSource Register where
  connect _ := fun register =>
    (.ok register.transactions.length,
      { register with transactions := register.transactions ++ [none] })
  isAutocommit _ _ := false
  commit connection := modify (commit · connection)
  rollback connection := modify (stand · connection none)
  closeConnection connection := modify (stand · connection none)
  dropConnection connection := (stand · connection none)
  prepare connection sql _ := fun register =>
    (.ok register.statements.length,
      { register with statements := register.statements ++ [some ⟨connection, .unplaced sql⟩] })
  sql register id := ((register.statement id).map (·.request.sql)).getD ""
  setParameter id position value := modify (place · id position value)
  registerOutput _ _ _ := return ()
  output _ _ := return .null
  clearParameters _ := return ()
  update id := fun register => (.ok 1, register.run id true)
  query id := fun register => (.ok (register.answerOf id), register.run id false)
  openRows id := fun register => (.ok 0, register.run id false)
  addBatch _ := return ()
  executeBatch id := fun register => (.ok [], register.run id true)
  generatedKeys _ := return []
  closeStatement _ := return ()
  isClosed register id := (register.statement id).isNone
  dropStatement id := (change · id none)
  columns _ _ := ["n", "v"]
  nextRow _ := return none
  closeRows _ := return ()
  dropRows _ := id

end Register

theorem RegisterTransaction.view_of_none {transaction : RegisterTransaction}
    (none : transaction.updates.countP Register.raises = 0) : transaction.view = transaction.base := by
  rw [view, none]
  exact Int64.add_zero _

def RegisterTransaction.standing (transaction : RegisterTransaction) : Standing where
  base := Register.answer transaction.base
  view := Register.answer transaction.view
  updates := transaction.updates

namespace Register

def picture : Picture Register where
  committed register := answer register.committed
  isOpen register c := c < register.transactions.length
  standing register c := (register.transaction c).map RegisterTransaction.standing
  prepared := statement
  changes sql _ := raises sql

variable {register : Register}

theorem transaction_stand_self {c : ConnectionId} (isOpen : c < register.transactions.length)
    (transaction : Option RegisterTransaction) :
    (register.stand c transaction).transaction c = transaction := by
  simp only [Register.transaction, stand, List.getElem?_set_self isOpen, Option.join_some]

theorem transaction_stand_of_ne {c other : ConnectionId} (differ : other ≠ c)
    (transaction : Option RegisterTransaction) :
    (register.stand c transaction).transaction other = register.transaction other := by
  simp only [Register.transaction, stand, List.getElem?_set_ne differ.symm]

theorem standing_stand_of_ne {c other : ConnectionId} (differ : other ≠ c)
    (transaction : Option RegisterTransaction) :
    picture.standing (register.stand c transaction) other = picture.standing register other := by
  simp only [picture, transaction_stand_of_ne differ]

theorem isOpen_stand (c other : ConnectionId) (transaction : Option RegisterTransaction)
    (isOpen : picture.isOpen register other) :
    picture.isOpen (register.stand c transaction) other := by
  simpa only [picture, stand, List.length_set] using isOpen

theorem statement_change_self {id : StatementId} {found : Prepared}
    (present : register.statement id = some found) (statement : Option Prepared) :
    (register.change id statement).statement id = statement := by
  have inside : id < register.statements.length := by
    by_contra outside
    rw [Register.statement, List.getElem?_eq_none (Nat.le_of_not_lt outside)] at present
    cases present
  simp only [Register.statement, change, List.getElem?_set_self inside, Option.join_some]

theorem statement_change_of_ne {id other : StatementId} (differ : other ≠ id)
    (statement : Option Prepared) :
    (register.change id statement).statement other = register.statement other := by
  simp only [Register.statement, change, List.getElem?_set_ne differ.symm]

theorem keeps_change (id : StatementId) (statement : Option Prepared) :
    picture.Keeps (· = id) register (register.change id statement) where
  committed := rfl
  isOpen := fun _ isOpen => isOpen
  standing := fun _ _ => rfl
  statements := fun _ _ apart found => (statement_change_of_ne apart statement).trans found

theorem ends_stand (c : ConnectionId) (transaction : Option RegisterTransaction) :
    picture.Ends c register (register.stand c transaction) where
  isOpen := fun other isOpen => isOpen_stand c other transaction isOpen
  others := fun _ _ differ => standing_stand_of_ne differ transaction
  statements := fun _ _ found => found

theorem closes_stand (c : ConnectionId) : picture.Closes c register (register.stand c none) where
  committed := rfl
  isOpen := fun other isOpen _ => isOpen_stand c other none isOpen
  others := fun _ _ differ => standing_stand_of_ne differ none
  statements := fun _ _ found _ => found

theorem spends_refl (id : StatementId) (register : Register) : picture.Spends id register register :=
  ⟨.refl _ _, fun prepared found => ⟨prepared.request, found, .refl _⟩⟩

theorem run_apply {id : StatementId} {prepared : Prepared}
    (found : register.statement id = some prepared) (updating : Bool) :
    register.run id updating = register.stand prepared.connection
      (some { register.begun prepared.connection with
        updates := if updating then
            prepared.request.sql :: (register.begun prepared.connection).updates
          else (register.begun prepared.connection).updates }) := by
  rw [run, found]

theorem standing_begun (c : ConnectionId) :
    Standing.baseOf (picture.committed register) (picture.standing register c) =
        (register.begun c).standing.base ∧
      Standing.viewOf (picture.committed register) (picture.standing register c) =
        (register.begun c).standing.view ∧
      Standing.updatesOf (picture.standing register c) = (register.begun c).updates := by
  unfold begun picture
  dsimp only
  cases register.transaction c with
  | some transaction => exact ⟨rfl, rfl, rfl⟩
  | none =>
      refine ⟨rfl, ?_, rfl⟩
      have view : RegisterTransaction.view { base := register.committed } = register.committed :=
        RegisterTransaction.view_of_none rfl
      exact congrArg answer view.symm

theorem runs_run {id : StatementId} {prepared : Prepared}
    (found : register.statement id = some prepared) (isOpen : picture.isOpen register prepared.connection)
    (updating : Bool) :
    picture.Runs (fun sql => updating ∧ sql = prepared.request.sql) id prepared register
      (register.run id updating) := by
  rw [run_apply found]
  have stands := @transaction_stand_self register _ isOpen
  obtain ⟨base, view, updates⟩ := @standing_begun register prepared.connection
  refine ⟨rfl, fun c => isOpen_stand _ c _, fun c _ differ =>
    standing_stand_of_ne differ _, ?_, fun _ _ _ present => present,
    ⟨prepared.request, found, .refl _⟩⟩
  have standing (transaction : RegisterTransaction) :
      picture.standing (register.stand prepared.connection (some transaction)) prepared.connection =
        some transaction.standing := by
    simp only [picture, stands, Option.map_some]
  rw [standing]
  refine ⟨by rintro ⟨⟩, base.symm, fun request untouched => ?_, fun sql mem => ?_⟩
  · rw [view]
    cases updating with
    | false => rfl
    | true =>
        have quiet := untouched _ ⟨rfl, rfl⟩
        have same : (prepared.request.sql :: (register.begun prepared.connection).updates).countP
            raises = (register.begun prepared.connection).updates.countP raises :=
          List.countP_cons_of_neg quiet
        simp only [Standing.viewOf, RegisterTransaction.standing, RegisterTransaction.view, if_true,
          same]
  · rw [updates]
    cases updating with
    | false => exact .inl mem
    | true =>
        rcases List.mem_cons.1 mem with rfl | mem
        · exact .inr ⟨rfl, rfl⟩
        · exact .inl mem

theorem commit_of_none {c : ConnectionId} (unbegun : register.transaction c = none) :
    register.commit c = register := by
  rw [commit, unbegun]

theorem commit_of_some {c : ConnectionId} {transaction : RegisterTransaction}
    (begun : register.transaction c = some transaction) :
    register.commit c = { register.stand c none with
      committed := if transaction.updates.any raises then transaction.view
        else register.committed } := by
  rw [commit, begun]

theorem ends_commit (c : ConnectionId) : picture.Ends c register (register.commit c) := by
  cases begun : register.transaction c with
  | none =>
      rw [commit_of_none begun]
      exact ⟨fun _ => id, fun _ _ _ => rfl, fun _ _ => id⟩
  | some transaction =>
      rw [commit_of_some begun]
      have ends := @ends_stand register c none
      exact ⟨ends.isOpen, ends.others, ends.statements⟩

theorem committed_commit {c : ConnectionId} (isOpen : picture.isOpen register c) :
    picture.standing (register.commit c) c = none ∧
      (∀ request, (∀ sql ∈ Standing.updatesOf (picture.standing register c),
        ¬picture.changes sql request) →
        picture.committed (register.commit c) request = picture.committed register request) ∧
      (Standing.baseOf (picture.committed register) (picture.standing register c) =
        picture.committed register →
        picture.committed (register.commit c) =
          Standing.viewOf (picture.committed register) (picture.standing register c)) := by
  cases begun : register.transaction c with
  | none =>
      have standing : picture.standing register c = none := by simp only [picture, begun, Option.map_none]
      rw [commit_of_none begun, standing]
      exact ⟨rfl, fun _ _ => rfl, fun _ => rfl⟩
  | some transaction =>
      have standing : picture.standing register c = some transaction.standing := by
        simp only [picture, begun, Option.map_some]
      have ended : picture.standing (register.commit c) c = none := by
        rw [commit_of_some begun]
        exact congrArg (Option.map RegisterTransaction.standing) (transaction_stand_self isOpen none)
      refine ⟨ended, ?_⟩
      rw [standing, commit_of_some begun]
      cases raised : transaction.updates.any raises with
      | true =>
          refine ⟨fun request untouched => ?_, fun _ => rfl⟩
          obtain ⟨sql, mem, raises⟩ := List.any_eq_true.1 raised
          exact absurd raises (untouched sql mem)
      | false =>
          have none : transaction.updates.countP raises = 0 := by
            rw [List.countP_eq_zero]
            intro sql mem raises
            exact absurd (List.any_eq_true.2 ⟨sql, mem, raises⟩) (by rw [raised]; exact Bool.false_ne_true)
          refine ⟨fun _ _ => rfl, fun base => ?_⟩
          have view : transaction.standing.view = transaction.standing.base := by
            simp only [RegisterTransaction.standing, RegisterTransaction.view_of_none none]
          exact base.symm.trans view.symm

theorem place_apply {id : StatementId} {prepared : Prepared}
    (found : register.statement id = some prepared) (position : Nat) (value : Value) :
    register.place id position value =
      register.change id (some ⟨prepared.connection, prepared.request.place position value⟩) := by
  rw [place, found]

theorem keeps_place (id : StatementId) (position : Nat) (value : Value) :
    picture.Keeps (· = id) register (register.place id position value) := by
  unfold place
  split
  · exact keeps_change id _
  · exact .refl _ _

theorem isolates : source.Isolates picture where
  manual := fun _ _ _ => rfl
  untouched := by
    rintro register c _ request standing untouched
    obtain ⟨transaction, -, rfl⟩ := Option.map_eq_some_iff.1 standing
    have none : transaction.updates.countP raises = 0 := by
      rw [List.countP_eq_zero]
      exact untouched
    exact congrFun (congrArg answer (RegisterTransaction.view_of_none none)) request
  connect := fun register => by
    refine ⟨rfl, fun c isOpen => ?_, fun c isOpen => ?_, fun _ _ _ => id⟩
    · exact Nat.lt_of_lt_of_le isOpen (by simp [source])
    · simp only [picture, source, Register.transaction, List.getElem?_append_left isOpen]
  connected := by
    rintro register _ ⟨⟩
    refine ⟨Nat.lt_irrefl _, ?_, ?_⟩
    · simp [picture, source]
    · simp [picture, source, Register.transaction]
  prepare := fun register c sql options => by
    refine ⟨rfl, fun _ => id, fun _ _ => rfl, fun id found _ present => ?_⟩
    have inside : id < register.statements.length := by
      by_contra outside
      have absent : register.statements[id]? = none :=
        List.getElem?_eq_none (Nat.le_of_not_lt outside)
      simp only [picture, Register.statement, absent] at present
      cases present
    have kept : (register.statements ++ [some ⟨c, .unplaced sql⟩])[id]? = register.statements[id]? :=
      List.getElem?_append_left inside
    simpa only [picture, source, Register.statement, kept] using present
  preparedOf := by
    rintro register c sql options _ ⟨⟩
    constructor
    · simp [picture, Register.statement]
    · simp [picture, source, Register.statement]
  setParameter := fun _ id position value => keeps_place id position value
  placed := fun register id position value prepared found _ => by
    have placed : (source.setParameter id position value register).2 =
        register.place id position value := rfl
    rw [placed, place_apply found]
    exact statement_change_self found _
  refused := by rintro _ _ _ _ _ _ _ ⟨⟩
  registerOutput := fun register id _ _ => spends_refl id register
  output := fun register id _ => spends_refl id register
  addBatch := fun register id => spends_refl id register
  generatedKeys := fun register id => spends_refl id register
  update := fun register id prepared found isOpen =>
    (runs_run found isOpen true).mono fun _ ran => ran.2
  executeBatch := fun register id prepared found isOpen =>
    (runs_run found isOpen true).mono fun _ ran => ran.2
  query := fun register id prepared found isOpen =>
    (runs_run found isOpen false).mono fun _ ran => Bool.false_ne_true ran.1
  answer := by
    rintro register id prepared _ found isOpen ⟨⟩
    constructor
    · have ran : (source.query id register).2 = register.run id false := rfl
      rw [ran, run_apply found]
      simp only [picture, transaction_stand_self isOpen]
      rintro ⟨⟩
    · have present : register.statement id = some prepared := found
      rw [(standing_begun prepared.connection).2.1, answerOf, present]
      rfl
  openRows := fun register id prepared found isOpen =>
    (runs_run found isOpen false).mono fun _ ran => Bool.false_ne_true ran.1
  nextRow := fun _ _ => .refl _ _
  closeRows := fun _ _ => .refl _ _
  dropRows := fun _ _ => .refl _ _
  closeStatement := fun _ _ => .refl _ _
  dropStatement := fun _ id => keeps_change id none
  commit := fun _ c _ => ends_commit c
  uncommitted := by rintro _ _ _ _ ⟨⟩
  committed := fun _ _ isOpen _ => committed_commit isOpen
  rollback := fun _ c isOpen => ⟨ends_stand c none, rfl,
    congrArg (Option.map RegisterTransaction.standing) (transaction_stand_self isOpen none)⟩
  closeConnection := fun _ c => closes_stand c
  dropConnection := fun _ c => closes_stand c

def pipeline (statements : List MappedStatement) : Pipeline Register where
  configuration :=
    { settings := {}
      databaseId := none
      registry := .initial
      rules := {}
      statements := statements.map fun statement => (statement.id, statement)
      mappers := []
      chain := []
      source := some source }
  source := source

def statementOf (id : String) (command : Command) (source : SqlSource) (cache : Option String) :
    MappedStatement where
  id := id
  command := command
  kind := .prepared
  source := source
  parameterType := .any
  cache := cache
  useCache := command == .select
  flushCache := command != .select
  timeout := none
  fetchSize := none
  scrolling := none
  keys := {}
  mapper := .map
  databaseId := none

def plainly (id : String) (command : Command) (sql : String) : MappedStatement :=
  statementOf id command (.static ⟨sql, []⟩) (some "c")

def reading : MappedStatement :=
  plainly "q" .select "select n"

def raising : MappedStatement :=
  plainly "u" .update "raise n"

def documents (rows : List Value) : List String :=
  rows.map fun row => row.toJson.compact

end Register

end MappedSql
