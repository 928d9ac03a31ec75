import Mathlib.Logic.Function.Basic
import MappedSql.Database.Basic

namespace MappedSql

variable {σ : Type}

/-- What is asked of a database: SQL, and the values at the positions of its parameters. -/
structure Request where
  sql : String
  placed : Nat → Option Value

abbrev Data := Request → ResultSet

structure Prepared where
  connection : ConnectionId
  request : Request

/-- A transaction that has begun: the data it began with, those that it sees, and the SQL of its
updates. -/
structure Standing where
  base : Data
  view : Data
  updates : List String

/-- What the states of a data source are about, and which SQL changes what a request is answered. -/
structure Picture (σ : Type) where
  committed : σ → Data
  isOpen : σ → ConnectionId → Prop
  standing : σ → ConnectionId → Option Standing
  prepared : σ → StatementId → Option Prepared
  changes : String → Request → Prop

namespace Request

def unplaced (sql : String) : Request :=
  ⟨sql, fun _ => none⟩

def place (request : Request) (position : Nat) (value : Value) : Request :=
  { request with placed := Function.update request.placed position (some value) }

def placeAll (request : Request) (values : List (Nat × Value)) : Request :=
  values.foldl (fun request entry => request.place entry.1 entry.2) request

theorem placeAll_cons (request : Request) (entry : Nat × Value) (rest : List (Nat × Value)) :
    request.placeAll (entry :: rest) = (request.place entry.1 entry.2).placeAll rest :=
  rfl

theorem placeAll_congr {left right : Request} (sql : left.sql = right.sql)
    {values : List (Nat × Value)}
    (agree : ∀ position, position ∉ values.map Prod.fst →
      left.placed position = right.placed position) :
    left.placeAll values = right.placeAll values := by
  induction values generalizing left right with
  | nil =>
      obtain ⟨leftSql, leftPlaced⟩ := left
      obtain ⟨rightSql, rightPlaced⟩ := right
      have same : leftPlaced = rightPlaced := funext fun position => agree position (by simp)
      cases sql
      cases same
      rfl
  | cons entry rest ih =>
      rw [placeAll_cons, placeAll_cons]
      apply @ih (left.place entry.1 entry.2) (right.place entry.1 entry.2) sql
      intro position missing
      by_cases same : position = entry.1
      · subst same
        simp [place]
      · have kept := agree position (by simp [same, missing])
        simpa [place, Function.update_of_ne same] using kept

structure Within (less more : Request) : Prop where
  sql : less.sql = more.sql
  placed : ∀ position, less.placed position ≠ none → more.placed position ≠ none

theorem Within.refl (request : Request) : request.Within request :=
  ⟨rfl, fun _ placed => placed⟩

end Request

namespace Standing

variable (committed : Data)

def baseOf : Option Standing → Data
  | some standing => standing.base
  | none => committed

def viewOf : Option Standing → Data
  | some standing => standing.view
  | none => committed

def updatesOf : Option Standing → List String
  | some standing => standing.updates
  | none => []

end Standing

open Standing (baseOf viewOf updatesOf)

namespace Picture

variable (picture : Picture σ)

def Arises (data : Data) : Prop :=
  ∃ state c standing, picture.standing state c = some standing ∧ standing.view = data

structure Advances (runs : String → Prop) (committed : Data) (before after : Option Standing) :
    Prop where
  begun : after = none → before = none
  base : baseOf committed after = baseOf committed before
  view : ∀ request, (∀ sql, runs sql → ¬picture.changes sql request) →
    viewOf committed after request = viewOf committed before request
  updates : ∀ sql ∈ updatesOf after, sql ∈ updatesOf before ∨ runs sql

structure Keeps (but : StatementId → Prop) (before after : σ) : Prop where
  committed : picture.committed after = picture.committed before
  isOpen : ∀ c, picture.isOpen before c → picture.isOpen after c
  standing : ∀ c, picture.isOpen before c → picture.standing after c = picture.standing before c
  statements : ∀ st prepared, ¬but st → picture.prepared before st = some prepared →
    picture.prepared after st = some prepared

structure Spends (st : StatementId) (before after : σ) : Prop where
  keeps : picture.Keeps (· = st) before after
  spent : ∀ prepared, picture.prepared before st = some prepared →
    ∃ request, picture.prepared after st = some ⟨prepared.connection, request⟩ ∧
      request.Within prepared.request

structure Runs (runs : String → Prop) (st : StatementId) (prepared : Prepared) (before after : σ) :
    Prop where
  committed : picture.committed after = picture.committed before
  isOpen : ∀ c, picture.isOpen before c → picture.isOpen after c
  others : ∀ c, picture.isOpen before c → c ≠ prepared.connection →
    picture.standing after c = picture.standing before c
  own : picture.Advances runs (picture.committed before)
    (picture.standing before prepared.connection) (picture.standing after prepared.connection)
  statements : ∀ other found, other ≠ st → picture.prepared before other = some found →
    picture.prepared after other = some found
  spent : ∃ request, picture.prepared after st = some ⟨prepared.connection, request⟩ ∧
    request.Within prepared.request

structure Ends (connection : ConnectionId) (before after : σ) : Prop where
  isOpen : ∀ c, picture.isOpen before c → picture.isOpen after c
  others : ∀ c, picture.isOpen before c → c ≠ connection →
    picture.standing after c = picture.standing before c
  statements : ∀ st prepared, picture.prepared before st = some prepared →
    picture.prepared after st = some prepared

structure Closes (connection : ConnectionId) (before after : σ) : Prop where
  committed : picture.committed after = picture.committed before
  isOpen : ∀ c, picture.isOpen before c → c ≠ connection → picture.isOpen after c
  others : ∀ c, picture.isOpen before c → c ≠ connection →
    picture.standing after c = picture.standing before c
  statements : ∀ st prepared, picture.prepared before st = some prepared →
    prepared.connection ≠ connection → picture.prepared after st = some prepared

variable {picture}

theorem Advances.refl (runs : String → Prop) (committed : Data) (standing : Option Standing) :
    picture.Advances runs committed standing standing :=
  ⟨id, rfl, fun _ _ => rfl, fun _ mem => .inl mem⟩

theorem Advances.trans {runs : String → Prop} {committed : Data} {first second third : Option Standing}
    (left : picture.Advances runs committed first second)
    (right : picture.Advances runs committed second third) :
    picture.Advances runs committed first third where
  begun := fun none => left.begun (right.begun none)
  base := right.base.trans left.base
  view := fun request apart => (right.view request apart).trans (left.view request apart)
  updates := fun sql mem => (right.updates sql mem).elim (left.updates sql) .inr

theorem Advances.mono {runs more : String → Prop} {committed : Data} {before after : Option Standing}
    (advances : picture.Advances runs committed before after) (grows : ∀ sql, runs sql → more sql) :
    picture.Advances more committed before after where
  begun := advances.begun
  base := advances.base
  view := fun request apart => advances.view request fun sql ran => apart sql (grows sql ran)
  updates := fun sql mem => (advances.updates sql mem).imp_right (grows sql)

theorem Runs.mono {runs more : String → Prop} {st : StatementId} {prepared : Prepared}
    {before after : σ} (ran : picture.Runs runs st prepared before after)
    (grows : ∀ sql, runs sql → more sql) : picture.Runs more st prepared before after :=
  { ran with own := ran.own.mono grows }

theorem Keeps.refl (but : StatementId → Prop) (state : σ) : picture.Keeps but state state :=
  ⟨rfl, fun _ isOpen => isOpen, fun _ _ => rfl, fun _ _ _ found => found⟩

theorem Keeps.trans {but : StatementId → Prop} {first second third : σ}
    (left : picture.Keeps but first second) (right : picture.Keeps but second third) :
    picture.Keeps but first third where
  committed := right.committed.trans left.committed
  isOpen := fun c isOpen => right.isOpen c (left.isOpen c isOpen)
  standing := fun c isOpen =>
    (right.standing c (left.isOpen c isOpen)).trans (left.standing c isOpen)
  statements := fun st found apart before =>
    right.statements st found apart (left.statements st found apart before)

theorem Keeps.mono {but more : StatementId → Prop} {before after : σ}
    (keeps : picture.Keeps but before after) (grows : ∀ st, but st → more st) :
    picture.Keeps more before after where
  committed := keeps.committed
  isOpen := keeps.isOpen
  standing := keeps.standing
  statements := fun st found apart => keeps.statements st found fun but => apart (grows st but)

end Picture

/-- A data source keeps to a picture: transactions see what they began with and their own updates, and
only a commit that goes through changes the committed data. -/
structure DataSource.Isolates (source : DataSource σ) (picture : Picture σ) : Prop where
  manual : ∀ state c, picture.isOpen state c → source.isAutocommit state c = false
  untouched : ∀ state c standing request, picture.standing state c = some standing →
    (∀ sql ∈ standing.updates, ¬picture.changes sql request) →
    standing.view request = standing.base request
  connect : ∀ state, picture.Keeps (fun _ => False) state (source.connect false state).2
  connected : ∀ state c, (source.connect false state).1 = .ok c →
    ¬picture.isOpen state c ∧ picture.isOpen (source.connect false state).2 c ∧
      picture.standing (source.connect false state).2 c = none
  prepare : ∀ state c sql options,
    picture.Keeps (fun _ => False) state (source.prepare c sql options state).2
  preparedOf : ∀ state c sql options st, (source.prepare c sql options state).1 = .ok st →
    picture.prepared state st = none ∧
      picture.prepared (source.prepare c sql options state).2 st = some ⟨c, .unplaced sql⟩
  setParameter : ∀ state st position value,
    picture.Keeps (· = st) state (source.setParameter st position value state).2
  placed : ∀ state st position value prepared, picture.prepared state st = some prepared →
    (source.setParameter st position value state).1 = .ok () →
    picture.prepared (source.setParameter st position value state).2 st =
      some ⟨prepared.connection, prepared.request.place position value⟩
  refused : ∀ state st position value prepared e, picture.prepared state st = some prepared →
    (source.setParameter st position value state).1 = .error e →
    picture.prepared (source.setParameter st position value state).2 st = some prepared
  registerOutput : ∀ state st position type,
    picture.Spends st state (source.registerOutput st position type state).2
  output : ∀ state st position, picture.Spends st state (source.output st position state).2
  addBatch : ∀ state st, picture.Spends st state (source.addBatch st state).2
  generatedKeys : ∀ state st, picture.Spends st state (source.generatedKeys st state).2
  update : ∀ state st prepared, picture.prepared state st = some prepared →
    picture.isOpen state prepared.connection →
    picture.Runs (· = prepared.request.sql) st prepared state (source.update st state).2
  executeBatch : ∀ state st prepared, picture.prepared state st = some prepared →
    picture.isOpen state prepared.connection →
    picture.Runs (· = prepared.request.sql) st prepared state (source.executeBatch st state).2
  query : ∀ state st prepared, picture.prepared state st = some prepared →
    picture.isOpen state prepared.connection →
    picture.Runs (fun _ => False) st prepared state (source.query st state).2
  answer : ∀ state st prepared results, picture.prepared state st = some prepared →
    picture.isOpen state prepared.connection → (source.query st state).1 = .ok results →
    picture.standing (source.query st state).2 prepared.connection ≠ none ∧
      results = viewOf (picture.committed state) (picture.standing state prepared.connection)
        prepared.request
  openRows : ∀ state st prepared, picture.prepared state st = some prepared →
    picture.isOpen state prepared.connection →
    picture.Runs (fun _ => False) st prepared state (source.openRows st state).2
  nextRow : ∀ state rows, picture.Keeps (fun _ => False) state (source.nextRow rows state).2
  closeRows : ∀ state rows, picture.Keeps (fun _ => False) state (source.closeRows rows state).2
  dropRows : ∀ state rows, picture.Keeps (fun _ => False) state (source.dropRows rows state)
  closeStatement : ∀ state st, picture.Keeps (· = st) state (source.closeStatement st state).2
  dropStatement : ∀ state st, picture.Keeps (· = st) state (source.dropStatement st state)
  commit : ∀ state c, picture.isOpen state c → picture.Ends c state (source.commit c state).2
  uncommitted : ∀ state c e, picture.isOpen state c → (source.commit c state).1 = .error e →
    picture.committed (source.commit c state).2 = picture.committed state ∧
      picture.standing (source.commit c state).2 c = picture.standing state c
  committed : ∀ state c, picture.isOpen state c → (source.commit c state).1 = .ok () →
    picture.standing (source.commit c state).2 c = none ∧
      (∀ request, (∀ sql ∈ updatesOf (picture.standing state c), ¬picture.changes sql request) →
        picture.committed (source.commit c state).2 request = picture.committed state request) ∧
      (baseOf (picture.committed state) (picture.standing state c) = picture.committed state →
        picture.committed (source.commit c state).2 =
          viewOf (picture.committed state) (picture.standing state c))
  rollback : ∀ state c, picture.isOpen state c →
    picture.Ends c state (source.rollback c state).2 ∧
      picture.committed (source.rollback c state).2 = picture.committed state ∧
      picture.standing (source.rollback c state).2 c = none
  closeConnection : ∀ state c, picture.Closes c state (source.closeConnection c state).2
  dropConnection : ∀ state c, picture.Closes c state (source.dropConnection c state)

end MappedSql
