import MappedSql.Proofs.Storage.Answering

namespace MappedSql.Storage

abbrev Task := String × List StoredValue

/-- What there is in a store: what is committed, what statements see, and what a task makes of that. -/
structure Contents (ε δ : Type) where
  Valid : ε → Prop
  committed : ε → δ
  working : ε → δ
  Effect : Task → δ → δ → Prop

variable {ε δ α : Type}

/-- Tasks that one after the other turn some contents into others. -/
inductive Contents.Replays (contents : Contents ε δ) : List Task → δ → δ → Prop
  | nil (data : δ) : Replays contents [] data data
  | cons {task : Task} {rest : List Task} {first second third : δ} :
      contents.Effect task first second → Replays contents rest second third →
        Replays contents (task :: rest) first third

namespace Contents

variable {contents : Contents ε δ}

theorem Replays.single {task : Task} {first second : δ} (effect : contents.Effect task first second) :
    contents.Replays [task] first second :=
  .cons effect (.nil second)

theorem Replays.append {tasks others : List Task} {first second third : δ}
    (before : contents.Replays tasks first second) (after : contents.Replays others second third) :
    contents.Replays (tasks ++ others) first third := by
  induction before with
  | nil => exact after
  | cons effect _ ih => exact .cons effect (ih after)

/-- Nothing was committed in between; if a transaction is open then, some tasks were performed. -/
structure Advances (contents : Contents ε δ) (engine : Engine ε) (tasks : List Task)
    (before after : ε) : Prop where
  valid : contents.Valid after
  committed : contents.committed after = contents.committed before
  working : engine.inTransaction after = true →
    contents.Replays tasks (contents.working before) (contents.working after)

/-- Nothing was changed that is committed or that statements see. -/
structure Same (contents : Contents ε δ) (before after : ε) : Prop where
  valid : contents.Valid after
  committed : contents.committed after = contents.committed before
  working : contents.working after = contents.working before

variable {engine : Engine ε} {before middle after : ε}

theorem Same.refl (valid : contents.Valid before) : contents.Same before before :=
  ⟨valid, rfl, rfl⟩

theorem Same.advances (same : contents.Same before after) :
    contents.Advances engine [] before after :=
  ⟨same.valid, same.committed, fun _ => same.working ▸ .nil _⟩

theorem Same.trans (first : contents.Same before middle) (second : contents.Same middle after) :
    contents.Same before after :=
  ⟨second.valid, second.committed.trans first.committed, second.working.trans first.working⟩

theorem Advances.after_same {tasks : List Task} (same : contents.Same before middle)
    (advances : contents.Advances engine tasks middle after) :
    contents.Advances engine tasks before after :=
  ⟨advances.valid, advances.committed.trans same.committed, same.working ▸ advances.working⟩

theorem Advances.append {tasks others : List Task} (inside : engine.inTransaction middle = true)
    (first : contents.Advances engine tasks before middle)
    (second : contents.Advances engine others middle after) :
    contents.Advances engine (tasks ++ others) before after :=
  ⟨second.valid, second.committed.trans first.committed, fun still =>
    (first.working inside).append (second.working still)⟩

end Contents

def seenThrough (result : Except Error α) (tasks : List Task) : List Task :=
  if result.isOk then tasks else []

namespace Engine

variable (engine : Engine ε) (contents : Contents ε δ)

def Preserves (act : Action ε α) : Prop :=
  ∀ ⦃store after result⦄, contents.Valid store → act store = (result, after) →
    contents.Same store after ∧ engine.inTransaction after = engine.inTransaction store

/-- In a transaction an action does tasks and leaves the transaction open. If it fails the tasks are
not done, and the transaction may be over. -/
def Performs (tasks : List Task) (act : Action ε α) : Prop :=
  ∀ ⦃store after result⦄, contents.Valid store → engine.inTransaction store = true →
    act store = (result, after) →
      contents.Advances engine (seenThrough result tasks) store after ∧
        (result.isOk = true → engine.inTransaction after = true)

/-- The laws of a store with transactions. -/
structure Transacts : Prop where
  settled : ∀ {store}, contents.Valid store → engine.inTransaction store = false →
    contents.working store = contents.committed store
  begins : ∀ {store after result}, contents.Valid store → engine.inTransaction store = false →
    engine.begin store = (result, after) →
      contents.Same store after ∧ (result.isOk = true → engine.inTransaction after = true)
  commits : ∀ {store after done}, contents.Valid store → engine.inTransaction store = true →
    engine.commit store = (.ok done, after) →
      contents.Valid after ∧ engine.inTransaction after = false ∧
        contents.committed after = contents.working store
  failsToCommit : ∀ {store after e}, contents.Valid store → engine.inTransaction store = true →
    engine.commit store = (.error e, after) → contents.Advances engine [] store after
  rollsBack : ∀ {store after result}, contents.Valid store → engine.inTransaction store = true →
    engine.rollback store = (result, after) →
      contents.Advances engine [] store after ∧
        (result.isOk = true → engine.inTransaction after = false)
  prepares : ∀ sql, engine.Preserves contents (engine.prepare sql)
  binds : ∀ sql parameters, engine.Preserves contents (engine.bind sql parameters)
  executes : ∀ sql parameters,
    engine.Performs contents [(sql, parameters)] (engine.execute sql parameters)
  queries : ∀ sql parameters,
    engine.Performs contents [(sql, parameters)] (engine.query sql parameters)

variable {engine contents}

theorem Preserves.performs {act : Action ε α} (preserves : engine.Preserves contents act) :
    engine.Performs contents [] act := by
  intro store after result valid inside ran
  obtain ⟨same, inside'⟩ := preserves valid ran
  rw [seenThrough, ite_self]
  exact ⟨same.advances, fun _ => inside'.trans inside⟩

theorem Preserves.map {act : Action ε α} {β : Type} (preserves : engine.Preserves contents act)
    (f : α → β) : engine.Preserves contents (do return f (← act)) := by
  intro store after result valid ran
  obtain ⟨e, failed, rfl⟩ | ⟨a, middle, went, same⟩ := Action.bind_cases ran
  · exact preserves valid failed
  · cases same
    exact preserves valid went

theorem Performs.map {tasks : List Task} {act : Action ε α} {β : Type}
    (performs : engine.Performs contents tasks act) (f : α → β) :
    engine.Performs contents tasks (do return f (← act)) := by
  intro store after result valid inside ran
  obtain ⟨e, failed, rfl⟩ | ⟨a, middle, went, same⟩ := Action.bind_cases ran
  · exact performs valid inside failed
  · cases same
    exact performs valid inside went

end Engine

namespace Worker

variable {engine : Engine ε} {contents : Contents ε δ} {store after : ε}

def executed (engine : Engine ε) (sql : String) : List (List StoredValue) → ε → List Task
  | [], _ => []
  | parameters :: rest, store =>
      match engine.execute sql parameters store with
      | (.ok _, store) => (sql, parameters) :: executed engine sql rest store
      | (.error _, _) => []

section executed

variable {sql : String} {returnKeys : Bool} {parameters : List StoredValue}
  {rest : List (List StoredValue)}

theorem executed_of_error {e : Error}
    (failed : executeOnce engine sql returnKeys parameters store = (.error e, after)) :
    executed engine sql (parameters :: rest) store = [] := by
  obtain ⟨e', failed', -⟩ | ⟨count, middle, -, read⟩ := Action.bind_cases failed
  · rw [executed, failed']
  · cases read

theorem executed_of_ok {once : Nat × List Value}
    (went : executeOnce engine sql returnKeys parameters store = (.ok once, after)) :
    executed engine sql (parameters :: rest) store =
      (sql, parameters) :: executed engine sql rest after := by
  obtain ⟨e, -, failed⟩ | ⟨count, middle, went', read⟩ := Action.bind_cases went
  · cases failed
  · cases read
    rw [executed, went']

end executed

section laws

variable (laws : engine.Transacts contents)
include laws

theorem start_same {sql : String} {result : Except Error Columns} (valid : contents.Valid store)
    (started : start engine false sql store = (result, after)) :
    contents.Same store after ∧ (result.isOk = true → engine.inTransaction after = true) := by
  have prepared : ∀ {middle}, contents.Same store middle → engine.inTransaction middle = true →
      engine.prepare sql middle = (result, after) →
        contents.Same store after ∧ (result.isOk = true → engine.inTransaction after = true) := by
    intro middle same inside prepared
    obtain ⟨same', inside'⟩ := laws.prepares sql same.valid prepared
    exact ⟨same.trans same', fun _ => inside'.trans inside⟩
  cases inside : engine.inTransaction store with
  | true =>
      have skipped : start engine false sql store = engine.prepare sql store := by
        rw [start, beginIfNeeded, Action.bind_apply, Action.bind_apply, Action.get_apply]
        simp only [inside]
        rfl
      exact prepared (.refl valid) inside (skipped.symm.trans started)
  | false =>
      have begun : start engine false sql store =
          (engine.begin >>= fun _ => engine.prepare sql) store := by
        rw [start, beginIfNeeded, Action.bind_apply, Action.bind_apply, Action.get_apply]
        simp only [inside]
        rfl
      obtain ⟨e, failed, rfl⟩ | ⟨done, middle, began, rest⟩ :=
        Action.bind_cases (begun.symm.trans started)
      · exact ⟨(laws.begins valid inside failed).1, fun no => by cases no⟩
      · obtain ⟨same, inside'⟩ := laws.begins valid inside began
        exact prepared same (inside' rfl) rest

theorem start_performs {sql : String} {tasks : List Task} {next : Columns → Action ε α}
    (performs : ∀ columns, engine.Performs contents tasks (next columns))
    {result : Except Error α} (valid : contents.Valid store)
    (ran : (start engine false sql >>= next) store = (result, after)) :
    contents.Advances engine (seenThrough result tasks) store after ∧
      (result.isOk = true → engine.inTransaction after = true) := by
  obtain ⟨e, failed, rfl⟩ | ⟨columns, middle, started, rest⟩ := Action.bind_cases ran
  · exact ⟨(start_same laws valid failed).1.advances, fun no => by cases no⟩
  · obtain ⟨same, inside⟩ := start_same laws valid started
    obtain ⟨advances, inside'⟩ := performs columns same.valid (inside rfl) rest
    exact ⟨advances.after_same same, inside'⟩

theorem executeOnce_performs (sql : String) (returnKeys : Bool) (parameters : List StoredValue) :
    engine.Performs contents [(sql, parameters)]
      (executeOnce engine sql returnKeys parameters) := by
  intro store after result valid inside ran
  obtain ⟨e, failed, rfl⟩ | ⟨count, middle, executed, rest⟩ := Action.bind_cases ran
  · exact laws.executes sql parameters valid inside failed
  · cases rest
    exact laws.executes sql parameters valid inside executed

theorem executeEntries_advances {sql : String} {returnKeys : Bool}
    {entries : List (List StoredValue)} {result : Except Error (List Nat × List Value)}
    (valid : contents.Valid store) (inside : engine.inTransaction store = true)
    (ran : executeEntries engine sql returnKeys entries store = (result, after)) :
    contents.Advances engine (executed engine sql entries store) store after ∧
      (result.isOk = true → engine.inTransaction after = true) := by
  induction entries generalizing store after result with
  | nil =>
      cases ran
      exact ⟨(Contents.Same.refl valid).advances, fun _ => inside⟩
  | cons parameters rest ih =>
      rw [executeEntries] at ran
      obtain ⟨e, failed, rfl⟩ | ⟨once, middle, first, others⟩ := Action.bind_cases ran
      · rw [executed_of_error failed]
        exact executeOnce_performs laws sql returnKeys parameters valid inside failed
      · rw [executed_of_ok first]
        obtain ⟨advances, opens⟩ :=
          executeOnce_performs laws sql returnKeys parameters valid inside first
        have inside' := opens rfl
        obtain ⟨e, failed, rfl⟩ | ⟨more, last, went, same⟩ := Action.bind_cases others
        · obtain ⟨advances', inside''⟩ := ih advances.valid inside' failed
          exact ⟨advances.append inside' advances', inside''⟩
        · cases same
          obtain ⟨advances', inside''⟩ := ih advances.valid inside' went
          exact ⟨advances.append inside' advances', fun _ => inside'' rfl⟩

end laws

end Worker

end MappedSql.Storage
