import MappedSql.Configuration
import MappedSql.Proofs.Fields
import MappedSql.Proofs.Outcome

namespace MappedSql

theorem withContext_eq_ok {α : Type} {context : Error → String} {result : Except Error α} {a : α} :
    withContext context result = .ok a ↔ result = .ok a := by
  cases result <;> simp

namespace StatementDraft

def Filed (drafts : Fields StatementDraft) : Prop :=
  ∀ entry ∈ drafts, entry.2.id = entry.1

variable {draft : StatementDraft} {drafts : List StatementDraft} {selected after : Fields StatementDraft}

theorem Filed.insert (filed : Filed selected) (draft : StatementDraft) :
    Filed (Fields.insert selected draft.id draft) := by
  intro entry mem
  rcases Fields.eq_or_mem_of_mem_insert mem with rfl | mem
  · rfl
  · exact filed entry mem

theorem Filed.choose (filed : Filed selected) (chosen : choose selected draft = .ok after) :
    Filed after := by
  unfold StatementDraft.choose at chosen
  split at chosen
  · obtain rfl := Except.ok.inj chosen
    exact filed.insert draft
  · split at chosen
    · exact absurd chosen failWith_ne_ok
    · split at chosen
      · obtain rfl := Except.ok.inj chosen
        exact filed.insert draft
      · obtain rfl := Except.ok.inj chosen
        exact filed

theorem Filed.chooseAll {databaseId : Option String} (filed : Filed selected)
    (chosen : chooseAll databaseId selected drafts = .ok after) : Filed after := by
  induction drafts generalizing selected with
  | nil =>
      obtain rfl := Except.ok.inj chosen
      exact filed
  | cons draft rest ih =>
      unfold StatementDraft.chooseAll at chosen
      split at chosen
      · obtain ⟨middle, first, others⟩ := bind_eq_ok.1 chosen
        exact ih (filed.choose first) others
      · exact ih filed chosen

theorem id_of_compile {rules : TemplateRules} {variableTexts : Fields String}
    {setting : CompileSetting} {caches : List String} {statement : MappedStatement}
    (compiled : draft.compile rules variableTexts setting caches = .ok statement) :
    statement.id = draft.id := by
  obtain ⟨parameterType, -, rest⟩ := bind_eq_ok.1 (withContext_eq_ok.1 compiled)
  obtain ⟨u, -, rest⟩ := bind_eq_ok.1 rest
  obtain ⟨source, -, made⟩ := bind_eq_ok.1 rest
  obtain rfl := pure_eq_ok.1 made
  rfl

end StatementDraft

namespace Configuration

variable {σ : Type} {configuration : Configuration σ}

def Filed (configuration : Configuration σ) : Prop :=
  ∀ id statement, configuration.statement id = .ok statement → statement.id = id

theorem mem_of_statement {id : String} {statement : MappedStatement}
    (found : configuration.statement id = .ok statement) :
    (id, statement) ∈ configuration.statements := by
  unfold Configuration.statement at found
  cases got : Fields.get? configuration.statements id with
  | none =>
      rw [got] at found
      exact absurd found failWith_ne_ok
  | some own =>
      rw [got] at found
      obtain rfl : own = statement := Except.ok.inj found
      exact Fields.mem_of_get? got

theorem filed_of_ids (ids : ∀ entry ∈ configuration.statements, entry.2.id = entry.1) :
    configuration.Filed :=
  fun _ _ found => ids _ (mem_of_statement found)

end Configuration

namespace ConfigurationDraft

variable {σ : Type} {draft : ConfigurationDraft σ}

theorem ids_of_compileAll {rules : TemplateRules} {drafts : List (String × StatementDraft)}
    {statements : List (String × MappedStatement)}
    (compiled : draft.compileAll rules drafts = .ok statements) (filed : StatementDraft.Filed drafts) :
    ∀ entry ∈ statements, entry.2.id = entry.1 := by
  induction drafts generalizing statements with
  | nil =>
      obtain rfl := Except.ok.inj compiled
      exact fun _ no => by cases no
  | cons first rest ih =>
      obtain ⟨id, own⟩ := first
      have filed := List.forall_mem_cons.1 filed
      obtain ⟨statement, made, others⟩ := bind_eq_ok.1 compiled
      obtain ⟨later, those, done⟩ := bind_eq_ok.1 others
      obtain rfl := pure_eq_ok.1 done
      exact List.forall_mem_cons.2
        ⟨(StatementDraft.id_of_compile made).trans filed.1, ih those filed.2⟩

theorem filed_of_build {configuration : Configuration σ} (built : draft.build = .ok configuration) :
    configuration.Filed := by
  unfold build at built
  split at built
  · cases built
  · obtain ⟨rules, -, built⟩ := bind_eq_ok.1 built
    obtain ⟨selected, chosen, built⟩ := bind_eq_ok.1 built
    obtain ⟨statements, compiled, built⟩ := bind_eq_ok.1 built
    obtain rfl := pure_eq_ok.1 built
    have none : StatementDraft.Filed [] := fun _ no => by cases no
    exact Configuration.filed_of_ids (ids_of_compileAll compiled (none.chooseAll chosen))

end ConfigurationDraft

end MappedSql
