import MappedSql.Proofs.Template.Independence
import MappedSql.Proofs.Template.Marks

namespace MappedSql

namespace Render

inductive Observation
  | evaluated (source : String)
  | spliced (own : Option Filter) (shown : String)

/-- A step of rendering and the events that it comes to from a context on, in order. -/
structure Observed (α : Type) where
  run : Render α
  events : Context → List Observation

namespace Observed

variable {α β : Type}

instance : Monad Observed where
  pure a := ⟨pure a, fun _ => []⟩
  bind first next :=
    { run := first.run >>= fun a => (next a).run
      events := fun context => first.events context ++
        match first.run context with
        | (.ok a, after) => (next a).events after
        | (.error _, _) => [] }

@[simp] theorem run_pure (a : α) : (pure a : Observed α).run = pure a :=
  rfl

@[simp] theorem run_bind (first : Observed α) (next : α → Observed β) :
    (first >>= next).run = first.run >>= fun a => (next a).run :=
  rfl

theorem mem_events_bind {first : Observed α} {next : α → Observed β} {context : Context}
    {event : Observation} : event ∈ (first >>= next).events context ↔ event ∈ first.events context ∨
      ∃ a after, first.run context = (.ok a, after) ∧ event ∈ (next a).events after := by
  change event ∈ first.events context ++ _ ↔ _
  rw [List.mem_append]
  refine or_congr_right ?_
  rcases first.run context with ⟨e | a, after⟩
  · exact ⟨nofun, fun ⟨a, between, no, _⟩ => nomatch no⟩
  · refine ⟨fun mem => ⟨a, after, rfl, mem⟩, ?_⟩
    rintro ⟨_, _, ⟨⟩, mem⟩
    exact mem

def silent (step : Render α) : Observed α :=
  ⟨step, fun _ => []⟩

def evaluating (source : String) (step : Render α) : Observed α :=
  ⟨step, fun _ => [.evaluated source]⟩

def splicing (own guard : Option Filter) (content : String) : Observed String where
  run := Node.spliced guard content
  events context := .evaluated (Text.trimmed content) ::
    match Node.spliced guard content context with
    | (.ok shown, _) => [.spliced own shown]
    | (.error _, _) => []

def trimming (style : TrimStyle) (contents : Observed Bool) : Observed Bool where
  run := style.render contents.run
  events context := contents.events { context with sql := "" }

def round (loop : Loop) (contents : Observed Bool) (entry : Value × Value) : Observed String where
  run := loop.round contents.run entry
  events context := contents.events (loop.entered entry context)

def rounds (loop : Loop) (contents : Observed Bool) : List (Value × Value) → Observed (List String)
  | [] => return []
  | entry :: rest => do
      let fragment ← round loop contents entry
      return fragment :: (← rounds loop contents rest)

def restoring (loop : Loop) (body : Observed (List String)) : Observed (List String) where
  run := loop.restoring body.run
  events := body.events

def looping (loop : Loop) (contents : Observed Bool) : Observed Bool := do
  match ← evaluating loop.collection loop.entries with
  | none => return true
  | some entries =>
      let fragments ← restoring loop (rounds loop contents entries)
      silent (modify fun context =>
        context.append (loop.opening.getD "" ++ loop.join fragments ++ loop.closing.getD ""))
      return true

theorem run_rounds (loop : Loop) (contents : Observed Bool) (entries : List (Value × Value)) :
    (rounds loop contents entries).run = loop.rounds contents.run entries := by
  induction entries with
  | nil => rfl
  | cons entry rest ih =>
    simp only [rounds, Loop.rounds, run_bind, ih]
    rfl

theorem run_looping (loop : Loop) (contents : Observed Bool) :
    (looping loop contents).run = loop.render contents.run := by
  rw [looping, Loop.render, run_bind]
  refine bind_congr fun found => ?_
  cases found with
  | none => rfl
  | some entries =>
    simp only [run_bind, restoring, run_rounds]
    rfl

theorem run_replaceWith (handler : String → Observed String) (pieces : List Piece) :
    (Piece.replaceWith handler pieces).run =
      Piece.replaceWith (fun content => (handler content).run) pieces := by
  induction pieces with
  | nil => rfl
  | cons piece rest ih => cases piece <;> simp [Piece.replaceWith, ih]

end Observed

end Render

/-- How a template is rendered: the texts of the variables, whether loops render nothing for null
unless they say otherwise, and the filter for a text, given the one of its own. -/
structure Rendition where
  variableTexts : Fields String
  nullable : Bool
  guard : Option Filter → Option Filter

namespace TemplateRules

def rendition (rules : TemplateRules) (variableTexts : Fields String) : Rendition where
  variableTexts := variableTexts
  nullable := rules.nullableLoops
  guard own := own.or rules.filter

def made (rules : TemplateRules) (variableTexts : Fields String) (template : Node) : Node :=
  (template.substituteVariables variableTexts).withDefaults rules.nullableLoops rules.filter

end TemplateRules

def Loop.withNullable (loop : Loop) (nullable : Bool) : Loop :=
  { loop with nullable := some (loop.nullable.getD nullable) }

namespace Node

variable {variableTexts : Fields String} {nullable : Bool} {filter : Option Filter}

theorem replaceAllVariables_eq (nodes : List Node) :
    replaceAllVariables variableTexts nodes = nodes.map (replaceVariables variableTexts) := by
  induction nodes <;> simp_all [replaceAllVariables]

theorem replaceBranchVariables_eq (branches : List (String × Node)) :
    replaceBranchVariables variableTexts branches =
      branches.map (Prod.map id (replaceVariables variableTexts)) := by
  induction branches with
  | nil => rfl
  | cons branch rest ih =>
    obtain ⟨test, contents⟩ := branch
    simp [replaceBranchVariables, ih]

theorem replaceOtherwise_eq (otherwise : Option Node) :
    replaceOtherwise variableTexts otherwise = otherwise.map (replaceVariables variableTexts) := by
  cases otherwise <;> rfl

theorem allWithDefaults_eq (nodes : List Node) :
    allWithDefaults nullable filter nodes = nodes.map (withDefaults nullable filter) := by
  induction nodes <;> simp_all [allWithDefaults]

theorem branchesWithDefaults_eq (branches : List (String × Node)) :
    branchesWithDefaults nullable filter branches =
      branches.map (Prod.map id (withDefaults nullable filter)) := by
  induction branches with
  | nil => rfl
  | cons branch rest ih =>
    obtain ⟨test, contents⟩ := branch
    simp [branchesWithDefaults, ih]

theorem otherwiseWithDefaults_eq (otherwise : Option Node) :
    otherwiseWithDefaults nullable filter otherwise =
      otherwise.map (withDefaults nullable filter) := by
  cases otherwise <;> rfl

end Node

namespace TemplateRules

variable (rules : TemplateRules) (variableTexts : Fields String)

theorem made_static (s : String) : rules.made variableTexts (.static s) = .static s := by
  simp [made, Node.substituteVariables, Node.replaceVariables, Node.withDefaults]

theorem made_mixed (children : List Node) :
    rules.made variableTexts (.mixed children) =
      .mixed (children.map (rules.made variableTexts)) := by
  unfold made Node.substituteVariables
  split <;> simp [Node.replaceVariables, Node.withDefaults, Node.replaceAllVariables_eq,
    Node.allWithDefaults_eq]

theorem made_cond (test : String) (contents : Node) :
    rules.made variableTexts (.cond test contents) =
      .cond test (rules.made variableTexts contents) := by
  unfold made Node.substituteVariables
  split <;> rfl

theorem made_choose (branches : List (String × Node)) (otherwise : Option Node) :
    rules.made variableTexts (.choose branches otherwise) =
      .choose (branches.map (Prod.map id (rules.made variableTexts)))
        (otherwise.map (rules.made variableTexts)) := by
  unfold made Node.substituteVariables
  split <;> simp [Node.replaceVariables, Node.withDefaults, Node.replaceBranchVariables_eq,
    Node.replaceOtherwise_eq, Node.branchesWithDefaults_eq, Node.otherwiseWithDefaults_eq,
    Function.comp_def]

theorem made_trim (style : TrimStyle) (contents : Node) :
    rules.made variableTexts (.trim style contents) =
      .trim style (rules.made variableTexts contents) := by
  unfold made Node.substituteVariables
  split <;> rfl

theorem made_forEach (loop : Loop) (contents : Node) :
    rules.made variableTexts (.forEach loop contents) =
      .forEach (loop.withNullable rules.nullableLoops) (rules.made variableTexts contents) := by
  unfold made Node.substituteVariables
  split <;> rfl

theorem made_bind (name source : String) :
    rules.made variableTexts (.bind name source) = .bind name source := by
  simp [made, Node.substituteVariables, Node.replaceVariables, Node.withDefaults]

theorem made_text (raw : String) (own : Option Filter) :
    (∃ made, (Node.text raw own).substituteVariables variableTexts = .text made own ∧
      rules.made variableTexts (.text raw own) = .text made (own.or rules.filter)) ∨
    ∃ made, (Node.text raw own).substituteVariables variableTexts = .static made ∧
      rules.made variableTexts (.text raw own) = .static made := by
  unfold made Node.substituteVariables
  split
  · exact .inl ⟨raw, rfl, rfl⟩
  · rw [Node.replaceVariables, Node.ofText]
    split
    · exact .inl ⟨_, rfl, rfl⟩
    · exact .inr ⟨_, rfl, rfl⟩

end TemplateRules

namespace Node

open Render (Observed)

def tracedText (rendition : Rendition) (raw : String) (own : Option Filter) : Observed Bool :=
  match (text raw own).substituteVariables rendition.variableTexts with
  | text made _ => do
      let rendered ← replaceTokens '$' made (Observed.splicing own (rendition.guard own))
      Observed.silent (modify (·.append rendered))
      return true
  | node => Observed.silent node.render

def tracedTest (source : String) : Observed Bool :=
  Observed.evaluating source (test source)

mutual

def traced (rendition : Rendition) : Node → Observed Bool
  | static s => Observed.silent (render (static s))
  | text raw own => tracedText rendition raw own
  | mixed children => do
      tracedAll rendition children
      return true
  | cond source contents => do
      if ← tracedTest source then
        let _ ← traced rendition contents
        return true
      else return false
  | choose branches otherwise =>
      tracedChoice rendition (tracedOtherwise rendition otherwise) branches
  | trim style contents => Observed.trimming style (traced rendition contents)
  | forEach loop contents =>
      Observed.looping (loop.withNullable rendition.nullable) (traced rendition contents)
  | bind name source => Observed.evaluating source (render (bind name source))

def tracedAll (rendition : Rendition) : List Node → Observed Unit
  | [] => return ()
  | node :: rest => do
      let _ ← traced rendition node
      tracedAll rendition rest

def tracedOtherwise (rendition : Rendition) : Option Node → Observed Bool
  | none => return false
  | some contents => do
      let _ ← traced rendition contents
      return true

def tracedChoice (rendition : Rendition) (otherwise : Observed Bool) :
    List (String × Node) → Observed Bool
  | [] => otherwise
  | (source, contents) :: rest => do
      if ← tracedTest source then
        let _ ← traced rendition contents
        return true
      else tracedChoice rendition otherwise rest

end

variable (rules : TemplateRules) (variableTexts : Fields String)

theorem run_tracedText (raw : String) (own : Option Filter) :
    (tracedText (rules.rendition variableTexts) raw own).run =
      (rules.made variableTexts (text raw own)).render := by
  unfold tracedText
  rcases rules.made_text variableTexts raw own with ⟨made, same, becomes⟩ | ⟨made, same, becomes⟩
  · simp only [TemplateRules.rendition, same, becomes, render, Observed.run_bind, Observed.run_pure,
      replaceTokens, Observed.run_replaceWith]
    rfl
  · simp only [TemplateRules.rendition, same, becomes]
    rfl

mutual

theorem run_traced : ∀ node : Node, (node.traced (rules.rendition variableTexts)).run =
    (rules.made variableTexts node).render
  | static s => by rw [rules.made_static]; rfl
  | text raw own => run_tracedText rules variableTexts raw own
  | mixed children => by
      rw [rules.made_mixed, render, traced, Observed.run_bind, run_tracedAll children]
      rfl
  | cond source contents => by
      rw [rules.made_cond, render, traced, Observed.run_bind]
      refine bind_congr fun holds => ?_
      cases holds with
      | true => simp [run_traced contents]
      | false => rfl
  | choose branches otherwise => by
      rw [rules.made_choose, render, traced]
      exact run_tracedChoice branches (run_tracedOtherwise otherwise)
  | trim style contents => by
      rw [rules.made_trim, render, traced, ← run_traced contents]
      rfl
  | forEach loop contents => by
      rw [rules.made_forEach, render, traced, Observed.run_looping, run_traced contents]
      rfl
  | bind name source => by rw [rules.made_bind]; rfl

theorem run_tracedAll : ∀ nodes : List Node,
    (tracedAll (rules.rendition variableTexts) nodes).run =
      renderAll (nodes.map (rules.made variableTexts))
  | [] => by rw [tracedAll, List.map_nil, renderAll]; rfl
  | node :: rest => by
      rw [tracedAll, List.map_cons, renderAll, Observed.run_bind, run_traced node]
      exact bind_congr fun _ => run_tracedAll rest

theorem run_tracedOtherwise : ∀ otherwise : Option Node,
    (tracedOtherwise (rules.rendition variableTexts) otherwise).run =
      renderOtherwise (otherwise.map (rules.made variableTexts))
  | none => by rw [tracedOtherwise, Option.map_none, renderOtherwise]; rfl
  | some contents => by
      rw [tracedOtherwise, Option.map_some, renderOtherwise, Observed.run_bind, run_traced contents]
      rfl

theorem run_tracedChoice : ∀ (branches : List (String × Node)) {otherwise : Observed Bool}
    {last : Render Bool}, otherwise.run = last →
    (tracedChoice (rules.rendition variableTexts) otherwise branches).run =
      renderChoice last (branches.map (Prod.map id (rules.made variableTexts)))
  | [], _, _, same => by rw [tracedChoice, List.map_nil, renderChoice, same]
  | (source, contents) :: rest, _, _, same => by
      rw [tracedChoice, List.map_cons, Prod.map_apply, renderChoice, Observed.run_bind]
      refine bind_congr fun holds => ?_
      cases holds with
      | true => simp [run_traced contents]
      | false => exact run_tracedChoice rest same

end

end Node

end MappedSql
