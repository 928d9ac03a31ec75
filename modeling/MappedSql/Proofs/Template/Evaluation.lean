import MappedSql.Proofs.Template.Registration

/-!
# Expressions that are evaluated

Rendering evaluates only expressions of the template, and those of a registered template all parse.
It fails where one of them fails on its values, or where a value is refused; it never fails because
an expression does not parse (`SqlSource.compiles_of_evaluated`).
-/

namespace MappedSql

namespace Render

variable {α β : Type} {context after : Context} {error : Error}

theorem bind_eq_error {act : Render α} {next : α → Render β} :
    (act >>= next) context = (.error error, after) ↔ act context = (.error error, after) ∨
      ∃ a between, act context = (.ok a, between) ∧ next a between = (.error error, after) := by
  rw [bind_apply]
  rcases act context with ⟨e | a, between⟩
  · constructor
    · rintro ⟨⟩
      exact .inl rfl
    · rintro (⟨⟨⟩⟩ | ⟨_, _, ⟨⟩, -⟩)
      rfl
  · constructor
    · exact fun failed => .inr ⟨a, between, rfl, failed⟩
    · rintro (⟨⟨⟩⟩ | ⟨_, _, ⟨⟩, failed⟩)
      exact failed

theorem evaluate_eq_error {source : String} {failure : Error → Error}
    (failed : evaluate source failure context = (.error error, after)) :
    ∃ e, Expr.evaluate source context.lookup = .error e ∧ error = failure e := by
  simp only [evaluate, bind_eq_error] at failed
  rcases failed with failed | ⟨_, _, got, failed⟩
  · cases failed
  · obtain ⟨rfl, rfl⟩ := get_eq_ok.1 got
    cases found : Expr.evaluate source context.lookup with
    | error e =>
      rw [found] at failed
      cases failed
      exact ⟨e, rfl, rfl⟩
    | ok value =>
      rw [found] at failed
      cases failed

theorem isolated_eq_error {body : Render α}
    (failed : isolated body context = (.error error, after)) :
    ∃ inner, body { context with sql := "" } = (.error error, inner) := by
  unfold isolated at failed
  split at failed
  next => cases failed
  next e inner ran =>
    cases failed
    exact ⟨inner, ran⟩

end Render

namespace Loop

theorem round_eq_error {loop : Loop} {contents : Render Bool} {entry : Value × Value}
    {before after : Context} {error : Error}
    (failed : loop.round contents entry before = (.error error, after)) :
    ∃ inner, contents (loop.entered entry before) = (.error error, inner) := by
  simp only [round, Render.bind_eq_error, Render.get_eq_ok, Render.modify_eq_ok] at failed
  rcases failed with ⟨⟨⟩⟩ | ⟨_, _, ⟨rfl, rfl⟩, ⟨⟨⟩⟩ | ⟨_, _, rfl, ⟨⟨⟩⟩ | ⟨_, _, rfl, ⟨⟨⟩⟩ |
    ⟨_, _, rfl, failed | ⟨_, _, -, ⟨⟩⟩⟩⟩⟩⟩
  exact Render.isolated_eq_error failed

theorem entriesOf_eq_error {loop : Loop} {value : Value} {error : Error}
    (failed : loop.entriesOf value = .error error) :
    ∃ fragment message, error.cause = .binding fragment message := by
  unfold entriesOf at failed
  split at failed
  · split at failed
    · cases failed
    · cases failed
      exact ⟨_, _, rfl⟩
  all_goals cases failed
  exact ⟨_, _, rfl⟩

end Loop

namespace Render

variable {α β : Type} {context after : Context} {error : Error}

def Fault (source : String) (error : Error) : Prop :=
  (∃ scope e, Expr.evaluate source scope = .error e ∧ error.cause = e.cause) ∨
    ∃ fragment message, error.cause = .binding fragment message

theorem fault_of_evaluate {source : String} {failure : Error → Error} {next : Value → Render α}
    (failed : (evaluate source failure >>= next) context = (.error error, after))
    (keeps : ∀ e, (failure e).cause = e.cause)
    (refuses : ∀ value {between}, next value between = (.error error, after) →
      ∃ fragment message, error.cause = .binding fragment message) : Fault source error := by
  rcases bind_eq_error.1 failed with failed | ⟨value, between, -, failed⟩
  · obtain ⟨e, found, rfl⟩ := evaluate_eq_error failed
    exact .inl ⟨_, e, found, keeps e⟩
  · exact .inr (refuses value failed)

structure Accounts (sources : List String) (traced : Observed α) : Prop where
  among : ∀ {context source}, .evaluated source ∈ traced.events context → source ∈ sources
  blames : ∀ {context error after}, traced.run context = (.error error, after) →
    ∃ source, .evaluated source ∈ traced.events context ∧ Fault source error

namespace Accounts

variable {sources : List String}

theorem silent {step : Render α} (never : ∀ {context error after},
    step context ≠ (.error error, after)) : Accounts sources (Observed.silent step) :=
  ⟨nofun, fun failed => absurd failed never⟩

theorem pure (a : α) : Accounts sources (Pure.pure a) :=
  silent nofun

theorem writing (change : Context → Context) :
    Accounts sources (Observed.silent (modify change)) :=
  silent nofun

theorem bind {first : Observed α} {next : α → Observed β} (left : Accounts sources first)
    (right : ∀ a, Accounts sources (next a)) : Accounts sources (first >>= next) where
  among mem := by
    rcases Observed.mem_events_bind.1 mem with mem | ⟨a, between, -, mem⟩
    · exact left.among mem
    · exact (right a).among mem
  blames failed := by
    rcases bind_eq_error.1 failed with failed | ⟨a, between, ran, failed⟩
    · obtain ⟨source, mem, fault⟩ := left.blames failed
      exact ⟨source, Observed.mem_events_bind.2 (.inl mem), fault⟩
    · obtain ⟨source, mem, fault⟩ := (right a).blames failed
      exact ⟨source, Observed.mem_events_bind.2 (.inr ⟨a, between, ran, mem⟩), fault⟩

theorem evaluating {source : String} (mem : source ∈ sources) {step : Render α}
    (faults : ∀ {context error after}, step context = (.error error, after) →
      Fault source error) : Accounts sources (Observed.evaluating source step) where
  among := by
    rintro context other within
    obtain rfl : other = source := by simpa [Observed.evaluating] using within
    exact mem
  blames failed := ⟨source, by simp [Observed.evaluating], faults failed⟩

theorem replaceWith {handler : String → Observed String} {pieces : List Piece}
    (each : ∀ content ∈ Piece.contents pieces, Accounts sources (handler content)) :
    Accounts sources (Piece.replaceWith handler pieces) := by
  induction pieces with
  | nil => exact pure ""
  | cons piece rest ih =>
    cases piece with
    | plain text => exact (ih each).bind fun tail => pure _
    | token content =>
      refine (each _ List.mem_cons_self).bind fun replaced => ?_
      exact (ih fun other mem => each other (List.mem_cons_of_mem _ mem)).bind fun tail => pure _

theorem trimming (style : TrimStyle) {contents : Observed Bool}
    (inside : Accounts sources contents) : Accounts sources (Observed.trimming style contents) where
  among := inside.among
  blames failed := by
    simp only [Observed.trimming, TrimStyle.render, bind_eq_error] at failed
    rcases failed with failed | ⟨⟨applied, body⟩, between, -, failed⟩
    · obtain ⟨inner, failed⟩ := isolated_eq_error failed
      exact inside.blames failed
    · dsimp only at failed
      split at failed <;> cases failed

theorem round (loop : Loop) {contents : Observed Bool} (inside : Accounts sources contents)
    (entry : Value × Value) : Accounts sources (Observed.round loop contents entry) where
  among := inside.among
  blames failed := by
    obtain ⟨inner, failed⟩ := Loop.round_eq_error failed
    exact inside.blames failed

theorem rounds (loop : Loop) {contents : Observed Bool} (inside : Accounts sources contents)
    (entries : List (Value × Value)) :
    Accounts sources (Observed.rounds loop contents entries) := by
  induction entries with
  | nil => exact pure []
  | cons entry rest ih =>
    exact (inside.round loop entry).bind fun fragment => ih.bind fun others => pure _

theorem restoring (loop : Loop) {body : Observed (List String)} (accounts : Accounts sources body) :
    Accounts sources (Observed.restoring loop body) where
  among := accounts.among
  blames {context error after} failed := by
    simp only [Observed.restoring, Loop.restoring] at failed
    rcases ran : body.run context with ⟨outcome, inner⟩
    rw [ran] at failed
    cases failed
    exact accounts.blames ran

theorem looping (loop : Loop) (mem : loop.collection ∈ sources) {contents : Observed Bool}
    (inside : Accounts sources contents) : Accounts sources (Observed.looping loop contents) := by
  have listing : Accounts sources (Observed.evaluating loop.collection loop.entries) := by
    refine evaluating mem fun failed => ?_
    unfold Loop.entries at failed
    refine fault_of_evaluate failed (fun _ => rfl) fun value between failed => ?_
    cases listed : loop.entriesOf value with
    | ok entries =>
      rw [listed] at failed
      cases failed
    | error e =>
      rw [listed] at failed
      cases failed
      exact Loop.entriesOf_eq_error listed
  refine listing.bind fun found => ?_
  cases found with
  | none => exact pure true
  | some entries =>
    refine ((inside.rounds loop entries).restoring loop).bind fun fragments => ?_
    exact (writing _).bind fun _ => pure true

end Accounts

end Render

namespace Node

open Render (Observed Accounts)

variable {sources : List String} {source : String}

theorem accounts_test (mem : source ∈ sources) : Accounts sources (tracedTest source) := by
  refine .evaluating mem fun failed => ?_
  unfold test at failed
  exact Render.fault_of_evaluate failed (fun _ => rfl) nofun

theorem accounts_bind (mem : source ∈ sources) (name : String) :
    Accounts sources (Observed.evaluating source (render (bind name source))) := by
  refine .evaluating mem fun failed => ?_
  rw [render] at failed
  exact Render.fault_of_evaluate failed (fun _ => rfl) nofun

theorem accounts_splicing (own guard : Option Filter) {content : String}
    (mem : Text.trimmed content ∈ sources) :
    Accounts sources (Observed.splicing own guard content) where
  among := by
    rintro context other within
    obtain rfl : other = Text.trimmed content := by
      simp only [Observed.splicing, List.mem_cons] at within
      rcases within with within | within
      · exact Render.Observation.evaluated.inj within
      · split at within <;> simp at within
    exact mem
  blames failed := by
    refine ⟨Text.trimmed content, by simp [Observed.splicing], ?_⟩
    simp only [Observed.splicing, spliced] at failed
    refine Render.fault_of_evaluate failed (fun _ => rfl) fun value between failed => ?_
    cases guard with
    | none => cases failed
    | some check =>
      revert failed
      generalize (if value.isNull then "" else value.display) = shown
      dsimp only
      split
      · nofun
      · rintro ⟨⟩
        exact ⟨_, _, rfl⟩

variable (rules : TemplateRules) (variableTexts : Fields String)

theorem accounts_text (raw : String) (own : Option Filter)
    (among : ∀ source ∈ (rules.made variableTexts (text raw own)).sources, source ∈ sources) :
    Accounts sources (tracedText (rules.rendition variableTexts) raw own) := by
  unfold tracedText
  rcases rules.made_text variableTexts raw own with ⟨made, same, becomes⟩ | ⟨made, same, becomes⟩
  · simp only [TemplateRules.rendition, same]
    rw [becomes, Node.sources] at among
    have replaced := Accounts.replaceWith fun content mem =>
      accounts_splicing own (own.or rules.filter) (among _ (List.mem_map_of_mem mem))
    exact replaced.bind fun rendered => (Accounts.writing _).bind fun _ => .pure true
  · simp only [TemplateRules.rendition, same]
    refine .silent fun failed => ?_
    cases failed

mutual

theorem accounts_traced : ∀ node : Node,
    (∀ source ∈ (rules.made variableTexts node).sources, source ∈ sources) →
    Accounts sources (node.traced (rules.rendition variableTexts))
  | static s, _ => .silent nofun
  | text raw own, among => accounts_text rules variableTexts raw own among
  | mixed children, among => by
      rw [rules.made_mixed, Node.sources] at among
      exact (accounts_tracedAll children among).bind fun _ => .pure true
  | cond source contents, among => by
      rw [rules.made_cond, Node.sources, List.forall_mem_cons] at among
      refine (accounts_test among.1).bind fun holds => ?_
      cases holds with
      | true => exact (accounts_traced contents among.2).bind fun _ => .pure true
      | false => exact .pure false
  | choose branches otherwise, among => by
      rw [rules.made_choose, Node.sources, List.forall_mem_append] at among
      exact accounts_tracedChoice branches among.1 (accounts_tracedOtherwise otherwise among.2)
  | trim style contents, among => by
      rw [rules.made_trim, Node.sources] at among
      exact (accounts_traced contents among).trimming style
  | forEach loop contents, among => by
      rw [rules.made_forEach, Node.sources, List.forall_mem_cons] at among
      exact (accounts_traced contents among.2).looping _ among.1
  | bind name source, among => by
      rw [rules.made_bind, Node.sources, List.forall_mem_singleton] at among
      exact accounts_bind among name

theorem accounts_tracedAll : ∀ nodes : List Node,
    (∀ source ∈ sourcesOfAll (nodes.map (rules.made variableTexts)), source ∈ sources) →
    Accounts sources (tracedAll (rules.rendition variableTexts) nodes)
  | [], _ => .pure ()
  | node :: rest, among => by
      rw [List.map_cons, sourcesOfAll, List.forall_mem_append] at among
      exact (accounts_traced node among.1).bind fun _ => accounts_tracedAll rest among.2

theorem accounts_tracedOtherwise : ∀ otherwise : Option Node,
    (∀ source ∈ sourcesOfOtherwise (otherwise.map (rules.made variableTexts)),
      source ∈ sources) →
    Accounts sources (tracedOtherwise (rules.rendition variableTexts) otherwise)
  | none, _ => .pure false
  | some contents, among => (accounts_traced contents among).bind fun _ => .pure true

theorem accounts_tracedChoice : ∀ (branches : List (String × Node)) {otherwise : Observed Bool},
    (∀ source ∈ sourcesOfBranches (branches.map (Prod.map id (rules.made variableTexts))),
      source ∈ sources) → Accounts sources otherwise →
    Accounts sources (tracedChoice (rules.rendition variableTexts) otherwise branches)
  | [], _, _, accounts => accounts
  | (source, contents) :: rest, _, among, accounts => by
      rw [List.map_cons, Prod.map_apply, sourcesOfBranches, List.forall_mem_cons,
        List.forall_mem_append] at among
      refine (accounts_test among.1).bind fun holds => ?_
      cases holds with
      | true => exact (accounts_traced contents among.2.1).bind fun _ => .pure true
      | false => exact accounts_tracedChoice rest among.2.2 accounts

end

end Node

namespace Node

def splicedAs (source : String) (filter : Option Filter) (content : String) : Render String := do
  let token := "$\x7b" ++ content ++ "\x7d"
  let value ← Render.evaluate source fun e => e.inContext token
  let shown := if value.isNull then "" else value.display
  match filter with
  | some filter =>
      if filter.pattern.spans shown then return shown
      else
        failWith (.binding token s!"Invalid input. Please conform to regex {filter.source}")
  | none => return shown

/-- Splices in the next of some prepared expressions, and that of the token when none is left. -/
def splicedNext (filter : Option Filter) (content : String) : StateT (List String) Render String
  | [] => (·, []) <$> spliced filter content
  | source :: rest => (·, rest) <$> splicedAs source filter content

theorem replaceWith_splicedNext (filter : Option Filter) (pieces : List Piece)
    (rest : List String) :
    (Piece.replaceWith (splicedNext filter) pieces).run
        ((Piece.contents pieces).map Text.trimmed ++ rest) =
      (·, rest) <$> Piece.replaceWith (spliced filter) pieces := by
  induction pieces with
  | nil => simp [Piece.replaceWith, Piece.contents]
  | cons piece others ih =>
    cases piece with
    | plain text => simp [Piece.replaceWith, Piece.contents, ih]
    | token content =>
      have handed (prepared : List String) :
          (splicedNext filter (String.ofList content)).run
              (Text.trimmed (String.ofList content) :: prepared) =
            (·, prepared) <$> spliced filter (String.ofList content) := rfl
      simp [Piece.replaceWith, Piece.contents, ih, handed]

end Node

theorem Expr.evaluate_eq_error {source : String} {scope : Scope} {expr : Expr} {e : Error}
    (parses : compile source = .ok expr) (failed : evaluate source scope = .error e) :
    ∃ reason, expr.eval scope = .error reason ∧ e = failure source reason := by
  rw [evaluate, parses] at failed
  change (expr.eval scope).mapError (failure source) = .error e at failed
  cases evaluated : expr.eval scope with
  | ok value =>
    rw [evaluated] at failed
    cases failed
  | error reason =>
    rw [evaluated] at failed
    cases failed
    exact ⟨reason, rfl, rfl⟩

/-- A template whose expressions all parse fails to render where one of them fails on its values, or
where a value is refused. -/
theorem Node.cause_of_render {rules : TemplateRules} {variableTexts : Fields String}
    {template : Node}
    (compile : ∀ source ∈ (rules.made variableTexts template).sources, Compiles source)
    {context after : Context} {error : Error}
    (failed : (rules.made variableTexts template).render context = (.error error, after)) :
    (∃ expression parsed scope reason, Expr.compile expression = .ok parsed ∧
      parsed.eval scope = .error reason ∧
      error.cause = .expression s!"`{expression}`: {reason}") ∨
    ∃ fragment message, error.cause = .binding fragment message := by
  have accounts := accounts_traced rules variableTexts template fun _ mem => mem
  rw [← run_traced rules variableTexts template] at failed
  obtain ⟨expression, mem, ⟨scope, e, evaluated, cause⟩ | refused⟩ := accounts.blames failed
  · obtain ⟨parsed, parses⟩ := compile _ (accounts.among mem)
    obtain ⟨reason, reasoned, rfl⟩ := Expr.evaluate_eq_error parses evaluated
    exact .inl ⟨expression, parsed, scope, reason, parses, reasoned, cause⟩
  · exact .inr refused

/-- Everything that a registered template evaluates parses, so that an expression of it can only
fail on its values. Each token of a text is evaluated with the expression prepared from it. -/
theorem SqlSource.compiles_of_evaluated {rules : TemplateRules} {template : Node}
    {type : ValueType} {variableTexts : Fields String} {setting : CompileSetting}
    {source : SqlSource}
    (created : rules.createSource template type variableTexts setting = .ok source) :
    (∀ root, source = .dynamic root →
      (template.traced (rules.rendition variableTexts)).run = root.render) ∧
    (∀ context expression, .evaluated expression ∈
        (template.traced (rules.rendition variableTexts)).events context →
      Node.Compiles expression) ∧
    (∀ raw filter, (replaceTokens '$' raw (Node.splicedNext filter)).run
        ((Piece.contents (Piece.ofText '$' raw)).map Text.trimmed) =
      (·, []) <$> replaceTokens '$' raw (Node.spliced filter)) ∧
    ∀ parameter environment error message,
      source.boundSql parameter environment = .error error → error.cause = .expression message →
      ∃ expression parsed scope reason, Expr.compile expression = .ok parsed ∧
        parsed.eval scope = .error reason ∧ message = s!"`{expression}`: {reason}" := by
  obtain ⟨checked, made⟩ := TemplateRules.made_of_createSource created
  obtain ⟨compile, -⟩ := (Node.validate_eq_ok _).1 checked
  have accounts := Node.accounts_traced rules variableTexts template fun _ mem => mem
  have rendered := Node.run_traced rules variableTexts template
  refine ⟨?_, fun context expression mem => compile _ (accounts.among mem), ?_, ?_⟩
  · rintro root rfl
    rcases made with made | ⟨-, compiled⟩
    · cases made
      exact rendered
    · simp only [compileStatic, bind_eq_ok] at compiled
      obtain ⟨_, -, _, -, compiled⟩ := compiled
      cases compiled
  · intro raw filter
    have paired := Node.replaceWith_splicedNext filter (Piece.ofText '$' raw) []
    rwa [List.append_nil] at paired
  · intro parameter environment error message failed expressed
    -- either rendering failed, at an expression that parses, or parsing its placeholders did
    rcases failed_of_boundSql created failed with ⟨after, failed⟩ | ⟨_, _, -, failed⟩
    · rcases Node.cause_of_render compile failed with
        ⟨expression, parsed, scope, reason, parses, reasoned, cause⟩ | ⟨_, _, cause⟩
      · rw [expressed] at cause
        cases cause
        exact ⟨expression, parsed, scope, reason, parses, reasoned, rfl⟩
      · rw [expressed] at cause
        cases cause
    · obtain ⟨_, cause⟩ := MarkedSql.configured_ofText _ _ _ failed
      rw [expressed] at cause
      cases cause

namespace SqlSource

def eachAmount : Loop where
  collection := "amounts"
  item := some "amount"

def evaluating : Node :=
  .mixed [.bind "most" "count + 1",
    .choose [("kind == 'sum'", .text "sum($\x7bcolumn\x7d) " none)] (some (.static "count ")),
    .forEach eachAmount (.cond "amount < most"
      (.text "$\x7bamount\x7d $\x7bsign\x7d $\x7b-name\x7d" none))]

def evaluated : Value :=
  .map [("amounts", .list [.int 1]), ("count", .int 2), ("kind", .text "sum"),
    ("name", .text "a")]

def bare : CompileSetting :=
  ⟨.initial, none, false⟩

theorem compiles_of_evaluated_evaluating : ∃ source error,
    TemplateRules.createSource {} evaluating .any [("column", "amount"), ("sign", "*")] bare =
      .ok source ∧
    source.boundSql evaluated bare = .error error ∧ error.contexts = ["$\x7b-name\x7d"] ∧
    ∃ expression parsed scope reason, Expr.compile expression = .ok parsed ∧
      parsed.eval scope = .error reason ∧
      error.cause = .expression s!"`{expression}`: {reason}" := by
  have went : (match TemplateRules.createSource {} evaluating .any
      [("column", "amount"), ("sign", "*")] bare with
    | .ok source => match source.boundSql evaluated bare with
      | .error error => error.contexts == ["$\x7b-name\x7d"] && match error.cause with
        | .expression _ => true
        | _ => false
      | .ok _ => false
    | .error _ => false) = true := by
    decide +kernel
  split at went
  next source created =>
    split at went
    next error failed =>
      rw [Bool.and_eq_true, beq_iff_eq] at went
      obtain ⟨contexts, kind⟩ := went
      split at kind
      next message expressed =>
        obtain ⟨expression, parsed, scope, reason, parses, fails, rfl⟩ :=
          (compiles_of_evaluated created).2.2.2 _ _ _ _ failed expressed
        exact ⟨source, error, created, failed, contexts, expression, parsed, scope, reason, parses,
          fails, expressed⟩
      next => cases kind
    next => cases went
  next => cases went

end SqlSource

end MappedSql
