import MappedSql.Placeholder.Mapping
import MappedSql.Proofs.Outcome
import MappedSql.Proofs.Template.Precompiled
import MappedSql.Proofs.Template.Tracing

namespace MappedSql

variable {α β : Type}

theorem bind_eq_error {act : Except Error α} {next : α → Except Error β} {e : Error} :
    (act >>= next) = .error e ↔ act = .error e ∨ ∃ a, act = .ok a ∧ next a = .error e := by
  cases act <;> simp [bind, Except.bind]

theorem exists_mapM_eq_ok {f : α → Except Error β} {as : List α} :
    (∃ bs, as.mapM f = .ok bs) ↔ ∀ a ∈ as, ∃ b, f a = .ok b := by
  induction as with
  | nil => simp [pure_eq_ok]
  | cons a as ih =>
    rw [List.forall_mem_cons, ← ih]
    simp only [List.mapM_cons, bind_eq_ok, pure_eq_ok]
    constructor
    · rintro ⟨_, b, found, rest, others, -⟩
      exact ⟨⟨b, found⟩, rest, others⟩
    · rintro ⟨⟨b, found⟩, rest, others⟩
      exact ⟨b :: rest, b, found, rest, others, rfl⟩

def Configured (result : Except Error α) : Prop :=
  ∀ e, result = .error e → ∃ message, e.cause = .config message

theorem configured_ok (a : α) : Configured (.ok a) :=
  nofun

theorem configured_failWith (message : String) :
    Configured (failWith (.config message) : Except Error α) := by
  rintro _ ⟨⟩
  exact ⟨message, rfl⟩

theorem Configured.bind {act : Except Error α} {next : α → Except Error β}
    (first : Configured act) (second : ∀ a, Configured (next a)) : Configured (act >>= next) := by
  intro e failed
  rcases bind_eq_error.1 failed with failed | ⟨a, -, failed⟩
  · exact first e failed
  · exact second a e failed

theorem Configured.mapM {f : α → Except Error β} (each : ∀ a, Configured (f a)) (as : List α) :
    Configured (as.mapM f) := by
  induction as with
  | nil => exact configured_ok []
  | cons a as ih =>
    rw [List.mapM_cons]
    exact (each a).bind fun b => ih.bind fun bs => configured_ok _

namespace Placeholder

theorem configured_syntaxError (content : String) (position : Nat) (detail : String) :
    Configured (.error (syntaxError content position detail) : Except Error α) := by
  rintro _ ⟨⟩
  exact ⟨_, rfl⟩

theorem configured_readOptions (content : String) (position : Nat) (options : List (List Char)) :
    Configured (readOptions content position options) := by
  induction options with
  | nil => exact configured_ok []
  | cons option rest ih =>
    rw [readOptions]
    split
    · exact ih
    · split
      · exact ih.bind fun others => configured_ok _
      · exact configured_syntaxError _ _ _

theorem configured_parse (content : String) : Configured (parse content) := by
  refine Configured.bind ?_ fun ⟨⟨property, expression⟩, rest⟩ =>
    Configured.bind ?_ fun ⟨columnType, rest⟩ => ?_
  · unfold readSubject
    split
    · split
      · exact configured_ok _
      · exact configured_syntaxError _ _ _
    · dsimp only
      split
      · exact configured_syntaxError _ _ _
      · exact configured_ok _
  · unfold readColumnType
    split
    · dsimp only
      split
      · exact configured_syntaxError _ _ _
      · exact configured_ok _
    · exact configured_ok _
  · dsimp only
    split
    · exact configured_ok _
    · exact (configured_readOptions _ _ _).bind fun attributes => configured_ok _
    · exact configured_syntaxError _ _ _

theorem configured_check (placeholder : Placeholder) (content : String) :
    Configured (placeholder.check content) := by
  unfold check
  split
  · rintro _ ⟨⟩
    exact ⟨_, rfl⟩
  · induction placeholder.attributes with
    | nil => exact configured_ok ()
    | cons pair rest ih =>
      rw [checkNames]
      split
      · exact ih
      · split
        · rintro _ ⟨⟩
          exact ⟨_, rfl⟩
        · exact configured_failWith _

end Placeholder

theorem Registry.configured_resolve (registry : Registry) (name : String) :
    Configured (registry.resolve name) := by
  unfold resolve
  dsimp only
  split
  · exact configured_ok _
  · split
    · exact configured_ok _
    · exact configured_failWith _

theorem Registry.configured_namedHandler (registry : Registry) (name : String) :
    Configured (registry.namedHandler name) := by
  unfold namedHandler
  split
  · exact configured_ok _
  · exact configured_failWith _

namespace ParameterMapping

theorem configured_withAttribute (registry : Registry) (content : String) (draft : Draft)
    (pair : String × String) : Configured (draft.withAttribute registry content pair) := by
  unfold Draft.withAttribute
  dsimp only
  split
  · exact (registry.configured_resolve _).bind fun type => configured_ok _
  · refine Configured.bind ?_ fun direction => configured_ok _
    unfold Direction.ofName
    split <;> first | exact configured_ok _ | exact configured_failWith _
  · refine Configured.bind ?_ fun scale => configured_ok _
    unfold readScale
    split
    · exact configured_ok _
    · exact configured_failWith _
  all_goals exact configured_ok _

theorem configured_withAttributes (registry : Registry) (content : String)
    (pairs : List (String × String)) (draft : Draft) :
    Configured (draft.withAttributes registry content pairs) := by
  induction pairs generalizing draft with
  | nil => exact configured_ok draft
  | cons pair rest ih => exact (configured_withAttribute registry content draft pair).bind ih

theorem configured_finish (draft : Draft) (registry : Registry) (property : String)
    (dbType : Option DbType) : Configured (draft.finish registry property dbType) := by
  unfold Draft.finish
  dsimp only
  split
  · rintro _ ⟨⟩
    exact ⟨_, rfl⟩
  · split
    · exact (registry.configured_namedHandler _).bind fun handler => configured_ok _
    · exact configured_ok _

theorem configured_ofPlaceholder (setting : Setting) (content : String) :
    Configured (ofPlaceholder setting content) := by
  refine (Placeholder.configured_parse content).bind fun placeholder => ?_
  refine (placeholder.configured_check content).bind fun _ => ?_
  refine Configured.bind ?_ fun dbType => ?_
  · unfold dbTypeOf
    split
    · unfold DbType.ofName
      split
      · exact configured_ok _
      · exact configured_failWith _
    · exact configured_ok none
  · exact (configured_withAttributes _ _ _ _).bind fun draft => configured_finish _ _ _ _

end ParameterMapping

theorem MarkedSql.configured_ofText (setting : ParameterMapping.Setting) (sql : String) :
    Configured (ofText setting sql) :=
  (Configured.mapM (ParameterMapping.configured_ofPlaceholder setting) _).bind
    fun _ => configured_ok _

theorem both_eq_ok {first second : Except Error Unit} :
    (do first; second) = .ok () ↔ first = .ok () ∧ second = .ok () := by
  rw [bind_eq_ok]
  exact ⟨fun ⟨_, done, rest⟩ => ⟨done, rest⟩, fun ⟨done, rest⟩ => ⟨(), done, rest⟩⟩

namespace Node

mutual

def texts : Node → List String
  | static s => [s]
  | text raw _ => [raw]
  | mixed children => textsOfAll children
  | cond _ contents => texts contents
  | choose branches otherwise => textsOfBranches branches ++ textsOfOtherwise otherwise
  | trim _ contents => texts contents
  | forEach _ contents => texts contents
  | bind _ _ => []

def textsOfAll : List Node → List String
  | [] => []
  | node :: rest => texts node ++ textsOfAll rest

def textsOfBranches : List (String × Node) → List String
  | [] => []
  | (_, contents) :: rest => texts contents ++ textsOfBranches rest

def textsOfOtherwise : Option Node → List String
  | none => []
  | some contents => texts contents

end

def Compiles (source : String) : Prop :=
  ∃ expr, Expr.compile source = .ok expr

def Sound (sources texts : List String) : Prop :=
  (∀ source ∈ sources, Compiles source) ∧ ∀ s ∈ texts, validatePlaceholders s = .ok ()

theorem sound_append {sources sources' texts texts' : List String} :
    Sound (sources ++ sources') (texts ++ texts') ↔
      Sound sources texts ∧ Sound sources' texts' := by
  simp only [Sound, List.forall_mem_append]
  tauto

theorem sound_cons {source : String} {sources texts : List String} :
    Sound (source :: sources) texts ↔ Compiles source ∧ Sound sources texts := by
  simp only [Sound, List.forall_mem_cons]
  tauto

theorem checkExpression_eq_ok {part source : String} :
    checkExpression part source = .ok () ↔ Compiles source := by
  unfold checkExpression Compiles
  cases Expr.compile source <;> simp

theorem checkTokens_eq_ok {contents : List String} :
    checkTokens contents = .ok () ↔ ∀ source ∈ contents.map Text.trimmed, Compiles source := by
  induction contents with
  | nil => simp [checkTokens]
  | cons content rest ih => simp [checkTokens, both_eq_ok, checkExpression_eq_ok, ih]

mutual

theorem validate_eq_ok : ∀ node : Node, node.validate = .ok () ↔ Sound node.sources node.texts
  | static s => by simp [validate, Sound, sources, texts]
  | text raw own => by simp [validate, both_eq_ok, checkTokens_eq_ok, Sound, sources, texts]
  | mixed children => by
      rw [validate, sources, texts]
      exact validateAll_eq_ok children
  | cond source contents => by
      rw [validate, sources, texts, sound_cons, ← validate_eq_ok contents]
      simp [both_eq_ok, checkExpression_eq_ok]
  | choose branches otherwise => by
      rw [validate, sources, texts, sound_append, ← validateBranches_eq_ok branches,
        ← validateOtherwise_eq_ok otherwise]
      simp [both_eq_ok]
  | trim style contents => by
      rw [validate, sources, texts]
      exact validate_eq_ok contents
  | forEach loop contents => by
      rw [validate, sources, texts, sound_cons, ← validate_eq_ok contents]
      simp [both_eq_ok, checkExpression_eq_ok]
  | bind name source => by simp [validate, checkExpression_eq_ok, Sound, sources, texts]

theorem validateAll_eq_ok : ∀ nodes : List Node,
    validateAll nodes = .ok () ↔ Sound (sourcesOfAll nodes) (textsOfAll nodes)
  | [] => by simp [validateAll, Sound, sourcesOfAll, textsOfAll]
  | node :: rest => by
      rw [validateAll, sourcesOfAll, textsOfAll, sound_append, ← validate_eq_ok node,
        ← validateAll_eq_ok rest]
      simp [both_eq_ok]

theorem validateBranches_eq_ok : ∀ branches : List (String × Node),
    validateBranches branches = .ok () ↔
      Sound (sourcesOfBranches branches) (textsOfBranches branches)
  | [] => by simp [validateBranches, Sound, sourcesOfBranches, textsOfBranches]
  | (test, contents) :: rest => by
      rw [validateBranches, sourcesOfBranches, textsOfBranches, sound_cons, sound_append,
        ← validate_eq_ok contents, ← validateBranches_eq_ok rest]
      simp [both_eq_ok, checkExpression_eq_ok]

theorem validateOtherwise_eq_ok : ∀ otherwise : Option Node,
    validateOtherwise otherwise = .ok () ↔
      Sound (sourcesOfOtherwise otherwise) (textsOfOtherwise otherwise)
  | none => by simp [validateOtherwise, Sound, sourcesOfOtherwise, textsOfOtherwise]
  | some contents => by
      rw [validateOtherwise, sourcesOfOtherwise, textsOfOtherwise]
      exact validate_eq_ok contents

end

end Node

variable {rules : TemplateRules} {template : Node} {type : ValueType}
  {variableTexts : Fields String} {setting : CompileSetting} {source : SqlSource}

theorem TemplateRules.made_of_createSource
    (created : rules.createSource template type variableTexts setting = .ok source) :
    (rules.made variableTexts template).validate = .ok () ∧
      (source = .dynamic (rules.made variableTexts template) ∨
        (rules.made variableTexts template).isDynamic = false ∧
          SqlSource.compileStatic (rules.made variableTexts template) type setting =
            .ok source) := by
  simp only [createSource, bind_eq_ok] at created
  obtain ⟨_, checked, created⟩ := created
  refine ⟨checked, ?_⟩
  split at created
  next => exact .inl (pure_eq_ok.1 created).symm
  next fixed => exact .inr ⟨Bool.not_eq_true _ ▸ fixed, created⟩

namespace SqlSource

theorem rendered_of_boundSql {parameter : Value} {bound : BoundSql}
    (created : rules.createSource template type variableTexts setting = .ok source)
    (bounded : source.boundSql parameter setting = .ok bound) :
    ∃ applied after, (rules.made variableTexts template).render
        (Context.initial parameter setting.databaseId) = (.ok applied, after) ∧
      ∃ subject marked, MarkedSql.ofText subject (finishSql after.sql setting.shrinkWhitespace) =
          .ok marked ∧ bound.sql = marked.sql ∧ bound.mappings = marked.mappings := by
  obtain ⟨-, rfl | ⟨fixed, compiled⟩⟩ := TemplateRules.made_of_createSource created
  · simp only [boundSql, renderFor] at bounded
    rcases rendered : (rules.made variableTexts template).render
      (Context.initial parameter setting.databaseId) with ⟨e | applied, after⟩
    · rw [rendered] at bounded
      cases bounded
    · simp only [rendered, bind_eq_ok, pure_eq_ok] at bounded
      obtain ⟨_, -, marked, marks, rfl⟩ := bounded
      exact ⟨applied, after, rfl, _, marked, marks, rfl, rfl⟩
  · obtain ⟨text, appends⟩ := Node.exists_text_of_fixed _ fixed
    simp only [compileStatic, renderFor, appends, bind_eq_ok, pure_eq_ok] at compiled
    obtain ⟨_, -, marked, marks, rfl⟩ := compiled
    obtain rfl := pure_eq_ok.1 bounded
    exact ⟨true, _, appends _, _, marked, marks, rfl, rfl⟩

theorem failed_of_boundSql {parameter : Value} {environment : CompileSetting} {error : Error}
    (created : rules.createSource template type variableTexts setting = .ok source)
    (failed : source.boundSql parameter environment = .error error) :
    (∃ after, (rules.made variableTexts template).render
        (Context.initial parameter environment.databaseId) = (.error error, after)) ∨
      ∃ applied after, (rules.made variableTexts template).render
          (Context.initial parameter environment.databaseId) = (.ok applied, after) ∧
        MarkedSql.ofText ⟨parameter.kind, after.bindings, environment.registry⟩
          (finishSql after.sql environment.shrinkWhitespace) = .error error := by
  obtain ⟨-, rfl | ⟨-, compiled⟩⟩ := TemplateRules.made_of_createSource created
  · simp only [boundSql, renderFor] at failed
    rcases rendered : (rules.made variableTexts template).render
      (Context.initial parameter environment.databaseId) with ⟨e | applied, after⟩
    · rw [rendered] at failed
      cases failed
      exact .inl ⟨after, rfl⟩
    · simp only [rendered, bind_eq_error] at failed
      rcases failed with failed | ⟨_, -, failed | ⟨_, -, failed⟩⟩
      · cases failed
      · exact .inr ⟨applied, after, rfl, failed⟩
      · cases failed
  · simp only [compileStatic, bind_eq_ok] at compiled
    obtain ⟨_, -, marked, -, compiled⟩ := compiled
    obtain rfl := pure_eq_ok.1 compiled
    cases failed

end SqlSource

end MappedSql
