import MappedSql.Proofs.Placeholder.Attributes
import MappedSql.Proofs.Placeholder.Respacing
import MappedSql.Proofs.Template.Containment
import MappedSql.Proofs.Template.Evaluation

namespace MappedSql

namespace Loop

theorem isPlain_of_not_delimits {c : Char} (inside : delimits c = false) :
    Placeholder.isPlain c = true := by
  simp only [delimits, Bool.or_eq_false_iff] at inside
  simp [Placeholder.isPlain, bne, inside]

theorem options_append {front : List Char} (plain : ∀ c ∈ front, delimits c = false)
    (rest : List Char) : Placeholder.options (front ++ rest) = Placeholder.options rest :=
  List.dropWhile_append_of_pos fun c mem => isPlain_of_not_delimits (plain c mem)

theorem options_afterName (content : List Char) :
    Placeholder.options (afterName content) = Placeholder.options content := by
  have split : nameAt content ++ afterName content = Text.trimStart content :=
    List.takeWhile_append_dropWhile
  rw [← Placeholder.options_trimStart content, ← split, options_append]
  exact fun c mem => by simpa using List.mem_takeWhile_imp mem

theorem named_append {name : List Char} (plain : IsName name) (rest : List Char) :
    Placeholder.Named (name ++ rest) := by
  obtain ⟨c, tail, rfl⟩ := List.exists_cons_of_ne_nil plain.1
  have own := plain.2 c List.mem_cons_self
  exact ⟨c, tail ++ rest, Text.trimStart_cons (isNameChar_visible own) _,
    (isNameChar_plain own).2.2.2.2.1, isPlain_of_not_delimits (not_delimits_of_isNameChar own)⟩

variable {loop : Loop} (plain : ∀ name ∈ loop.names, IsName name.toList) (unique : Nat)
  {content : String}
include plain

theorem named_renameVariable (named : Placeholder.Named content.toList) :
    Placeholder.Named (loop.renameVariable unique content).toList ∧
      Placeholder.options (loop.renameVariable unique content).toList =
        Placeholder.options content.toList := by
  by_cases found : ∃ name ∈ loop.names, name.toList = nameAt content.toList
  · obtain ⟨name, mem, starts⟩ := found
    have fresh := isName_roundName (plain name mem) unique
    rw [renameVariable_of_mem plain mem starts, String.toList_append, String.toList_ofList]
    refine ⟨named_append fresh _, ?_⟩
    rw [options_append fun c mem => not_delimits_of_isNameChar (fresh.2 c mem), options_afterName]
  · simp only [not_exists, not_and] at found
    rw [renameVariable_of_not_mem plain found]
    exact ⟨named, rfl⟩

end Loop

theorem validatePlaceholders_eq_ok {s : String} : validatePlaceholders s = .ok () ↔
    ∀ content ∈ Piece.contents (Piece.ofText '#' s), Placeholder.WellFormed content := by
  rw [validatePlaceholders, bind_eq_ok]
  simp only [pure_eq_ok, and_true]
  rw [exists_mapM_eq_ok]
  refine forall₂_congr fun content _ => ?_
  rw [← Placeholder.wellFormed_iff]
  exact ⟨fun ⟨_, checked⟩ => checked, fun checked => ⟨(), checked⟩⟩

section Finished

variable {content origin : String} (shrink : Bool)

theorem Placeholder.WellFormed.finish (wellFormed : WellFormed content) :
    WellFormed (finishPlaceholder shrink content) := by
  cases shrink with
  | false => exact wellFormed
  | true => exact wellFormed.spaced

theorem Placeholder.Named.finish (named : Named content.toList) :
    Named (finishPlaceholder shrink content).toList := by
  cases shrink with
  | false => exact named
  | true => simpa [finishPlaceholder] using named.spaced false

theorem Placeholder.options_finish (same : options content.toList = options origin.toList) :
    options (finishPlaceholder shrink content).toList =
      options (finishPlaceholder shrink origin).toList := by
  cases shrink with
  | false => exact same
  | true => simp [finishPlaceholder, options_spaced, same]

end Finished

namespace Node

variable {root : Node}

def Stems (root : Node) (content : String) : Prop :=
  Placeholder.Named content.toList ∧
    ∃ s ∈ root.literals, ∃ origin ∈ Piece.contents (Piece.ofText '#' s),
      Placeholder.options content.toList = Placeholder.options origin.toList

theorem renamable_stems (root : Node) : Renamable root.Stems := by
  rintro loop plain unique content ⟨named, s, mem, origin, among, same⟩
  obtain ⟨renamed, kept⟩ := Loop.named_renameVariable plain unique named
  exact ⟨renamed, s, mem, origin, among, kept.trans same⟩

/-- What the check of a template leaves open: that its texts stay apart, that the placeholders of
the texts around its loops and trimmed parts are well formed, and that all attributes resolve. -/
structure Settled (root : Node) (setting : CompileSetting) : Prop where
  contained : root.Contained
  framed : ∀ s ∈ root.parts.filterMap Part.edge?, validatePlaceholders s = .ok ()
  resolves : ∀ s ∈ root.literals, ∀ content ∈ Piece.contents (Piece.ofText '#' s),
    ∀ placeholder ∈
      (Placeholder.parse (finishPlaceholder setting.shrinkWhitespace content)).toOption,
      ParameterMapping.Settled setting.registry placeholder.attributes

instance (root : Node) (setting : CompileSetting) : Decidable (root.Settled setting) :=
  decidable_of_iff (_ ∧ _ ∧ _)
    ⟨fun ⟨contained, framed, resolves⟩ => ⟨contained, framed, resolves⟩,
      fun settled => ⟨settled.contained, settled.framed, settled.resolves⟩⟩

section

variable {setting : CompileSetting} (settled : root.Settled setting)
  (valid : root.validate = .ok ())
include settled valid

theorem Settled.wellFormed : ∀ s ∈ root.literals, ∀ content ∈ Piece.contents (Piece.ofText '#' s),
    Placeholder.WellFormed content := by
  have checked := ((validate_eq_ok root).1 valid).2
  intro s mem
  rcases List.mem_append.1 mem with mem | mem
  · exact validatePlaceholders_eq_ok.1 (checked s mem)
  · exact validatePlaceholders_eq_ok.1 (settled.framed s mem)

theorem Settled.ofPlaceholder_isOk {content : String} (stems : root.Stems content)
    {type : ValueType} (apart : type ≠ .cursor) (bindings : Fields Value) :
    (ParameterMapping.ofPlaceholder ⟨type, bindings, setting.registry⟩
      (finishPlaceholder setting.shrinkWhitespace content)).isOk = true := by
  obtain ⟨named, s, mem, origin, among, same⟩ := stems
  obtain ⟨namedOrigin, attributes, read, known⟩ :=
    (settled.wellFormed valid s mem origin among).finish setting.shrinkWhitespace
  have parsed := Placeholder.parse_eq namedOrigin
  rw [read] at parsed
  have resolves := settled.resolves s mem origin among _ (toOption_eq_some.2 parsed)
  -- the attributes are those of the placeholder that the template holds, only the property is not
  rw [← Placeholder.options_finish setting.shrinkWhitespace same] at read
  exact ParameterMapping.ofPlaceholder_isOk (named.finish _) (Placeholder.readAttributes_congr read)
    known resolves apart

theorem Settled.exists_ofText (before : Context) {after : Context} {applied : Bool}
    (rendered : root.render { before with sql := "" } = (.ok applied, after)) {type : ValueType}
    (apart : type ≠ .cursor) : ∃ marked, MarkedSql.ofText ⟨type, after.bindings, setting.registry⟩
      (finishSql after.sql setting.shrinkWhitespace) = .ok marked := by
  have kinds : ∀ s ∈ root.literals, ∀ content ∈ Piece.contents (Piece.ofText '#' s),
      root.Stems content := fun s mem content among =>
    ⟨(settled.wellFormed valid s mem content among).1, s, mem, content, among, rfl⟩
  have contained := settled.contained
  obtain ⟨contents, holds, stem⟩ :=
    (writes contained.blanks root.renamable_stems root (contained.keeps kinds)).shows rendered
  have resolved : ∃ mappings, (Piece.contents (Piece.ofText '#'
      (finishSql after.sql setting.shrinkWhitespace))).mapM
        (ParameterMapping.ofPlaceholder ⟨type, after.bindings, setting.registry⟩) =
          .ok mappings := by
    rw [holds.contents_ofText_finishSql contained.blanks, exists_mapM_eq_ok]
    intro content mem
    obtain ⟨content, among, rfl⟩ := List.mem_map.1 mem
    exact exists_of_isOk (settled.ofPlaceholder_isOk valid (stem content among) apart _)
  obtain ⟨mappings, resolved⟩ := resolved
  rw [MarkedSql.ofText, resolved]
  exact ⟨_, rfl⟩

end

end Node

/-- Binding the SQL of a registered statement does not fail for reasons of configuration, if the
texts around its loops and trimmed parts are checked too, all attributes resolve, and its texts stay
apart. -/
theorem SqlSource.cause_ne_config {rules : TemplateRules} {template : Node} {type : ValueType}
    {variableTexts : Fields String} {setting : CompileSetting} {source : SqlSource}
    (created : rules.createSource template type variableTexts setting = .ok source)
    (settled : source.isDynamic → (rules.made variableTexts template).Settled setting)
    {parameter : Value} {error : Error} (failed : source.boundSql parameter setting = .error error)
    (message : String) : error.cause ≠ .config message := by
  obtain ⟨valid, rfl | ⟨-, compiled⟩⟩ := TemplateRules.made_of_createSource created
  · rcases failed_of_boundSql created failed with
      ⟨after, failed⟩ | ⟨applied, after, rendered, failed⟩
    · rcases Node.cause_of_render ((Node.validate_eq_ok _).1 valid).1 failed with
        ⟨_, _, _, _, -, -, cause⟩ | ⟨_, _, cause⟩ <;> (rw [cause]; nofun)
    · obtain ⟨marked, resolved⟩ := (settled rfl).exists_ofText valid
        (Context.initial parameter setting.databaseId) rendered parameter.kind_ne_cursor
      rw [resolved] at failed
      cases failed
  · simp only [compileStatic, bind_eq_ok] at compiled
    obtain ⟨_, -, marked, -, compiled⟩ := compiled
    cases compiled
    cases failed

namespace SqlSource

def eachState : Loop where
  collection := "states"
  item := some "state"
  opening := some "AND state IN ("
  closing := some ")"
  separator := some ", "

def inStates : Node :=
  .mixed [.static "select * from t ", .whereClause [.bind "pattern" "name + '%'",
    .cond "name != null" (.static "AND name like #\x7bpattern , jdbcType = VARCHAR\x7d"),
    .forEach eachState (.static "#\x7bstate, javaType=string\x7d")]]

def nameOnly : Value :=
  .map [("name", .text "a")]

def shrinking : CompileSetting :=
  ⟨.initial, none, true⟩

theorem cause_ne_config_inStates : ∃ source error,
    TemplateRules.createSource {} inStates .any [] shrinking = .ok source ∧
    (source.isDynamic → (TemplateRules.made {} [] inStates).Settled shrinking) ∧
    source.boundSql nameOnly shrinking = .error error ∧
    ∀ message, error.cause ≠ .config message := by
  have settled : (TemplateRules.made {} [] inStates).Settled shrinking := by
    decide +kernel
  have went : (match TemplateRules.createSource {} inStates .any [] shrinking with
    | .ok source => (source.boundSql nameOnly shrinking).isOk
    | .error _ => true) = false := by
    decide +kernel
  split at went
  next source created =>
    cases failed : source.boundSql nameOnly shrinking with
    | ok bound => rw [failed] at went; cases went
    | error error =>
      exact ⟨source, error, created, fun _ => settled, failed,
        cause_ne_config created (fun _ => settled) failed⟩
  next => cases went

def Defers (template : Node) (parameter : Value) : Prop :=
  ∃ source error message,
    TemplateRules.createSource {} template .any [] bare = .ok source ∧
    source.boundSql parameter bare = .error error ∧ error.cause = .config message

theorem defers_of_check {template : Node} {parameter : Value}
    (check : (match TemplateRules.createSource {} template .any [] bare with
      | .ok source => match source.boundSql parameter bare with
        | .error ⟨_, .config _⟩ => true
        | _ => false
      | .error _ => false) = true) : Defers template parameter := by
  split at check
  next source created =>
    split at check
    next contexts message failed => exact ⟨source, _, message, created, failed, rfl⟩
    next => cases check
  next => cases check

def eachAfterFault : Loop where
  collection := "xs"
  item := some "x"
  opening := some "#\x7ba, bogus=1\x7d in ("
  closing := some ")"

def oneNumber : Value :=
  .map [("xs", .list [.int 1]), ("a", .int 2)]

/-- The check passes over the texts around loops, and over the values of attributes. -/
theorem exists_defers :
    Defers (.forEach eachAfterFault (.static "#\x7bx\x7d")) oneNumber ∧
      Defers (.cond "true" (.static "#\x7ba, jdbcType=BOGUS\x7d")) oneNumber :=
  ⟨defers_of_check (by decide +kernel), defers_of_check (by decide +kernel)⟩

end SqlSource

end MappedSql
