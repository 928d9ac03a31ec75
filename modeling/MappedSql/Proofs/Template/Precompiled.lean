import MappedSql.Proofs.Outcome
import MappedSql.Proofs.Placeholder.Subject
import MappedSql.Source

namespace MappedSql

namespace Node

mutual

theorem exists_text_of_fixed : ∀ node : Node, node.isDynamic = false →
    ∃ text, ∀ context, node.render context = (.ok true, context.append text)
  | static s, _ => ⟨s, fun _ => rfl⟩
  | mixed children, fixed => by
      rw [isDynamic] at fixed
      obtain ⟨text, appends⟩ := exists_text_of_anyFixed children fixed
      refine ⟨text, fun context => ?_⟩
      rw [render, Render.bind_eq_ok]
      exact ⟨(), _, appends context, rfl⟩

theorem exists_text_of_anyFixed : ∀ nodes : List Node, anyDynamic nodes = false →
    ∃ text, ∀ context, renderAll nodes context = (.ok (), context.append text)
  | [], _ => ⟨"", fun context => by simp only [Context.append, String.append_empty]; rfl⟩
  | node :: rest, fixed => by
      rw [anyDynamic, Bool.or_eq_false_iff] at fixed
      obtain ⟨first, appends⟩ := exists_text_of_fixed node fixed.1
      obtain ⟨second, follows⟩ := exists_text_of_anyFixed rest fixed.2
      refine ⟨first ++ second, fun context => ?_⟩
      rw [renderAll, Render.bind_eq_ok]
      refine ⟨true, _, appends context, ?_⟩
      rw [follows, Context.append, Context.append, Context.append, String.append_assoc]

end

end Node

namespace ParameterMapping

theorem property_eq_of_ofPlaceholder {setting setting' : Setting} {content : String}
    {mapping mapping' : ParameterMapping} (first : ofPlaceholder setting content = .ok mapping)
    (second : ofPlaceholder setting' content = .ok mapping') :
    mapping.property = mapping'.property := by
  unfold ofPlaceholder at first second
  simp only [bind_eq_ok] at first second
  obtain ⟨placeholder, parsed, -, -, _, -, _, -, finished⟩ := first
  obtain ⟨placeholder', parsed', -, -, _, -, _, -, finished'⟩ := second
  obtain rfl : placeholder = placeholder' := Except.ok.inj (parsed.symm.trans parsed')
  rw [property_of_finish finished, property_of_finish finished']

end ParameterMapping

theorem MarkedSql.same_of_ofText {setting setting' : ParameterMapping.Setting} {sql : String}
    {marked marked' : MarkedSql} (first : ofText setting sql = .ok marked)
    (second : ofText setting' sql = .ok marked') :
    marked.sql = marked'.sql ∧
      marked.mappings.map (·.property) = marked'.mappings.map (·.property) := by
  simp only [ofText, bind_eq_ok, pure_eq_ok, mapM_eq_ok] at first second
  obtain ⟨mappings, resolved, rfl⟩ := first
  obtain ⟨mappings', resolved', rfl⟩ := second
  refine ⟨rfl, ?_⟩
  have paired : List.Forall₂ (fun mapping mapping' : ParameterMapping =>
      mapping.property = mapping'.property) mappings mappings' := by
    refine (forall₂_common resolved resolved').imp ?_
    rintro mapping mapping' ⟨-, content, found, found'⟩
    exact ParameterMapping.property_eq_of_ofPlaceholder found found'
  rw [← List.forall₂_eq_eq_eq, List.forall₂_map_left_iff, List.forall₂_map_right_iff]
  exact paired

namespace BoundSql

theorem parameterValues_eq (bound : BoundSql) :
    bound.parameterValues =
      ((bound.mappings.map (·.property)).map bound.propertyValue).mapM id := by
  rw [List.mapM_map, List.mapM_map]
  rfl

end BoundSql

namespace SqlSource

variable {root : Node} {setting : CompileSetting} {parameter : Value}

theorem propertyValue_of_unbound {marked marked' : MarkedSql} {bindings : Fields Value}
    {property : String} (unbound : Fields.get? bindings (splitRoot property).1 = none) :
    (bind parameter setting marked []).propertyValue property =
      (bind parameter setting marked' bindings).propertyValue property := by
  simp only [BoundSql.propertyValue, bind, unbound, Fields.get?]
  rfl

/-- A template without dynamic parts has the same SQL compiled ahead as rendered anew, and the same
value at every marker that does not ask for the database id. -/
theorem parameterValues_of_fixed (fixed : root.isDynamic = false) {type : ValueType}
    {source : SqlSource} {ahead anew : BoundSql}
    (compiled : compileStatic root type setting = .ok source)
    (first : source.boundSql parameter setting = .ok ahead)
    (second : (dynamic root).boundSql parameter setting = .ok anew) :
    ahead.sql = anew.sql ∧
      ahead.mappings.map (·.property) = anew.mappings.map (·.property) ∧
      (∀ property, (splitRoot property).1 ≠ databaseIdName →
        ahead.propertyValue property = anew.propertyValue property) ∧
      ((∀ mapping ∈ ahead.mappings, (splitRoot mapping.property).1 ≠ databaseIdName) →
        ahead.parameterValues = anew.parameterValues) := by
  obtain ⟨text, appends⟩ := Node.exists_text_of_fixed root fixed
  simp only [compileStatic, renderFor, appends, bind_eq_ok, pure_eq_ok] at compiled
  obtain ⟨_, -, marked, marks, rfl⟩ := compiled
  simp only [boundSql, renderFor, appends, bind_eq_ok, pure_eq_ok] at first second
  obtain rfl := first
  obtain ⟨_, -, marked', marks', rfl⟩ := second
  obtain ⟨sql, properties⟩ := MarkedSql.same_of_ofText marks marks'
  have agree : ∀ property, (splitRoot property).1 ≠ databaseIdName →
      (bind parameter setting marked []).propertyValue property =
        (bind parameter setting marked'
          (Context.append (.initial parameter setting.databaseId) text).bindings).propertyValue
            property := by
    intro property apart
    refine propertyValue_of_unbound ?_
    simp only [Context.append, Context.initial, Fields.get?, if_neg apart.symm]
  refine ⟨sql, properties, agree, fun named => ?_⟩
  have same : (marked.mappings.map (·.property)).map
      (bind parameter setting marked []).propertyValue =
      (marked'.mappings.map (·.property)).map (bind parameter setting marked'
        (Context.append (.initial parameter setting.databaseId) text).bindings).propertyValue := by
    rw [← properties]
    refine List.map_congr_left fun property mem => agree property ?_
    obtain ⟨mapping, among, rfl⟩ := List.mem_map.1 mem
    exact named mapping among
  rw [BoundSql.parameterValues_eq, BoundSql.parameterValues_eq]
  exact congrArg (List.mapM id) same

theorem exists_of_any {type : ValueType} {test : BoundSql → BoundSql → Bool}
    (passes : (compileStatic root type setting >>= (·.boundSql parameter setting)).toOption.any
      fun ahead => ((dynamic root).boundSql parameter setting).toOption.any (test ahead)) :
    ∃ source ahead anew, compileStatic root type setting = .ok source ∧
      source.boundSql parameter setting = .ok ahead ∧
      (dynamic root).boundSql parameter setting = .ok anew ∧ test ahead anew = true := by
  simp only [Option.any_eq_true, toOption_eq_some, bind_eq_ok] at passes
  obtain ⟨ahead, ⟨source, compiled, first⟩, anew, second, passed⟩ := passes
  exact ⟨source, ahead, anew, compiled, first, second, passed⟩

def byIdAndName : Node :=
  .mixed [.static "select * from t where id = #\x7bid\x7d ",
    .static "and name = #\x7b_parameter.name\x7d "]

def sought : Value :=
  .map [("id", .int 7), ("name", .text "ann")]

def onSqlite : CompileSetting :=
  ⟨.initial, some "sqlite", false⟩

theorem parameterValues_of_fixed_sought : ∃ source ahead anew,
    compileStatic byIdAndName .any onSqlite = .ok source ∧
      source.boundSql sought onSqlite = .ok ahead ∧
      (dynamic byIdAndName).boundSql sought onSqlite = .ok anew ∧
      ahead.mappings.length = 2 ∧ ahead.sql = anew.sql ∧
      ahead.parameterValues = anew.parameterValues := by
  obtain ⟨source, ahead, anew, compiled, first, second, passed⟩ :=
    @exists_of_any byIdAndName onSqlite sought .any
      (fun ahead _ => ahead.mappings.length == 2 &&
        ahead.mappings.all fun mapping => (splitRoot mapping.property).1 != databaseIdName)
      (by decide +kernel)
  simp only [Bool.and_eq_true, beq_iff_eq, List.all_eq_true, bne_iff_ne] at passed
  obtain ⟨sql, -, -, values⟩ := parameterValues_of_fixed (by decide) compiled first second
  exact ⟨source, ahead, anew, compiled, first, second, passed.1, sql, values passed.2⟩

def askingDatabase : Node :=
  .static "select #\x7b_databaseId\x7d"

/-- The database id is null at a marker of a template that was compiled ahead, and it is what was
configured where the template is rendered anew. -/
theorem exists_parameterValues_ne : askingDatabase.isDynamic = false ∧ ∃ source ahead anew,
    compileStatic askingDatabase .any onSqlite = .ok source ∧
      source.boundSql .null onSqlite = .ok ahead ∧
      (dynamic askingDatabase).boundSql .null onSqlite = .ok anew ∧
      ahead.parameterValues ≠ anew.parameterValues := by
  obtain ⟨source, ahead, anew, compiled, first, second, passed⟩ :=
    @exists_of_any askingDatabase onSqlite .null .any
      (fun ahead anew => ahead.parameterValues.toOption.map (·.map Value.isNull) !=
        anew.parameterValues.toOption.map (·.map Value.isNull))
      (by decide +kernel)
  refine ⟨rfl, source, ahead, anew, compiled, first, second, fun same => ?_⟩
  rw [same, bne_self_eq_false] at passed
  cases passed

end SqlSource

end MappedSql
