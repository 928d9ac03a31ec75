import MappedSql.Proofs.Template.Binding
import MappedSql.Proofs.Value.Declared
import MappedSql.Source

/-!
# Types of placeholders

A placeholder that leaves its type open gets the one that its property is found to have, from the
bindings, from the parameter as a whole or from the declared fields of records. The handler of this
type takes what the property leads to (`SqlSource.binds_of_untyped`), if records hold what their
declared fields accept.
-/

namespace MappedSql

/-- Nothing is said about the type of the value or how it is bound. -/
def Placeholder.Untyped (placeholder : Placeholder) : Prop :=
  ∀ name ∈ ["javaType", "jdbcType", "typeHandler"], placeholder.attribute? name = none
  deriving Decidable

theorem Placeholder.Untyped.apart {placeholder : Placeholder}
    (untyped : placeholder.Untyped) : ∀ pair ∈ placeholder.attributes,
      pair.1 ≠ "javaType" ∧ pair.1 ≠ "typeHandler" := by
  have apart {name : String} (mem : name ∈ ["javaType", "jdbcType", "typeHandler"]) :
      ∀ pair ∈ placeholder.attributes, pair.1 ≠ name := fun pair inside same =>
    bne_iff_ne.1 (List.lookup_eq_none_iff.1 (untyped name mem) pair inside) same.symm
  exact fun pair inside => ⟨apart (by simp) pair inside, apart (by simp) pair inside⟩

theorem Placeholder.trim_property {content : String} {placeholder : Placeholder}
    (parsed : parse content = .ok placeholder) :
    Text.trim (placeholder.property.getD "").toList = (placeholder.property.getD "").toList := by
  obtain ⟨⟨⟨property, expression⟩, rest⟩, read, parsed⟩ := bind_eq_ok.1 parsed
  obtain ⟨⟨columnType, rest⟩, -, parsed⟩ := bind_eq_ok.1 parsed
  have same : placeholder.property = property := by
    dsimp only at parsed
    split at parsed
    · rw [← pure_eq_ok.1 parsed]
    · obtain ⟨attributes, -, parsed⟩ := bind_eq_ok.1 parsed
      rw [← pure_eq_ok.1 parsed]
    · cases parsed
  rw [same]
  unfold readSubject at read
  split at read
  · split at read
    · cases read
      rfl
    · cases read
  · dsimp only at read
    split at read
    · cases read
    · cases read
      rw [Option.getD_some, String.toList_ofList, Text.trim_trim]

namespace ParameterMapping

variable {setting : Setting} {content : String} {mapping : ParameterMapping}

theorem Draft.withAttribute_keeps {registry : Registry} {draft after : Draft} {name value : String}
    (untyped : name ≠ "javaType") (unhandled : name ≠ "typeHandler")
    (went : draft.withAttribute registry content (name, value) = .ok after) :
    after.type = draft.type ∧ after.handlerName = draft.handlerName := by
  unfold withAttribute at went
  dsimp only at went
  split at went
  · exact absurd rfl untyped
  · obtain ⟨direction, -, went⟩ := bind_eq_ok.1 went
    obtain rfl := pure_eq_ok.1 went
    exact ⟨rfl, rfl⟩
  · obtain ⟨scale, -, went⟩ := bind_eq_ok.1 went
    obtain rfl := pure_eq_ok.1 went
    exact ⟨rfl, rfl⟩
  · obtain rfl := pure_eq_ok.1 went
    exact ⟨rfl, rfl⟩
  · exact absurd rfl unhandled
  · obtain rfl := pure_eq_ok.1 went
    exact ⟨rfl, rfl⟩
  · obtain rfl := pure_eq_ok.1 went
    exact ⟨rfl, rfl⟩

theorem Draft.withAttributes_keeps {registry : Registry} {draft after : Draft}
    {attributes : List (String × String)}
    (untyped : ∀ pair ∈ attributes, pair.1 ≠ "javaType" ∧ pair.1 ≠ "typeHandler")
    (went : draft.withAttributes registry content attributes = .ok after) :
    after.type = draft.type ∧ after.handlerName = draft.handlerName := by
  induction attributes generalizing draft with
  | nil =>
      obtain rfl := Except.ok.inj went
      exact ⟨rfl, rfl⟩
  | cons pair rest ih =>
      obtain ⟨⟨untyped, unhandled⟩, others⟩ := List.forall_mem_cons.1 untyped
      obtain ⟨middle, first, went⟩ := bind_eq_ok.1 went
      obtain ⟨type, handler⟩ := withAttribute_keeps untyped unhandled first
      obtain ⟨sameType, sameHandler⟩ := ih others went
      exact ⟨sameType.trans type, sameHandler.trans handler⟩

theorem handler_of_finish {draft : Draft} {registry : Registry} {property : String}
    {dbType : Option DbType} (unhandled : draft.handlerName = none)
    (finished : draft.finish registry property dbType = .ok mapping) :
    mapping.dbType = dbType ∧ mapping.handler = registry.handler draft.type dbType := by
  unfold Draft.finish at finished
  by_cases refused : (draft.type = .cursor && draft.resultMap.isNone) = true
  · simp only [if_pos refused, bind_eq_ok, failWith_ne_ok, false_and, exists_false] at finished
  · simp only [if_neg refused, unhandled, pure_bind, pure_eq_ok] at finished
    obtain rfl := finished
    exact ⟨rfl, rfl⟩

theorem handler_of_untyped {placeholder : Placeholder}
    (parsed : Placeholder.parse content = .ok placeholder) (untyped : placeholder.Untyped)
    (resolved : ofPlaceholder setting content = .ok mapping) :
    mapping.dbType = none ∧
      mapping.handler =
        setting.registry.handler (propertyType setting mapping.property none) none ∧
      Text.trim mapping.property.toList = mapping.property.toList := by
  obtain ⟨own, parsed', resolved⟩ := bind_eq_ok.1 resolved
  obtain rfl := Except.ok.inj (parsed.symm.trans parsed')
  obtain ⟨-, -, resolved⟩ := bind_eq_ok.1 resolved
  obtain ⟨dbType, typed, resolved⟩ := bind_eq_ok.1 resolved
  obtain ⟨draft, attributed, finished⟩ := bind_eq_ok.1 resolved
  have none : dbType = none := by
    rw [dbTypeOf, untyped "jdbcType" (by simp)] at typed
    exact (Except.ok.inj typed).symm
  subst none
  obtain ⟨type, handler⟩ := Draft.withAttributes_keeps untyped.apart attributed
  obtain ⟨column, bound⟩ := handler_of_finish handler finished
  rw [property_of_finish finished]
  refine ⟨column, bound.trans ?_, Placeholder.trim_property parsed⟩
  rw [type]

end ParameterMapping

theorem Text.takeWhile_of_splitAtChar {cs first : List Char} {others : List (List Char)}
    (split : splitAtChar '.' cs = first :: others) :
    first.takeWhile (· != '[') = cs.takeWhile fun c => c != '.' && c != '[' := by
  induction cs generalizing first others with
  | nil =>
      obtain ⟨rfl, -⟩ := List.cons.inj split
      rfl
  | cons c rest ih =>
      unfold splitAtChar at split
      by_cases dot : c = '.'
      · subst dot
        obtain ⟨rfl, -⟩ := List.cons.inj split
        rfl
      · rw [if_neg (by simpa using dot)] at split
        obtain ⟨piece, pieces, own⟩ := List.exists_cons_of_ne_nil (splitAtChar_ne_nil '.' rest)
        rw [own] at split
        obtain ⟨rfl, -⟩ := List.cons.inj split
        by_cases bracket : c = '['
        · simp [bracket]
        · simp [bracket, dot, ih own]

theorem splitRoot_fst (property : String) : (splitRoot property).1 =
    String.ofList (property.toList.takeWhile fun c => c != '.' && c != '[') := by
  unfold splitRoot
  dsimp only
  split <;> rfl

namespace Registry

variable {registry : Registry}

theorem Lacks.propertyType?_eq_none (unhidden : registry.Lacks parameterName) {property : String}
    (whole : (splitRoot property).1 = parameterName) (name : String) :
    registry.propertyType? (.record name) property = none := by
  obtain ⟨first, others, split⟩ :=
    List.exists_cons_of_ne_nil (Text.splitAtChar_ne_nil '.' property.toList)
  have undeclared : registry.segmentType? (.record name) first = none := by
    cases declared : registry.segmentType? (.record name) first with
    | none => rfl
    | some type =>
        obtain ⟨own, schema, found, -, registered, hidden, -⟩ :=
          exists_field_of_segmentType? declared
        rw [Text.takeWhile_of_splitAtChar split, ← splitRoot_fst, whole,
          unhidden own schema registered] at hidden
        cases hidden
  rw [propertyType?, split, List.foldlM_cons, undeclared]
  rfl

theorem Standard.binds_undeclared (standard : registry.Standard) {parameter value : Value}
    {bindings : Fields Value} {property : String}
    (unbound : Fields.get? bindings (splitRoot property).1 = none)
    (unhandled : parameter.kind ∉ builtinTypes)
    (record : ∀ name fields, parameter = .record name fields →
      registry.Binds ((registry.propertyType? (.record name) property).getD .any) value) :
    registry.Binds
      (ParameterMapping.propertyType ⟨parameter.kind, bindings, registry⟩ property none) value := by
  have any := standard.binds_any value
  have unhandled' : registry.hasHandler parameter.kind = false := by
    rw [← Bool.not_eq_true, standard.hasHandler_iff]
    exact unhandled
  unfold ParameterMapping.propertyType
  simp only [unbound, unhandled', Bool.false_eq_true, if_false]
  rw [if_neg (by simp)]
  split
  · exact any
  · cases parameter with
    | record name fields => exact record name fields rfl
    | list items =>
        obtain ⟨first, others, split⟩ :=
          List.exists_cons_of_ne_nil (Text.splitAtChar_ne_nil '.' property.toList)
        rw [propertyType?, split]
        exact any
    | map fields => simp_all [Value.kind]
    | _ => simp [Value.kind, builtinTypes] at unhandled

end Registry

namespace SqlSource

variable {setting : CompileSetting} {parameter : Value} {marked : MarkedSql}
  {additional : Fields Value}

theorem binds_bound (standard : setting.registry.Standard) {property : String} {held value : Value}
    (bound : Fields.get? additional (splitRoot property).1 = some held)
    (resolved : (bind parameter setting marked additional).propertyValue property = .ok value) :
    setting.registry.Binds (ParameterMapping.propertyType
      ⟨parameter.kind, additional, setting.registry⟩ property none) value := by
  unfold BoundSql.propertyValue at resolved
  unfold ParameterMapping.propertyType
  simp only [bind, bound] at resolved ⊢
  cases below : (splitRoot property).2 with
  | none =>
      simp only [below, BoundSql.resolveBelow] at resolved ⊢
      rw [← Except.ok.inj resolved]
      exact standard.binds_kind held
  | some path =>
      simp only [below, BoundSql.resolveBelow] at resolved ⊢
      exact standard.binds_resolvePath resolved

theorem eq_of_handled (standard : setting.registry.Standard) {property : String} {value : Value}
    (unbound : Fields.get? additional (splitRoot property).1 = none)
    (handled : parameter.kind ∈ Registry.builtinTypes)
    (resolved : (bind parameter setting marked additional).propertyValue property = .ok value) :
    value = parameter ∨ value = .null := by
  have has := (standard.hasHandler_iff _).2 handled
  unfold BoundSql.propertyValue at resolved
  simp only [bind, unbound] at resolved
  split at resolved
  · cases below : (splitRoot property).2 with
    | none =>
        rw [below] at resolved
        exact .inl (Except.ok.inj resolved).symm
    | some path =>
        rw [below] at resolved
        exact .inr (Registry.resolvePath_of_builtin handled resolved)
  · cases null : parameter.isNull <;> simp only [null, has] at resolved
    · exact .inl (Except.ok.inj resolved).symm
    · exact .inr (Except.ok.inj resolved).symm

theorem lookupPath_of_record (standard : setting.registry.Standard) {property name : String}
    {fields : Fields Value} {value : Value}
    (unbound : Fields.get? additional (splitRoot property).1 = none)
    (resolved : (bind (.record name fields) setting marked additional).propertyValue property =
      .ok value) :
    (splitRoot property).1 = parameterName ∨
      ∃ found, (Value.record name fields).lookupPath property = .ok found ∧
        value = found.getD .null := by
  have unhandled : setting.registry.hasHandler (Value.record name fields).kind = false := by
    rw [← Bool.not_eq_true, standard.hasHandler_iff]
    simp [Value.kind, Registry.builtinTypes]
  unfold BoundSql.propertyValue at resolved
  simp only [bind, unbound] at resolved
  split at resolved
  · exact .inl (by assumption)
  · cases undeclared : BoundSql.undeclared
        (declaredFields setting.registry (.record name fields)) (splitRoot property).1 <;>
      simp only [Value.isNull, unhandled, undeclared] at resolved
    · exact .inr (BoundSql.resolvePath_eq_ok resolved)
    · cases resolved

theorem binds_property (standard : setting.registry.Standard)
    (unhidden : setting.registry.Lacks parameterName)
    (accepts : ∀ name fields, parameter = .record name fields →
      setting.registry.Accepts (.record name) parameter)
    {property : String} (trimmed : Text.trim property.toList = property.toList)
    (ends : setting.registry.Lacks "" ∨ '.' ∉ property.toList.getLast?) {value : Value}
    (resolved : (bind parameter setting marked additional).propertyValue property = .ok value) :
    setting.registry.Binds (ParameterMapping.propertyType
      ⟨parameter.kind, additional, setting.registry⟩ property none) value := by
  -- type and value are looked for in the same order: bindings, the whole parameter, its fields
  cases bound : Fields.get? additional (splitRoot property).1 with
  | some held => exact binds_bound standard bound resolved
  | none =>
      by_cases handled : parameter.kind ∈ Registry.builtinTypes
      · have type : ParameterMapping.propertyType ⟨parameter.kind, additional, setting.registry⟩
            property none = parameter.kind := by
          unfold ParameterMapping.propertyType
          simp only [bound, (standard.hasHandler_iff _).2 handled, if_true]
        rw [type]
        rcases eq_of_handled standard bound handled resolved with rfl | rfl
        · exact standard.binds_kind value
        · exact standard.binds_null _
      · refine standard.binds_undeclared bound handled fun name fields isRecord => ?_
        subst isRecord
        rcases lookupPath_of_record standard bound resolved with whole | ⟨found, read, rfl⟩
        · rw [unhidden.propertyType?_eq_none whole]
          exact standard.binds_any value
        · exact (accepts name fields rfl).lookupPath standard trimmed ends read

def renderedText (root : Node) (parameter : Value) (setting : CompileSetting) : String :=
  finishSql (renderFor root parameter setting.databaseId).2.sql setting.shrinkWhitespace

theorem exists_marked_of_boundSql {root : Node} {bound : BoundSql}
    (rendered : (dynamic root).boundSql parameter setting = .ok bound) :
    ∃ marked additional, MarkedSql.ofText ⟨parameter.kind, additional, setting.registry⟩
        (renderedText root parameter setting) = .ok marked ∧
      bound = bind parameter setting marked additional := by
  unfold boundSql at rendered
  unfold renderedText
  rcases ran : renderFor root parameter setting.databaseId with ⟨outcome, context⟩
  simp only [ran, bind_eq_ok, pure_eq_ok] at rendered
  obtain ⟨-, -, marked, parsed, rfl⟩ := rendered
  exact ⟨marked, context.bindings, parsed, rfl⟩

/-- A value that is found for a placeholder without a type of its own is taken by the handler that
the placeholder got, if the parameter holds what the declared fields accept. A property with a dot
at its end is left out where a field without a name is declared. -/
theorem binds_of_untyped {root : Node} {bound : BoundSql}
    (standard : setting.registry.Standard) (unhidden : setting.registry.Lacks parameterName)
    (accepts : ∀ name fields, parameter = .record name fields →
      setting.registry.Accepts (.record name) parameter)
    (rendered : (dynamic root).boundSql parameter setting = .ok bound) :
    List.Forall₂ (fun content mapping =>
        ∃ placeholder, Placeholder.parse content = .ok placeholder ∧
          (placeholder.Untyped →
            (setting.registry.Lacks "" ∨ '.' ∉ mapping.property.toList.getLast?) →
            ∀ value, bound.parameterValue mapping = .ok value →
              ∃ converted, mapping.handler.bind value mapping.dbType = .ok converted))
      (Piece.contents (Piece.ofText '#' (renderedText root parameter setting))) bound.mappings := by
  obtain ⟨marked, additional, parsed, rfl⟩ := exists_marked_of_boundSql rendered
  simp only [MarkedSql.ofText, bind_eq_ok, pure_eq_ok, mapM_eq_ok] at parsed
  obtain ⟨mappings, resolved, rfl⟩ := parsed
  refine resolved.imp fun content mapping found => ?_
  obtain ⟨placeholder, read, -⟩ := bind_eq_ok.1 found
  refine ⟨placeholder, read, fun untyped ends value at_ => ?_⟩
  obtain ⟨column, handler, trimmed⟩ := ParameterMapping.handler_of_untyped read untyped found
  rw [column, handler]
  exact binds_property standard unhidden accepts trimmed ends at_

def posts (authors : RecordSchema) : CompileSetting where
  registry := { Registry.initial with
    records := [("author", authors), ("post", [("author", .record "author"), ("likes", .int)])] }
  databaseId := none
  shrinkWhitespace := false

def post (author : Value) : Value :=
  .record "post" [("author", author), ("likes", .text "12")]

def likes : Node :=
  .text "select #\x7bauthor.name\x7d, #\x7blikes\x7d" none

theorem accepts_post {authors : RecordSchema} {held : Fields Value}
    (entries : ∀ entry ∈ authors, ∀ inner, Fields.get? held entry.1 = some inner →
      (posts authors).registry.Accepts entry.2 inner) :
    ∀ name fields, post (.record "author" held) = .record name fields →
      (posts authors).registry.Accepts (.record name) (post (.record "author" held)) := by
  rintro name fields ⟨⟩
  refine .of_entries rfl rfl (List.forall_mem_cons.2 ⟨?_, List.forall_mem_cons.2 ⟨?_, nofun⟩⟩)
  · rintro inner ⟨⟩
    exact .of_entries rfl rfl entries
  · rintro inner ⟨⟩
    exact .plain nofun ⟨.int 12, rfl⟩

theorem standard_posts (authors : RecordSchema) : (posts authors).registry.Standard :=
  rfl

theorem binds_of_untyped_likes :
    ∃ bound, (dynamic likes).boundSql (post (.record "author" [("name", .int 3)]))
        (posts [("name", .text)]) = .ok bound ∧
      bound.mappings.map (·.property) = ["author.name", "likes"] ∧
      ∀ mapping ∈ bound.mappings, ∀ value, bound.parameterValue mapping = .ok value →
        ∃ converted, mapping.handler.bind value mapping.dbType = .ok converted := by
  have ran : ∃ bound ∈ ((dynamic likes).boundSql (post (.record "author" [("name", .int 3)]))
      (posts [("name", .text)])).toOption,
        bound.mappings.map (·.property) = ["author.name", "likes"] := by
    decide +kernel
  obtain ⟨bound, rendered, properties⟩ := ran
  have rendered := toOption_eq_some.1 rendered
  have unhidden : (posts [("name", .text)]).registry.Lacks parameterName :=
    Registry.lacks_of_records (by decide)
  have named : (posts [("name", .text)]).registry.Lacks "" := Registry.lacks_of_records (by decide)
  have accepts : ∀ entry ∈ [("name", ValueType.text)], ∀ inner,
      Fields.get? [("name", Value.int 3)] entry.1 = some inner →
      (posts [("name", .text)]).registry.Accepts entry.2 inner := by
    refine List.forall_mem_cons.2 ⟨?_, nofun⟩
    rintro inner ⟨⟩
    exact .plain nofun ⟨_, rfl⟩
  have related := binds_of_untyped (standard_posts _) unhidden (accepts_post accepts) rendered
  have written : Piece.contents (Piece.ofText '#' (renderedText likes
      (post (.record "author" [("name", .int 3)])) (posts [("name", .text)]))) =
        ["author.name", "likes"] := by
    decide +kernel
  have untyped : ∀ content ∈ ["author.name", "likes"],
      ∃ placeholder ∈ (Placeholder.parse content).toOption, placeholder.Untyped := by
    decide +kernel
  rw [written] at related
  have binds := ((List.forall₂_and_left _ _).2 ⟨untyped, related⟩).imp
    fun content mapping ⟨⟨own, parsed, untyped⟩, placeholder, parsed', binds⟩ =>
      binds (Except.ok.inj ((toOption_eq_some.1 parsed).symm.trans parsed') ▸ untyped) (.inl named)
  refine ⟨bound, rendered, properties, fun mapping mem => ?_⟩
  obtain ⟨i, inside, rfl⟩ := List.getElem_of_mem mem
  exact binds.get (binds.length_eq ▸ inside) inside

/-- The property `author.` is declared as the author's field without a name, but leads to the
author. -/
theorem exists_unbound :
    ∃ (bound : BoundSql) (mapping : ParameterMapping) (value : Value),
      (posts [("", .int)]).registry.Lacks parameterName ∧
      (∀ name fields, post (.record "author" []) = .record name fields →
        (posts [("", .int)]).registry.Accepts (.record name) (post (.record "author" []))) ∧
      Placeholder.parse "author." = .ok ⟨some "author.", none, []⟩ ∧
      (dynamic (.text "select #\x7bauthor.\x7d" none)).boundSql (post (.record "author" []))
        (posts [("", .int)]) = .ok bound ∧
      bound.mappings = [mapping] ∧ bound.parameterValue mapping = .ok value ∧
      ∀ converted, mapping.handler.bind value mapping.dbType ≠ .ok converted := by
  have ran : ∃ bound ∈ ((dynamic (.text "select #\x7bauthor.\x7d" none)).boundSql
      (post (.record "author" [])) (posts [("", .int)])).toOption,
        ∃ mapping ∈ bound.mappings.head?, bound.mappings.length = 1 ∧
          ∃ value ∈ (bound.parameterValue mapping).toOption,
            (mapping.handler.bind value mapping.dbType).isOk = false := by
    decide +kernel
  obtain ⟨bound, rendered, mapping, first, single, value, found, fails⟩ := ran
  have only : bound.mappings = [mapping] := by
    obtain ⟨other, is⟩ := List.length_eq_one_iff.1 single
    rw [is] at first
    rw [is, Option.some.inj first]
  refine ⟨bound, mapping, value, Registry.lacks_of_records (by decide),
    accepts_post (List.forall_mem_cons.2 ⟨nofun, nofun⟩), by decide +kernel,
    toOption_eq_some.1 rendered, only, toOption_eq_some.1 found, fun converted went => ?_⟩
  rw [went] at fails
  cases fails

end SqlSource

end MappedSql
