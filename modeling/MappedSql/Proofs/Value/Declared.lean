import Mathlib.Data.List.TakeWhile
import MappedSql.Proofs.Outcome
import MappedSql.Source

namespace MappedSql

theorem Value.exists_coerce_any (value : Value) :
    ∃ converted, value.coerce .any = .ok converted := by
  cases value <;> exact ⟨_, rfl⟩

theorem Value.exists_coerce_kind (value : Value) (builtin : value.kind ∈ Registry.builtinTypes) :
    ∃ converted, value.coerce value.kind = .ok converted := by
  cases value with
  | list | map | record => simp [kind, Registry.builtinTypes] at builtin
  | _ => exact ⟨_, rfl⟩

namespace Registry

def Standard (registry : Registry) : Prop :=
  registry.byType = initial.byType

theorem handlerFor?_initial (type : ValueType) :
    initial.byType.lookup type = if type ∈ builtinTypes then some (.builtin type) else none := by
  cases type <;> rfl

variable {registry : Registry}

theorem Standard.hasHandler_iff (standard : registry.Standard) (type : ValueType) :
    registry.hasHandler type = true ↔ type ∈ builtinTypes := by
  rw [hasHandler, handlerFor?, standard, handlerFor?_initial]
  split <;> simp_all

theorem Standard.handler_eq (standard : registry.Standard) (type : ValueType) :
    registry.handler type none = .builtin (if type ∈ builtinTypes then type else .any) := by
  rw [handler, handlerFor?, standard, handlerFor?_initial]
  split <;> rfl

def Binds (registry : Registry) (type : ValueType) (value : Value) : Prop :=
  ∃ bound, (registry.handler type none).bind value none = .ok bound

theorem Standard.binds_of_none (standard : registry.Standard) {type : ValueType}
    (unhandled : type ∉ builtinTypes) (value : Value) : registry.Binds type value := by
  rw [Binds, standard.handler_eq, if_neg unhandled]
  exact value.exists_coerce_any

theorem Standard.binds_any (standard : registry.Standard) (value : Value) :
    registry.Binds .any value := by
  rw [Binds, standard.handler_eq, if_pos (by decide)]
  exact value.exists_coerce_any

theorem Standard.binds_null (standard : registry.Standard) (type : ValueType) :
    registry.Binds type .null := by
  rw [Binds, standard.handler_eq]
  exact ⟨.null, rfl⟩

theorem Standard.binds_kind (standard : registry.Standard) (value : Value) :
    registry.Binds value.kind value := by
  by_cases handled : value.kind ∈ builtinTypes
  · rw [Binds, standard.handler_eq, if_pos handled]
    exact value.exists_coerce_kind handled
  · exact standard.binds_of_none handled value

/-- A declared type accepts what its handler takes; that of a record accepts what holds accepted
values in the declared fields that are present. -/
inductive Accepts (registry : Registry) : ValueType → Value → Prop
  | plain {type : ValueType} {value : Value} (unrecorded : ∀ name, type ≠ .record name)
      (binds : registry.Binds type value) : Accepts registry type value
  | record {name : String} {value : Value}
      (fields : ∀ schema, registry.schema? name = some schema →
        ∀ own, value.fields? = some own → ∀ field type inner,
          Fields.get? schema field = some type → Fields.get? own field = some inner →
          Accepts registry type inner) :
      Accepts registry (.record name) value

variable {owner type : ValueType} {value next : Value}

theorem Accepts.binds (standard : registry.Standard) (accepts : registry.Accepts type value) :
    registry.Binds type value := by
  cases accepts with
  | plain _ binds => exact binds
  | record _ => exact standard.binds_of_none (by simp [builtinTypes]) value

theorem Accepts.of_null (standard : registry.Standard) (type : ValueType) :
    registry.Accepts type .null := by
  by_cases recorded : ∃ name, type = .record name
  · obtain ⟨name, rfl⟩ := recorded
    exact .record fun _ _ own found => by cases found
  · exact .plain (not_exists.1 recorded) (standard.binds_null type)

theorem Accepts.of_entries {name : String} {schema : RecordSchema} {own : Fields Value}
    (registered : registry.schema? name = some schema) (held : value.fields? = some own)
    (entries : ∀ entry ∈ schema, ∀ inner, Fields.get? own entry.1 = some inner →
      registry.Accepts entry.2 inner) : registry.Accepts (.record name) value := by
  refine .record fun schema' registered' own' held' field type inner declared found => ?_
  obtain rfl := Option.some.inj (registered.symm.trans registered')
  obtain rfl := Option.some.inj (held.symm.trans held')
  exact entries (field, type) (Fields.mem_of_get? declared) inner found

def fieldSteps (segments : List (List Char)) : List Step :=
  segments.map fun segment => .field (String.ofList segment)

theorem exists_field_of_segmentType? {segment : List Char}
    (declared : registry.segmentType? owner segment = some type) :
    ∃ name schema own, owner = .record name ∧ registry.schema? name = some schema ∧
      Fields.get? schema (String.ofList (segment.takeWhile (· != '['))) = some own ∧
      type = if segment.contains '[' then .any else own := by
  unfold segmentType? at declared
  split at declared
  · rename_i name
    obtain ⟨schema, registered, declared⟩ := Option.bind_eq_some_iff.1 declared
    obtain ⟨own, found, declared⟩ := Option.bind_eq_some_iff.1 declared
    refine ⟨name, schema, own, rfl, registered, found, ?_⟩
    split at declared
    · rw [if_pos (by assumption), Option.some.inj declared]
    · rw [if_neg (by assumption), Option.some.inj declared]
  · cases declared

theorem segmentType?_eq_some {segment : List Char} (unbracketed : '[' ∉ segment)
    (declared : registry.segmentType? owner segment = some type) :
    ∃ name schema, owner = .record name ∧ registry.schema? name = some schema ∧
      Fields.get? schema (String.ofList segment) = some type := by
  obtain ⟨name, schema, own, record, registered, found, rfl⟩ :=
    exists_field_of_segmentType? declared
  have whole : segment.takeWhile (· != '[') = segment :=
    List.takeWhile_eq_self_iff.2 fun c mem => bne_iff_ne.2 fun same => unbracketed (same ▸ mem)
  rw [whole] at found
  exact ⟨name, schema, record, registered, by simpa [unbracketed] using found⟩

theorem Accepts.child (accepts : registry.Accepts owner value) {segment : List Char}
    (unbracketed : '[' ∉ segment) (declared : registry.segmentType? owner segment = some type)
    (found : value.child? (.field (String.ofList segment)) = some next) :
    registry.Accepts type next := by
  obtain ⟨name, schema, rfl, registered, own⟩ := segmentType?_eq_some unbracketed declared
  cases accepts with
  | plain unrecorded _ => exact absurd rfl (unrecorded name)
  | record fields =>
      cases value with
      | map held | record _ held => exact fields schema registered held rfl _ _ _ own found
      | _ => cases found

theorem Accepts.follow (standard : registry.Standard) {segments : List (List Char)}
    (unbracketed : ∀ segment ∈ segments, '[' ∉ segment)
    (declared : segments.foldlM registry.segmentType? owner = some type)
    (accepts : registry.Accepts owner value) {path : String} {found : Option Value}
    (followed : value.follow path (fieldSteps segments) = .ok found) :
    registry.Accepts type (found.getD .null) := by
  induction segments generalizing owner value with
  | nil =>
      obtain rfl := Option.some.inj declared
      obtain rfl := Except.ok.inj followed
      exact accepts
  | cons segment rest ih =>
      obtain ⟨unbracketed, others⟩ := List.forall_mem_cons.1 unbracketed
      obtain ⟨inner, here, there⟩ := Option.bind_eq_some_iff.1 declared
      unfold Value.follow fieldSteps at followed
      rw [List.map_cons] at followed
      dsimp only at followed
      split at followed
      · obtain rfl := Except.ok.inj followed
        exact .of_null standard type
      · split at followed
        · cases followed
        · split at followed
          · rename_i next found
            exact ih others there (accepts.child unbracketed here found) followed
          · obtain rfl := Except.ok.inj followed
            exact .of_null standard type

theorem segmentType?_of_bracket {segment : List Char} (bracket : '[' ∈ segment)
    (declared : registry.segmentType? owner segment = some type) : type = .any := by
  obtain ⟨name, schema, own, -, -, -, rfl⟩ := exists_field_of_segmentType? declared
  simp [bracket]

theorem foldlM_segmentType?_of_bracket {segments : List (List Char)} {segment : List Char}
    (mem : segment ∈ segments) (bracket : '[' ∈ segment)
    (declared : segments.foldlM registry.segmentType? owner = some type) : type = .any := by
  induction segments generalizing owner with
  | nil => cases mem
  | cons first rest ih =>
      obtain ⟨inner, here, there⟩ := Option.bind_eq_some_iff.1 declared
      rcases List.mem_cons.1 mem with rfl | mem
      · obtain rfl := segmentType?_of_bracket bracket here
        cases rest with
        | nil => exact (Option.some.inj there).symm
        | cons next rest => cases there
      · exact ih mem there

end Registry

namespace Text

theorem splitAtChar_of_not_mem {separator : Char} {cs : List Char} (none : separator ∉ cs) :
    splitAtChar separator cs = [cs] := by
  induction cs with
  | nil => rfl
  | cons c rest ih =>
      rw [List.mem_cons, not_or] at none
      simp [splitAtChar, ih none.2, Ne.symm none.1]

theorem splitAtChar_append {separator : Char} {cs : List Char} (none : separator ∉ cs)
    (rest : List Char) :
    splitAtChar separator (cs ++ separator :: rest) = cs :: splitAtChar separator rest := by
  induction cs with
  | nil => simp [splitAtChar]
  | cons c cs ih =>
      rw [List.mem_cons, not_or] at none
      simp [splitAtChar, ih none.2, Ne.symm none.1]

theorem splitAtChar_ne_nil (separator : Char) (cs : List Char) : splitAtChar separator cs ≠ [] := by
  cases cs with
  | nil => simp [splitAtChar]
  | cons c rest =>
      unfold splitAtChar
      split
      · simp
      · split <;> simp

theorem exists_mem_splitAtChar {separator c : Char} (other : c ≠ separator) {cs : List Char} :
    (∃ piece ∈ splitAtChar separator cs, c ∈ piece) ↔ c ∈ cs := by
  induction cs with
  | nil => simp [splitAtChar]
  | cons d rest ih =>
      obtain ⟨first, others, split⟩ :=
        List.exists_cons_of_ne_nil (splitAtChar_ne_nil separator rest)
      rw [List.mem_cons, ← ih, split]
      by_cases same : d = separator
      · subst same
        simp [splitAtChar, split, other]
      · simp [splitAtChar, split, same, or_assoc]

end Text

open Registry (fieldSteps)

theorem Path.steps_of_unbracketed {pending cs : List Char} {steps : List Step}
    (undotted : '.' ∉ pending) (unbracketed : '[' ∉ cs)
    (reads : readSteps? false pending cs = some steps) :
    ∃ segments, steps = fieldSteps segments ∧
      (Text.splitAtChar '.' (pending.reverse ++ cs) = segments ∨
        Text.splitAtChar '.' (pending.reverse ++ cs) = segments ++ [[]] ∧
          ∀ c ∈ (pending.reverse ++ cs).getLast?, c = '.') := by
  -- the pending characters are those of the segment that is being read, backwards
  induction cs generalizing pending steps with
  | nil =>
      unfold readSteps? pendingStep at reads
      obtain rfl := Option.some.inj reads
      cases pending with
      | nil => exact ⟨[], rfl, .inr ⟨rfl, by simp⟩⟩
      | cons c pending =>
          refine ⟨[(c :: pending).reverse], rfl, .inl ?_⟩
          rw [List.append_nil]
          exact Text.splitAtChar_of_not_mem (by rwa [List.mem_reverse])
  | cons c rest ih =>
      rw [List.mem_cons, not_or] at unbracketed
      unfold readSteps? at reads
      split at reads
      · rename_i isDot
        subst isDot
        cases pending with
        | nil => simp at reads
        | cons d pending =>
            simp only [List.isEmpty_cons, Bool.not_false, if_true] at reads
            obtain ⟨later, reads, made⟩ := Option.map_eq_some_iff.1 reads
            have undotted' : '.' ∉ ([] : List Char) := by simp
            obtain ⟨segments, rfl, split⟩ := ih undotted' unbracketed.2 reads
            rw [List.reverse_nil, List.nil_append] at split
            refine ⟨(d :: pending).reverse :: segments, made.symm, ?_⟩
            rw [Text.splitAtChar_append (by rwa [List.mem_reverse])]
            rcases split with same | ⟨same, ends⟩
            · exact .inl (congrArg _ same)
            · refine .inr ⟨congrArg _ same, ?_⟩
              cases rest with
              | nil => simp
              | cons e rest => simpa [List.getLast?_append, List.getLast?_cons] using ends
      · rename_i notDot
        rw [if_neg (Ne.symm unbracketed.1)] at reads
        split at reads
        · cases reads
        · have undotted : '.' ∉ c :: pending := by
            simpa using not_or.2 ⟨Ne.symm notDot, undotted⟩
          obtain ⟨segments, same, split⟩ := ih undotted unbracketed.2 reads
          refine ⟨segments, same, ?_⟩
          simpa using split

theorem Path.exists_of_parse {path : String} {steps : List Step} (parsed : parse path = .ok steps) :
    steps ≠ [] ∧ readSteps? false [] (Text.trim path.toList) = some steps := by
  unfold parse at parsed
  split at parsed
  · rename_i reads
    obtain rfl := Except.ok.inj parsed
    exact ⟨by simp, reads⟩
  · cases parsed

variable {registry : Registry} {name : String} {value : Value}

namespace Registry

def Lacks (registry : Registry) (field : String) : Prop :=
  ∀ name schema, registry.schema? name = some schema → Fields.get? schema field = none

theorem lacks_of_records {field : String}
    (lacks : ∀ entry ∈ registry.records, Fields.get? entry.2 field = none) :
    registry.Lacks field := fun name schema registered =>
  lacks (name, schema) (Fields.mem_of_get? registered)

/-- The declared type of a path on a record binds what the path leads to. A path with a dot at its
end is declared with the type of a field without a name, but leads to the value before the dot. -/
theorem Accepts.lookupPath (standard : registry.Standard)
    (accepts : registry.Accepts (.record name) value) {property : String}
    (trimmed : Text.trim property.toList = property.toList)
    (ends : registry.Lacks "" ∨ '.' ∉ property.toList.getLast?) {found : Option Value}
    (read : value.lookupPath property = .ok found) :
    registry.Binds ((registry.propertyType? (.record name) property).getD .any)
      (found.getD .null) := by
  cases declared : registry.propertyType? (.record name) property with
  | none => exact standard.binds_any _
  | some type =>
      have pieces : (∃ piece ∈ Text.splitAtChar '.' property.toList, '[' ∈ piece) ↔
          '[' ∈ property.toList := Text.exists_mem_splitAtChar (by decide)
      unfold propertyType? at declared
      by_cases bracket : '[' ∈ property.toList
      · -- nothing is declared about elements
        obtain ⟨segment, mem, bracket⟩ := pieces.2 bracket
        obtain rfl := foldlM_segmentType?_of_bracket mem bracket declared
        exact standard.binds_any _
      · obtain ⟨steps, parsed, followed⟩ := bind_eq_ok.1 read
        obtain ⟨some, reads⟩ := Path.exists_of_parse parsed
        rw [trimmed] at reads
        obtain ⟨segments, rfl, split⟩ := Path.steps_of_unbracketed (by simp) bracket reads
        rw [List.reverse_nil, List.nil_append] at split
        rcases split with same | ⟨same, dotted⟩
        · rw [same] at declared
          have unbracketed : ∀ segment ∈ segments, '[' ∉ segment := fun segment mem inside =>
            bracket (pieces.1 ⟨segment, same ▸ mem, inside⟩)
          exact (accepts.follow standard unbracketed declared followed).binds standard
        · -- behind the dot at the end a field without a name would be declared
          rw [same, List.foldlM_append] at declared
          obtain ⟨inner, -, declared⟩ := Option.bind_eq_some_iff.1 declared
          obtain ⟨last, here, -⟩ := Option.bind_eq_some_iff.1 declared
          obtain ⟨name, schema, -, registered, unnamed⟩ := segmentType?_eq_some (by simp) here
          rcases ends with named | ends
          · rw [named name schema registered] at unnamed
            cases unnamed
          · cases last : property.toList.getLast? with
            | none =>
                rw [List.getLast?_eq_none_iff.1 last] at same
                refine absurd ?_ some
                cases segments with
                | nil => rfl
                | cons first rest => simp [Text.splitAtChar] at same
            | some c => exact absurd (dotted c last ▸ last) ends

end Registry

theorem Value.follow_eq_descendant {value leaf : Value} {path : String} {steps : List Step}
    {found : Option Value} (followed : value.follow path steps = .ok found)
    (leads : value.descendant? steps = some leaf) : found = some leaf := by
  induction steps generalizing value with
  | nil => exact (Except.ok.inj followed).symm.trans leads
  | cons step rest ih =>
      obtain ⟨next, child, leads⟩ := Option.bind_eq_some_iff.1 leads
      unfold follow at followed
      split at followed
      · cases value <;> simp_all [isNull, child?]
      · split at followed
        · cases followed
        · rw [child] at followed
          exact ih followed leads

theorem BoundSql.resolvePath_eq_ok {held value : Value} {path property : String}
    (resolved : resolvePath held path property = .ok value) :
    ∃ found, held.lookupPath path = .ok found ∧ value = found.getD .null := by
  unfold resolvePath at resolved
  split at resolved
  · rename_i found read
    exact ⟨found, read, (Except.ok.inj resolved).symm⟩
  · cases resolved
  · cases resolved

namespace Registry

theorem Standard.binds_resolvePath (standard : registry.Standard) {held : Value}
    {path property : String} (resolved : BoundSql.resolvePath held path property = .ok value) :
    registry.Binds (((held.getPath? path).map Value.kind).getD .any) value := by
  obtain ⟨found, read, rfl⟩ := BoundSql.resolvePath_eq_ok resolved
  cases leads : held.getPath? path with
  | none => exact standard.binds_any _
  | some leaf =>
      obtain ⟨steps, parsed, followed⟩ := bind_eq_ok.1 read
      unfold Value.getPath? at leads
      rw [parsed] at leads
      rw [Value.follow_eq_descendant followed leads]
      exact standard.binds_kind leaf

theorem resolvePath_of_builtin {held : Value} (builtin : held.kind ∈ builtinTypes)
    {path property : String} (resolved : BoundSql.resolvePath held path property = .ok value) :
    value = .null := by
  obtain ⟨found, read, rfl⟩ := BoundSql.resolvePath_eq_ok resolved
  obtain ⟨steps, parsed, followed⟩ := bind_eq_ok.1 read
  obtain ⟨some, -⟩ := Path.exists_of_parse parsed
  obtain ⟨step, rest, rfl⟩ := List.exists_cons_of_ne_nil some
  unfold Value.follow at followed
  split at followed
  · rw [← Except.ok.inj followed]
    rfl
  · rename_i present
    have scalar : held.isComposite = false := by
      cases held <;> simp_all [Value.kind, builtinTypes, Value.isComposite]
    rw [scalar] at followed
    cases followed

end Registry

end MappedSql
