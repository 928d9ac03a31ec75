import MappedSql.Proofs.Placeholder.Subject
import MappedSql.Proofs.Value.Declared

namespace MappedSql

theorem Text.mem_trim_of_visible {cs : List Char} {c : Char} (mem : c ∈ cs)
    (visible : Text.isBlank c = false) : c ∈ Text.trim cs := by
  obtain ⟨a, b, split, left, right⟩ := Text.exists_trim cs
  rw [split, List.mem_append, List.mem_append] at mem
  rcases mem with (mem | mem) | mem
  · rw [left c mem] at visible; cases visible
  · exact mem
  · rw [right c mem] at visible; cases visible

namespace Placeholder

theorem isPlain_of_blank {c : Char} (blank : Text.isBlank c) : isPlain c = true := by
  cases plain : isPlain c with
  | true => rfl
  | false =>
    have signs : c = ',' ∨ c = ':' := by
      by_contra other
      simp only [not_or] at other
      simp [isPlain, other] at plain
    rcases signs with rfl | rfl <;> exact absurd blank (by decide)

def options (cs : List Char) : List Char :=
  cs.dropWhile isPlain

def Named (cs : List Char) : Prop :=
  ∃ c rest, Text.trimStart cs = c :: rest ∧ c ≠ '(' ∧ isPlain c = true

theorem options_trimStart (cs : List Char) : options (Text.trimStart cs) = options cs := by
  obtain ⟨a, split, blank⟩ := Text.exists_trimStart cs
  conv_rhs => rw [split, options,
    List.dropWhile_append_of_pos fun c mem => isPlain_of_blank (blank c mem)]
  rfl

theorem of_dropWhile_eq_cons {p : Char → Bool} {cs rest : List Char} {c : Char}
    (remainder : cs.dropWhile p = c :: rest) : p c = false := by
  have stops := List.head_dropWhile_not p (l := cs) (by simp [remainder])
  simpa only [remainder, List.head_cons] using stops

theorem options_cases (cs : List Char) :
    options cs = [] ∨ ∃ c rest, options cs = c :: rest ∧ isPlain c = false := by
  cases remainder : options cs with
  | nil => exact .inl rfl
  | cons c rest => exact .inr ⟨c, rest, rfl, of_dropWhile_eq_cons remainder⟩

theorem visible_of_sign {c : Char} (sign : isPlain c = false) : Text.isBlank c = false := by
  cases blank : Text.isBlank c with
  | false => rfl
  | true => rw [isPlain_of_blank blank] at sign; cases sign

theorem trimStart_options (cs : List Char) : Text.trimStart (options cs) = options cs := by
  rcases options_cases cs with none | ⟨c, rest, some, sign⟩
  · rw [none]; rfl
  · rw [some, Text.trimStart_cons (visible_of_sign sign)]

def readListed (content : String) (typed : List (String × String)) :
    List Char → Except Error (List (String × String))
  | [] => .ok typed
  | ',' :: options =>
      (readOptions content (positionOf content options) (Text.splitAtChar ',' options)).map
        (typed ++ ·)
  | c :: tail => .error (syntaxError content (positionOf content (c :: tail)) s!"unexpected `{c}`")

def readAttributes (content : String) (options : List Char) :
    Except Error (List (String × String)) := do
  let (columnType, rest) ← readColumnType content options
  readListed content (columnType.toList.map (("jdbcType", ·))) (Text.trimStart rest)

theorem parse_of_readSubject {content : String} {found : Option String × Option String}
    {rest : List Char} (read : readSubject content (Text.trimStart content.toList) =
      .ok (found, rest)) :
    parse content = (readAttributes content (Text.trimStart rest)).map
      fun attributes => ⟨found.1, found.2, attributes⟩ := by
  rw [parse, read]
  change (do
    let (columnType, rest) ← readColumnType content (Text.trimStart rest)
    _) = _
  rw [readAttributes]
  cases readColumnType content (Text.trimStart rest) with
  | error e => rfl
  | ok typed =>
    obtain ⟨columnType, rest⟩ := typed
    dsimp only [bind, Except.bind]
    generalize Text.trimStart rest = rest
    split
    · rfl
    · rw [readListed]
      cases readOptions content _ _ <;> rfl
    next other => rw [readListed.eq_3 _ _ _ _ other]; rfl

theorem parse_eq {content : String} (named : Named content.toList) :
    parse content = (readAttributes content (options content.toList)).map
      fun attributes => ⟨some (String.ofList (subject content.toList)), none, attributes⟩ := by
  obtain ⟨c, rest, start, apart, plain⟩ := named
  have visible : Text.isBlank c = false := of_dropWhile_eq_cons start
  have nonempty : (subject content.toList).isEmpty = false := by
    rw [List.isEmpty_eq_false_iff]
    refine List.ne_nil_of_mem (a := c) (Text.mem_trim_of_visible ?_ visible)
    rw [start, List.takeWhile_cons_of_pos plain]
    exact List.mem_cons_self
  have read : readSubject content (Text.trimStart content.toList) =
      .ok ((some (String.ofList (subject content.toList)), none), options content.toList) := by
    rw [← options_trimStart, subject, options] at *
    rw [start] at nonempty ⊢
    rw [readSubject.eq_def]
    split
    · rename_i eq
      exact absurd (List.cons.inj eq).1 apart
    · exact if_neg (Bool.not_eq_true _ ▸ nonempty)
  rw [parse_of_readSubject read, trimStart_options]

theorem readOptions_congr {content content' : String} {position position' : Nat}
    {options : List (List Char)} {attributes : List (String × String)}
    (read : readOptions content position options = .ok attributes) :
    readOptions content' position' options = .ok attributes := by
  induction options generalizing attributes with
  | nil => exact read
  | cons option rest ih =>
    rw [readOptions] at read ⊢
    split at read
    next blank => rw [if_pos blank]; exact ih read
    next visible =>
      rw [if_neg visible]
      cases found : readOption? option with
      | none => rw [found] at read; cases read
      | some pair =>
        simp only [found, bind_eq_ok, pure_eq_ok] at read ⊢
        obtain ⟨others, read, rfl⟩ := read
        exact ⟨others, ih read, rfl⟩

theorem readListed_congr {content content' : String} {typed attributes : List (String × String)}
    {rest : List Char} (read : readListed content typed rest = .ok attributes) :
    readListed content' typed rest = .ok attributes := by
  unfold readListed at read ⊢
  split at read
  · exact read
  next options =>
    cases listed : readOptions content (positionOf content options)
        (Text.splitAtChar ',' options) with
    | error e => rw [listed] at read; cases read
    | ok others =>
      rw [listed] at read
      rw [readOptions_congr listed]
      exact read
  · cases read

theorem readColumnType_congr {content content' : String} {options : List Char}
    {found : Option String × List Char} (read : readColumnType content options = .ok found) :
    readColumnType content' options = .ok found := by
  unfold readColumnType at read ⊢
  split at read
  next rest =>
    dsimp only at read ⊢
    split at read
    · cases read
    next named => rw [if_neg named]; exact read
  · exact read

theorem readAttributes_congr {content content' : String} {options : List Char}
    {attributes : List (String × String)}
    (read : readAttributes content options = .ok attributes) :
    readAttributes content' options = .ok attributes := by
  simp only [readAttributes, bind_eq_ok] at read ⊢
  obtain ⟨found, typed, listed⟩ := read
  exact ⟨found, readColumnType_congr typed, readListed_congr listed⟩

def Known (attributes : List (String × String)) : Prop :=
  ∀ pair ∈ attributes, pair.1 ∈ knownAttributes

theorem checkNames_eq_ok {content : String} {attributes : List (String × String)} :
    checkNames content attributes = .ok () ↔ Known attributes := by
  induction attributes with
  | nil => simp [checkNames, Known]
  | cons pair rest ih =>
    rw [checkNames, Known, List.forall_mem_cons, ← Known, ← ih]
    split
    next known => simp_all
    next unknown =>
      refine iff_of_false ?_ fun known => unknown (by simpa using known.1)
      split <;> nofun

theorem check_eq_ok {placeholder : Placeholder} {content : String} :
    placeholder.check content = .ok () ↔
      placeholder.expression = none ∧ Known placeholder.attributes := by
  unfold check
  split
  next some =>
    refine iff_of_false nofun fun both => ?_
    rw [both.1] at some
    cases some
  next none => rw [checkNames_eq_ok]; simp_all

def WellFormed (content : String) : Prop :=
  Named content.toList ∧
    ∃ attributes, readAttributes content (options content.toList) = .ok attributes ∧
      Known attributes

theorem named_of_parse {content : String} {placeholder : Placeholder}
    (parsed : parse content = .ok placeholder) (plain : placeholder.expression = none) :
    Named content.toList := by
  simp only [parse, bind_eq_ok] at parsed
  obtain ⟨⟨⟨property, expression⟩, rest⟩, read, ⟨columnType, _⟩, -, parsed⟩ := parsed
  have bare : expression = none := by
    dsimp only at parsed
    split at parsed
    · cases parsed; exact plain
    · simp only [bind_eq_ok] at parsed
      obtain ⟨attributes, -, parsed⟩ := parsed
      cases parsed
      exact plain
    · cases parsed
  subst bare
  rw [readSubject.eq_def] at read
  split at read
  · split at read <;> cases read
  next apart =>
    dsimp only at read
    split at read
    · cases read
    next some =>
      cases start : Text.trimStart content.toList with
      | nil => rw [start] at some; exact absurd rfl some
      | cons c tail =>
        refine ⟨c, tail, start, fun opens => apart tail (by rw [start, opens]), ?_⟩
        by_contra sign
        have nothing : (c :: tail).takeWhile (fun c => c != ',' && c != ':') = [] :=
          List.takeWhile_cons_of_neg sign
        rw [start, nothing] at some
        exact some rfl

theorem wellFormed_iff {content : String} :
    (parse content >>= (·.check content)) = .ok () ↔ WellFormed content := by
  rw [bind_eq_ok]
  constructor
  · rintro ⟨placeholder, parsed, checked⟩
    obtain ⟨plain, known⟩ := check_eq_ok.1 checked
    have named := named_of_parse parsed plain
    rw [parse_eq named] at parsed
    cases read : readAttributes content (options content.toList) with
    | error e => rw [read] at parsed; cases parsed
    | ok attributes =>
      rw [read] at parsed
      cases parsed
      exact ⟨named, attributes, read, known⟩
  · rintro ⟨named, attributes, read, known⟩
    rw [parse_eq named, read]
    exact ⟨_, rfl, check_eq_ok.2 ⟨rfl, known⟩⟩

end Placeholder

theorem Value.kind_ne_cursor (value : Value) : value.kind ≠ .cursor := by
  cases value <;> nofun

def Registry.DeclaresCursor (registry : Registry) : Prop :=
  ∃ record ∈ registry.records, ∃ field ∈ record.2, field.2 = .cursor

instance (registry : Registry) : Decidable registry.DeclaresCursor :=
  inferInstanceAs (Decidable (∃ record ∈ registry.records, ∃ field ∈ record.2, field.2 = .cursor))

theorem Registry.declaresCursor_of_propertyType? {registry : Registry} {owner : ValueType}
    {property : String} (apart : owner ≠ .cursor)
    (declared : registry.propertyType? owner property = some .cursor) :
    registry.DeclaresCursor := by
  unfold propertyType? at declared
  generalize Text.splitAtChar '.' property.toList = segments at declared
  induction segments generalizing owner with
  | nil => exact absurd (Option.some.inj declared) apart
  | cons segment rest ih =>
    obtain ⟨inner, here, there⟩ := Option.bind_eq_some_iff.1 declared
    by_cases reached : inner = .cursor
    · obtain ⟨name, schema, own, -, registered, found, type⟩ := exists_field_of_segmentType? here
      refine ⟨_, Fields.mem_of_get? registered, _, Fields.mem_of_get? found, ?_⟩
      rw [reached] at type
      split at type
      · cases type
      · exact type.symm
    · exact ih reached there

namespace ParameterMapping

theorem propertyType_eq_cursor {setting : Setting} {property : String} {dbType : Option DbType}
    (apart : setting.parameterType ≠ .cursor)
    (type : propertyType setting property dbType = .cursor) :
    dbType = some .cursor ∨ setting.registry.DeclaresCursor := by
  unfold propertyType at type
  dsimp only at type
  split at type
  next bound _ =>
    split at type
    · exact absurd type bound.kind_ne_cursor
    next path _ =>
      cases found : bound.getPath? path with
      | none => rw [found] at type; cases type
      | some value => rw [found] at type; exact absurd type value.kind_ne_cursor
  · split at type
    · exact absurd type apart
    · split at type
      next column => exact .inl column
      · split at type
        · cases type
        · cases declared : setting.registry.propertyType? setting.parameterType property with
          | none => rw [declared] at type; cases type
          | some other =>
            rw [declared] at type
            obtain rfl : other = .cursor := type
            exact .inr (Registry.declaresCursor_of_propertyType? apart declared)

section

variable {registry : Registry} {content content' : String} {draft done : Draft}

theorem readScale_congr {value : String} {scale : Nat}
    (read : readScale content value = .ok scale) : readScale content' value = .ok scale := by
  unfold readScale at read ⊢
  split at read
  next found => exact read
  next => cases read

theorem withAttribute_retype {pair : String × String} (type : ValueType)
    (read : draft.withAttribute registry content pair = .ok done) :
    ∃ type', ({ draft with type := type } : Draft).withAttribute registry content' pair =
        .ok { done with type := type' } ∧
      (type' = done.type ∨ type' = type ∧ done.type = draft.type) := by
  obtain ⟨name, value⟩ := pair
  unfold Draft.withAttribute at read ⊢
  dsimp only at read ⊢
  split at read
  · simp only [bind_eq_ok, pure_eq_ok] at read ⊢
    obtain ⟨resolved, found, rfl⟩ := read
    exact ⟨resolved, ⟨resolved, found, rfl⟩, .inl rfl⟩
  · simp only [bind_eq_ok, pure_eq_ok] at read ⊢
    obtain ⟨direction, found, rfl⟩ := read
    exact ⟨type, ⟨direction, found, rfl⟩, .inr ⟨rfl, rfl⟩⟩
  · simp only [bind_eq_ok, pure_eq_ok] at read ⊢
    obtain ⟨scale, found, rfl⟩ := read
    exact ⟨type, ⟨scale, readScale_congr found, rfl⟩, .inr ⟨rfl, rfl⟩⟩
  all_goals
    cases read
    exact ⟨type, rfl, .inr ⟨rfl, rfl⟩⟩

theorem withAttributes_retype {attributes : List (String × String)} (type : ValueType)
    (read : draft.withAttributes registry content attributes = .ok done) :
    ∃ type', ({ draft with type := type } : Draft).withAttributes registry content' attributes =
        .ok { done with type := type' } ∧
      (type' = done.type ∨ type' = type ∧ done.type = draft.type) := by
  induction attributes generalizing draft type with
  | nil =>
    cases read
    exact ⟨type, rfl, .inr ⟨rfl, rfl⟩⟩
  | cons pair rest ih =>
    simp only [Draft.withAttributes, bind_eq_ok] at read ⊢
    obtain ⟨between, first, others⟩ := read
    obtain ⟨type₁, firstToo, same⟩ := withAttribute_retype type first
    obtain ⟨type₂, othersToo, sameToo⟩ := ih type₁ others
    refine ⟨type₂, ⟨_, firstToo, othersToo⟩, ?_⟩
    rcases sameToo with rfl | ⟨rfl, kept⟩
    · exact .inl rfl
    · rw [kept]
      exact same

theorem finish_isOk {property : String} {dbType : Option DbType} :
    (draft.finish registry property dbType).isOk = true ↔
      (draft.type = .cursor → draft.resultMap ≠ none) ∧
        ∀ name ∈ draft.handlerName, (registry.namedHandler name).isOk := by
  unfold Draft.finish
  by_cases refused : (draft.type = .cursor && draft.resultMap.isNone) = true
  · simp only [if_pos refused]
    refine iff_of_false nofun fun both => ?_
    simp_all
  · simp only [if_neg refused]
    cases named : draft.handlerName with
    | none => simp_all [pure, Except.pure, bind, Except.bind, Except.isOk, Except.toBool]
    | some name =>
      cases found : registry.namedHandler name <;>
        simp_all [pure, Except.pure, bind, Except.bind, Except.isOk, Except.toBool]

end

def complete (registry : Registry) (attributes : List (String × String)) (type : ValueType) :
    Except Error ParameterMapping := do
  let dbType ← dbTypeOf ⟨none, none, attributes⟩
  let draft ← Draft.withAttributes registry "" { type := type } attributes
  draft.finish registry "" dbType

/-- Attributes that resolve for a property of any type that it may have. -/
structure Settled (registry : Registry) (attributes : List (String × String)) : Prop where
  plain : (complete registry attributes .any).isOk = true
  cursor : dbTypeOf ⟨none, none, attributes⟩ = .ok (some .cursor) ∨ registry.DeclaresCursor →
    (complete registry attributes .cursor).isOk = true

instance (registry : Registry) (attributes : List (String × String)) :
    Decidable (Settled registry attributes) :=
  decidable_of_iff (_ ∧ _) ⟨fun ⟨plain, cursor⟩ => ⟨plain, cursor⟩,
    fun settled => ⟨settled.plain, settled.cursor⟩⟩

theorem exists_of_complete {registry : Registry} {attributes : List (String × String)}
    {type type' : ValueType} (completes : (complete registry attributes type).isOk = true)
    (fits : type' = type ∨ type' ≠ .cursor) (content property : String) :
    ∃ dbType draft, dbTypeOf ⟨none, none, attributes⟩ = .ok dbType ∧
      Draft.withAttributes registry content { type := type' } attributes = .ok draft ∧
      (draft.finish registry property dbType).isOk = true := by
  obtain ⟨mapping, completes⟩ := exists_of_isOk completes
  simp only [complete, bind_eq_ok] at completes
  obtain ⟨dbType, column, draft, drafted, finished⟩ := completes
  have done : (draft.finish registry "" dbType).isOk = true := by rw [finished]; rfl
  obtain ⟨mapped, handled⟩ := finish_isOk.1 done
  obtain ⟨retyped, again, same⟩ := withAttributes_retype type' drafted
  refine ⟨dbType, _, column, again, finish_isOk.2 ⟨fun reached => ?_, handled⟩⟩
  rcases same with rfl | ⟨rfl, kept⟩
  · exact mapped reached
  · rcases fits with rfl | apart
    · exact mapped (kept.trans reached)
    · exact absurd reached apart

theorem ofPlaceholder_isOk {setting : Setting} {content : String}
    {attributes : List (String × String)} (named : Placeholder.Named content.toList)
    (read : Placeholder.readAttributes content (Placeholder.options content.toList) =
      .ok attributes) (known : Placeholder.Known attributes)
    (settled : Settled setting.registry attributes) (apart : setting.parameterType ≠ .cursor) :
    (ofPlaceholder setting content).isOk = true := by
  -- a property of the cursor type asks for a result map; for the attributes, all others are alike
  have completes (dbType : Option DbType) (column : dbTypeOf ⟨none, none, attributes⟩ = .ok dbType)
      (property : String) : ∃ draft, Draft.withAttributes setting.registry content
        { type := propertyType setting property dbType } attributes = .ok draft ∧
        (draft.finish setting.registry property dbType).isOk = true := by
    by_cases reached : propertyType setting property dbType = .cursor
    · have cursor := settled.cursor <| (propertyType_eq_cursor apart reached).imp_left
        fun (same : dbType = some .cursor) => same ▸ column
      obtain ⟨_, draft, columnToo, rest⟩ :=
        exists_of_complete cursor (.inl reached) content property
      obtain rfl := Except.ok.inj (column.symm.trans columnToo)
      exact ⟨draft, rest⟩
    · obtain ⟨_, draft, columnToo, rest⟩ :=
        exists_of_complete settled.plain (.inr reached) content property
      obtain rfl := Except.ok.inj (column.symm.trans columnToo)
      exact ⟨draft, rest⟩
  obtain ⟨mapping, plain⟩ := exists_of_isOk settled.plain
  simp only [complete, bind_eq_ok] at plain
  obtain ⟨dbType, column, -⟩ := plain
  obtain ⟨draft, drafted, finished⟩ :=
    completes dbType column (String.ofList (Placeholder.subject content.toList))
  obtain ⟨mapping, finished⟩ := exists_of_isOk finished
  have parsed : Placeholder.parse content =
      .ok ⟨some (String.ofList (Placeholder.subject content.toList)), none, attributes⟩ := by
    rw [Placeholder.parse_eq named, read]
    rfl
  have resolved : ofPlaceholder setting content = .ok mapping := by
    rw [ofPlaceholder, bind_eq_ok]
    refine ⟨_, parsed, bind_eq_ok.2 ⟨(), Placeholder.check_eq_ok.2 ⟨rfl, known⟩, ?_⟩⟩
    exact bind_eq_ok.2 ⟨dbType, column, bind_eq_ok.2 ⟨draft, drafted, finished⟩⟩
  rw [resolved]
  rfl

end ParameterMapping

end MappedSql
