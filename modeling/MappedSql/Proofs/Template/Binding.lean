import MappedSql.Proofs.Template.Rendering
import MappedSql.Proofs.Template.Spacing

namespace MappedSql

open Loop (roundName nameAt afterName)

namespace Node

variable {root : Node}

theorem loose_eq_false {c : Char} (visible : Text.isBlank c = false) (upper : c.toUpper = c)
    (unused : ∀ token, Part.override token ∈ root.parts → c ∉ token.toList) :
    root.loose c = false := by
  rw [loose, visible, Bool.false_or, List.any_eq_false]
  intro part mem
  cases part with
  | override token => simpa [upper] using unused token mem
  | _ => simp

def Plain.edges (plain : root.Plain) : Edges where
  loose := root.loose
  mayEnd := ∃ s ∈ root.parts.filterMap Part.sql?, EndsInHash root.loose s.toList
  mayBegin := ∃ s ∈ root.parts.filterMap Part.sql?, BeginsWithBrace root.loose s.toList
  apart := by
    rintro ⟨⟨first, mem, ends⟩, second, member, begins⟩
    exact plain.seamless first mem second member ⟨ends, begins⟩
  hash_kept := loose_eq_false (by decide) (by decide) fun _ mem => (plain.parts _ mem).1
  open_kept := loose_eq_false (by decide) (by decide) fun _ mem => (plain.parts _ mem).2.1
  close_kept := loose_eq_false (by decide) (by decide) fun _ mem => (plain.parts _ mem).2.2

theorem Plain.blanks (plain : root.Plain) : plain.edges.Blanks :=
  fun c blank => by simp [edges, loose, blank]

theorem Plain.fits_of_sql (plain : root.Plain) {part : Part} (mem : part ∈ root.parts) {s : String}
    (sql : part.sql? = some s) (unescaped : '\\' ∉ s.toList)
    (closed : Closed s.toList) : plain.edges.Fits s.toList where
  unescaped := unescaped
  closed := closed
  ends := fun ends => ⟨s, List.mem_filterMap.2 ⟨part, mem, sql⟩, ends⟩
  begins := fun begins => ⟨s, List.mem_filterMap.2 ⟨part, mem, sql⟩, begins⟩

theorem Plain.fits (plain : root.Plain) : ∀ part ∈ root.parts, part.Fits plain.edges := by
  intro part mem
  have known := plain.parts part mem
  cases part with
  | text s => exact ⟨plain.fits_of_sql mem rfl known.1 known.2.1, known.2.2⟩
  | edge s =>
      exact ⟨plain.fits_of_sql mem rfl known.1 known.2.closed, known.2⟩
  | override token =>
      intro c taken
      simp only [edges, loose, Bool.or_eq_true, List.any_eq_true]
      exact .inr ⟨.override token, mem, by simpa using taken⟩
  | name own => exact known
  | spliced => exact known
  | binding => exact known

end Node

def belowPath (below : List Char) : Option String :=
  (splitRoot (String.ofList below)).2

theorem splitRoot_append {name below : List Char} (rooted : ∀ c ∈ name, c ≠ '.' ∧ c ≠ '[')
    (bounded : IsBelow below) :
    splitRoot (String.ofList (name ++ below)) = (String.ofList name, belowPath below) := by
  have inside : ∀ c ∈ name, (c != '.' && c != '[') = true := by
    intro c mem
    simp [rooted c mem]
  unfold belowPath splitRoot
  simp only [String.toList_ofList, List.takeWhile_append_of_pos inside,
    List.dropWhile_append_of_pos inside]
  rcases bounded with rfl | ⟨rest, rfl | rfl⟩ <;> simp

theorem Round.value?_eq_none {round : Round} {name : String} :
    round.value? name = none ↔ name ∉ round.loop.names := by
  unfold value? Loop.names
  by_cases item : round.loop.item = some name
  · simp [item]
  · by_cases index : round.loop.index = some name
    · simp [item, index]
    · simp [item, index]

theorem nameAt_append_afterName {name : List Char} (plain : IsName name) (content : List Char) :
    nameAt (name ++ afterName content) = name := by
  obtain ⟨c, rest, rfl⟩ := List.exists_cons_of_ne_nil plain.1
  have inside : ∀ d ∈ c :: rest, (!Loop.delimits d) = true := fun d mem => by
    simp [Loop.not_delimits_of_isNameChar (plain.2 d mem)]
  rw [nameAt, List.cons_append, Text.trimStart_cons (isNameChar_visible (plain.2 c (by simp))),
    ← List.cons_append, List.takeWhile_append_of_pos inside, afterName,
    Placeholder.takeWhile_dropWhile, List.append_nil]

theorem written_eq_content {rounds : List Round}
    (own : ∀ round ∈ rounds, ∀ name ∈ round.loop.names, Loop.IsVariable name) {content : String}
    (apart : ∀ round ∈ rounds, ∀ name ∈ round.loop.names, name.toList ≠ nameAt content.toList) :
    Mark.written ⟨content, rounds⟩ = content := by
  induction rounds with
  | nil => rfl
  | cons round rest ih =>
      have kept : round.loop.renameVariable round.unique content = content :=
        Loop.renameVariable_of_not_mem (fun name mem => (own round (by simp) name mem).plain)
          (apart round (by simp)) _
      have others := ih (fun round mem => own round (by simp [mem])) fun round mem =>
        apart round (by simp [mem])
      simpa [Mark.written, kept] using others

theorem written_cases {rounds : List Round}
    (own : ∀ round ∈ rounds, ∀ name ∈ round.loop.names, Loop.IsVariable name) (content : String) :
    (rounds.findSome? (·.value? (String.ofList (nameAt content.toList))) = none ∧
        Mark.written ⟨content, rounds⟩ = content) ∨
      ∃ round ∈ rounds, ∃ name value, name.toList = nameAt content.toList ∧
        Loop.IsVariable name ∧
        rounds.findSome? (·.value? (String.ofList (nameAt content.toList))) = some value ∧
        round.value? name = some value ∧
        Mark.written ⟨content, rounds⟩ =
          roundName name round.unique ++ String.ofList (afterName content.toList) := by
  induction rounds with
  | nil => exact .inl ⟨rfl, rfl⟩
  | cons round rest ih =>
      have plain : ∀ name ∈ round.loop.names, IsName name.toList := fun name mem =>
        (own round (by simp) name mem).plain
      cases named : round.value? (String.ofList (nameAt content.toList)) with
      | none =>
          have apart := Round.value?_eq_none.1 named
          have kept : round.loop.renameVariable round.unique content = content := by
            refine Loop.renameVariable_of_not_mem plain (fun name mem same => apart ?_) _
            rwa [← same, String.ofList_toList]
          have skip : Mark.written ⟨content, round :: rest⟩ = Mark.written ⟨content, rest⟩ := by
            simp [Mark.written, kept]
          rw [List.findSome?_cons, named, skip]
          rcases ih fun round mem => own round (by simp [mem]) with outside | inside
          · exact .inl outside
          · obtain ⟨round, mem, found⟩ := inside
            exact .inr ⟨round, by simp [mem], found⟩
      | some value =>
          -- The new name looks like no variable, so the outer rounds leave it alone.
          set name := String.ofList (nameAt content.toList) with name_def
          have starts : name.toList = nameAt content.toList := String.toList_ofList
          have mem : name ∈ round.loop.names := by
            by_contra apart
            rw [Round.value?_eq_none.2 apart] at named
            contradiction
          have fresh := Loop.isName_roundName (plain name mem) round.unique
          have renamed := Loop.renameVariable_of_mem plain mem starts round.unique
          have outer : Mark.written
              ⟨roundName name round.unique ++ String.ofList (afterName content.toList), rest⟩ =
              roundName name round.unique ++ String.ofList (afterName content.toList) := by
            refine written_eq_content (fun round mem => own round (by simp [mem])) ?_
            intro other among used member same
            rw [String.toList_append, String.toList_ofList, nameAt_append_afterName fresh,
              String.toList_inj] at same
            exact (own other (by simp [among]) used member).ne_roundName _ _ same
          refine .inr ⟨round, by simp, name, value, starts, own round (by simp) name mem, ?_, named,
            ?_⟩
          · rw [List.findSome?_cons, named]
          · rw [← outer, ← renamed]
            rfl

theorem rooted_nameAt (content : List Char) : ∀ c ∈ nameAt content, c ≠ '.' ∧ c ≠ '[' := by
  intro c mem
  have inside := List.mem_takeWhile_imp mem
  constructor <;>
    · rintro rfl
      simp [Loop.delimits] at inside

/-- A mark that is live in a round asks for the same path below the name made for that round; any
other mark keeps its placeholder. -/
theorem Mark.Lasts.cases {mark : Mark} {context : Context} (lasts : mark.Lasts context) :
    (mark.live? (splitRoot mark.property).1 = none ∧ mark.written = mark.content) ∨
      ∃ fresh value, mark.live? (splitRoot mark.property).1 = some value ∧
        splitRoot (String.ofList (Placeholder.subject mark.written.toList)) =
          (fresh, (splitRoot mark.property).2) ∧
        Fields.get? context.bindings fresh = some value := by
  obtain ⟨content, rounds⟩ := mark
  have own : ∀ round ∈ rounds, ∀ name ∈ round.loop.names, Loop.IsVariable name :=
    fun round mem => (lasts.rounds round mem).own
  obtain ⟨below, rest, path, bounded, -, -⟩ := Loop.exists_afterName lasts.path
  have split : splitRoot (Mark.property ⟨content, rounds⟩) =
      (String.ofList (nameAt content.toList), belowPath below) := by
    rw [Mark.property, path, splitRoot_append (rooted_nameAt _) bounded]
  rw [split]
  rcases written_cases own content with outside | ⟨round, mem, name, value, starts, variableName,
    live, named, written⟩
  · exact .inl outside
  · right
    have fresh := Loop.isName_roundName variableName.plain round.unique
    obtain ⟨tail, same, -, renamed⟩ := Loop.subject_append_afterName lasts.path fresh
    obtain rfl : tail = below := List.append_cancel_left (same.symm.trans path)
    refine ⟨roundName name round.unique, value, live, ?_, (lasts.rounds round mem).bound name value
      named⟩
    rw [written, String.toList_append, String.toList_ofList, renamed,
      splitRoot_append (fun c mem => ?_) bounded, String.ofList_toList]
    have signs := isNameChar_plain (fresh.2 c mem)
    exact ⟨signs.1, signs.2.1⟩

theorem Mark.Lasts.isPath_written {mark : Mark} {context : Context} (lasts : mark.Lasts context) :
    IsPath (Placeholder.subject mark.written.toList) := by
  obtain ⟨content, rounds⟩ := mark
  rcases written_cases (fun round mem => (lasts.rounds round mem).own) content with
    ⟨-, written⟩ | ⟨round, mem, name, value, starts, own, -, -, written⟩
  · rw [written]
    exact lasts.path
  · obtain ⟨below, -, renamed, subject⟩ := Loop.subject_append_afterName lasts.path
      (Loop.isName_roundName own.plain round.unique)
    rwa [written, String.toList_append, String.toList_ofList, subject]

theorem Mark.Lasts.lookup_eq {mark : Mark} {context : Context} (lasts : mark.Lasts context)
    {bound : BoundSql} (additional : bound.additional = context.bindings) {property : String}
    (asks : property = String.ofList (Placeholder.subject mark.written.toList)) :
    bound.propertyValue property = mark.lookup bound property := by
  rcases lasts.cases with ⟨outside, written⟩ | ⟨fresh, value, live, split, found⟩
  · have same : property = mark.property := by rw [asks, written, Mark.property]
    simp only [Mark.lookup, outside, same]
  · rw [← asks] at split
    simp only [BoundSql.propertyValue, Mark.lookup, split, additional, found, live]

/-- The markers of an invocation are some marks, in order, and each binds what its mark leads to. -/
def BoundSql.Binds (bound : BoundSql) (marks : List Mark) : Prop :=
  List.Forall₂ (fun mapping mark =>
    bound.parameterValue mapping = mark.lookup bound mapping.property) bound.mappings marks

namespace SqlSource

/-- The markers of a rendered template are its marks, in order, and the value of each marker is what
its mark leads to where it is rendered. -/
theorem binds_marks {root : Node} (plain : root.Plain) {parameter : Value}
    {setting : CompileSetting} {bound : BoundSql}
    (rendered : (SqlSource.dynamic root).boundSql parameter setting = .ok bound) :
    bound.Binds (root.marks (Context.initial parameter setting.databaseId)) := by
  unfold boundSql at rendered
  rcases ran : renderFor root parameter setting.databaseId with ⟨outcome, context⟩
  simp only [ran, bind_eq_ok, pure_eq_ok] at rendered
  obtain ⟨contributed, rfl, compiled, marked, rfl⟩ := rendered
  have wrote : Rendered plain.edges (root.marks (Context.initial parameter setting.databaseId))
      { Context.initial parameter setting.databaseId with sql := "" } context :=
    Node.rendered plain.blanks root plain.fits ran
  have finished := wrote.holds.contents_finishSql plain.blanks (by
    intro content mem
    obtain ⟨mark, member, rfl⟩ := List.mem_map.1 mem
    exact (wrote.lasts mark member).isPath_written) setting.shrinkWhitespace
  simp only [MarkedSql.ofText, bind_eq_ok, pure_eq_ok, mapM_eq_ok] at marked
  obtain ⟨mappings, resolved, rfl⟩ := marked
  refine (forall₂_common resolved (List.forall₂_map_right_iff.1 finished)).imp ?_
  rintro mapping mark ⟨member, content, found, same⟩
  have lasts := wrote.lasts mark member
  have asks := ParameterMapping.property_of_ofPlaceholder (by rw [same]; exact lasts.isPath_written)
    found
  exact lasts.lookup_eq rfl (by rw [asks, same])

def pairs : Node :=
  .forEach { collection := "pairs", item := some "x", opening := some "(", closing := some ")",
             separator := some ", " }
    (.mixed [.static "#{x[0]} = ", .forEach { collection := "x", item := some "x" } (.static "#{x}")])

def somePairs : Value :=
  .map [("pairs", .list [.list [.int 1, .int 2], .list [.int 3]])]

theorem binds_marks_pairs : ∃ bound,
    (SqlSource.dynamic pairs).boundSql somePairs ⟨.initial, none, false⟩ = .ok bound ∧
      bound.mappings.length = 5 ∧ bound.Binds (pairs.marks (Context.initial somePairs none)) := by
  have plain : pairs.Plain := by decide +kernel
  have counted : ((SqlSource.dynamic pairs).boundSql somePairs
      ⟨.initial, none, false⟩).toOption.map (·.mappings.length) = some 5 := by decide +kernel
  cases rendered : (SqlSource.dynamic pairs).boundSql somePairs ⟨.initial, none, false⟩ with
  | error e => simp [rendered, Except.toOption] at counted
  | ok bound =>
      simp only [rendered, Except.toOption, Option.map_some, Option.some.injEq] at counted
      exact ⟨bound, rfl, counted, binds_marks plain rendered⟩

def seamed : Node :=
  .mixed [.static "#", .forEach { collection := "xs", item := some "x" } (.static "{x}")]

def escaped : Node :=
  .forEach { collection := "xs", item := some "x", opening := some "\\" } (.static "#{x}")

def oneElement : Value :=
  .map [("xs", .list [.int 7])]

def Escapable : Part → Prop
  | .edge s => Unopened s.toList
  | part => part.Plain

instance : ∀ part : Part, Decidable (Escapable part)
  | .edge s => inferInstanceAs (Decidable (Unopened s.toList))
  | .text s => inferInstanceAs (Decidable (Part.Plain (.text s)))
  | .override token => inferInstanceAs (Decidable (Part.Plain (.override token)))
  | .name own => inferInstanceAs (Decidable (Part.Plain (.name own)))
  | .spliced => inferInstanceAs (Decidable (Part.Plain .spliced))
  | .binding => inferInstanceAs (Decidable (Part.Plain .binding))

theorem not_binds_of_length {root : Node} {parameter : Value} {setting : CompileSetting}
    (differs : ((SqlSource.dynamic root).boundSql parameter setting).toOption.any
      fun bound => bound.mappings.length !=
        (root.marks (Context.initial parameter setting.databaseId)).length) :
    ∃ bound, (SqlSource.dynamic root).boundSql parameter setting = .ok bound ∧
      ¬bound.Binds (root.marks (Context.initial parameter setting.databaseId)) := by
  cases rendered : (SqlSource.dynamic root).boundSql parameter setting with
  | error e => simp [rendered, Except.toOption] at differs
  | ok bound =>
      simp only [rendered, Except.toOption, Option.any_some, bne_iff_ne] at differs
      exact ⟨bound, rfl, fun binds => differs binds.length_eq⟩

/-- Two parts may form a placeholder between them, and a backslash before a placeholder may hide it,
so neither may stand in a template whose markers are to be its marks. -/
theorem exists_not_binds :
    ((∀ part ∈ seamed.parts, part.Plain) ∧
      ∃ bound, (SqlSource.dynamic seamed).boundSql oneElement ⟨.initial, none, false⟩ = .ok bound ∧
        ¬bound.Binds (seamed.marks (Context.initial oneElement none))) ∧
    (∀ part ∈ escaped.parts, Escapable part) ∧
      ∃ bound, (SqlSource.dynamic escaped).boundSql oneElement ⟨.initial, none, false⟩ = .ok bound ∧
        ¬bound.Binds (escaped.marks (Context.initial oneElement none)) :=
  ⟨⟨by decide +kernel, not_binds_of_length (by decide +kernel)⟩, by decide +kernel,
    not_binds_of_length (by decide +kernel)⟩

end SqlSource

end MappedSql
