import MappedSql.Proofs.Placeholder.Attributes
import MappedSql.Proofs.Template.Spacing
import MappedSql.Proofs.Value.Declared

namespace MappedSql

variable {gap : Bool} {cs : List Char}

theorem mem_spaced_of_visible {c : Char} (mem : c ∈ cs) (visible : Text.isBlank c = false) :
    c ∈ spaced gap cs := by
  induction cs generalizing gap with
  | nil => cases mem
  | cons d rest ih =>
    rw [spaced]
    split
    next blank =>
      rcases List.mem_cons.1 mem with rfl | mem
      · rw [visible] at blank; cases blank
      · exact ih mem
    next => rcases List.mem_cons.1 mem with rfl | mem <;> simp_all

theorem blank_spaced : (∀ c ∈ spaced gap cs, Text.isBlank c) ↔ ∀ c ∈ cs, Text.isBlank c := by
  constructor
  · intro blank c mem
    by_contra visible
    exact visible (blank c (mem_spaced_of_visible mem (by simpa using visible)))
  · intro blank c mem
    rcases mem_spaced mem with rfl | mem
    · decide
    · exact blank c mem

section Stops

variable {p : Char → Bool} (blanks : ∀ c, Text.isBlank c → p c = true)
include blanks

theorem takeWhile_spaced : (spaced gap cs).takeWhile p = spaced gap (cs.takeWhile p) := by
  have gaps : ∀ gap, ∀ c ∈ gapText gap, p c = true := fun gap c mem =>
    blanks c (blank_gapText c mem)
  induction cs generalizing gap with
  | nil => simpa [spaced] using gaps gap
  | cons c rest ih =>
    cases blank : Text.isBlank c with
    | true => simp [spaced, blank, blanks c blank, ih]
    | false =>
      cases passes : p c <;>
        simp [spaced, blank, passes, ih, List.takeWhile_append_of_pos (gaps gap)]

theorem dropWhile_spaced : (spaced gap cs).dropWhile p = spaced false (cs.dropWhile p) := by
  have gaps : ∀ gap, ∀ c ∈ gapText gap, p c = true := fun gap c mem =>
    blanks c (blank_gapText c mem)
  induction cs generalizing gap with
  | nil => simpa [spaced, gapText] using gaps gap
  | cons c rest ih =>
    cases blank : Text.isBlank c with
    | true => simp [spaced, blank, blanks c blank, ih]
    | false =>
      have bare : ∀ tail, gapText false ++ c :: tail = c :: tail := fun _ => rfl
      cases passes : p c <;>
        simp [spaced, blank, passes, ih, bare, List.dropWhile_append_of_pos (gaps gap)]

end Stops

theorem trimStart_spaced : Text.trimStart (spaced gap cs) = spaced false (Text.trimStart cs) :=
  dropWhile_spaced fun _ blank => blank

theorem spaced_cons {c : Char} (visible : Text.isBlank c = false) :
    spaced false (c :: cs) = c :: spaced false cs := by
  simp [spaced, visible, gapText]

theorem isEmpty_trim : (Text.trim cs).isEmpty = true ↔ ∀ c ∈ cs, Text.isBlank c := by
  rw [List.isEmpty_iff]
  constructor
  · intro none c mem
    by_contra visible
    have kept := Text.mem_trim_of_visible mem (by simpa using visible)
    rw [none] at kept
    cases kept
  · intro blank
    simpa [Text.trim, Text.trimStart, Text.trimEnd, Text.dropEndWhile] using
      Text.trim_append_blank blank []

theorem isEmpty_trim_spaced : (Text.trim (spaced gap cs)).isEmpty = (Text.trim cs).isEmpty := by
  rw [Bool.eq_iff_iff, isEmpty_trim, isEmpty_trim, blank_spaced]

theorem trim_spaced_of_visible (visible : ∀ c ∈ Text.trim cs, Text.isBlank c = false) :
    Text.trim (spaced gap cs) = Text.trim cs := by
  cases none : (Text.trim cs).isEmpty with
  | true => rw [List.isEmpty_iff.1 (isEmpty_trim_spaced.trans none), List.isEmpty_iff.1 none]
  | false =>
    obtain ⟨a, b, split, left, right⟩ := Text.exists_trim cs
    obtain ⟨after, same⟩ := exists_spaced_append_blank left gap (Text.trim cs ++ b)
    conv_lhs => rw [split, List.append_assoc, same,
      spaced_append_visible (List.isEmpty_eq_false_iff.1 none) visible]
    rw [Text.trim_append_blank (blank_spaced.2 right), Text.trim_blank_append blank_gapText,
      Text.trim_trim]

theorem splitAtChar_prepend {separator : Char} {a first : List Char} {others : List (List Char)}
    (none : separator ∉ a) (split : Text.splitAtChar separator cs = first :: others) :
    Text.splitAtChar separator (a ++ cs) = (a ++ first) :: others := by
  induction a with
  | nil => exact split
  | cons c a ih =>
    simp only [List.mem_cons, not_or] at none
    simp [Text.splitAtChar, ih none.2, Ne.symm none.1]

theorem splitAtChar_spaced {first : List Char} {others : List (List Char)}
    (split : Text.splitAtChar ',' cs = first :: others) :
    Text.splitAtChar ',' (spaced gap cs) = spaced gap first :: others.map (spaced false) := by
  have gaps : ∀ gap, ',' ∉ gapText gap := by decide
  -- only the first segment has a gap from before; a comma is visible and so ends every other one
  induction cs generalizing gap first others with
  | nil =>
    cases split
    have nothing : Text.splitAtChar ',' [] = [[]] := rfl
    simpa [spaced] using splitAtChar_prepend (gaps gap) nothing
  | cons c rest ih =>
    obtain ⟨head, tail, own⟩ := List.exists_cons_of_ne_nil (Text.splitAtChar_ne_nil ',' rest)
    rw [Text.splitAtChar, own] at split
    cases blank : Text.isBlank c with
    | true =>
      have apart : c ≠ ',' := by rintro rfl; exact absurd blank (by decide)
      rw [if_neg (by simpa using apart)] at split
      cases split
      simpa [spaced, blank] using ih own
    | false =>
      rw [spaced, if_neg (by simp [blank])]
      by_cases comma : c = ','
      · rw [if_pos (by simpa using comma)] at split
        cases split
        have after : Text.splitAtChar ',' (c :: spaced false rest) =
            [] :: spaced false head :: tail.map (spaced false) := by
          rw [Text.splitAtChar, if_pos (by simpa using comma), ih own]
        simpa [spaced] using splitAtChar_prepend (gaps gap) after
      · rw [if_neg (by simpa using comma)] at split
        cases split
        have after : Text.splitAtChar ',' (c :: spaced false rest) =
            (c :: spaced false head) :: others.map (spaced false) := by
          rw [Text.splitAtChar, if_neg (by simpa using comma), ih own]
        simpa [spaced, blank] using splitAtChar_prepend (gaps gap) after

namespace Placeholder

theorem options_spaced : options (spaced gap cs) = spaced false (options cs) :=
  dropWhile_spaced fun _ blank => isPlain_of_blank blank

theorem Named.spaced (named : Named cs) (gap : Bool) : Named (spaced gap cs) := by
  obtain ⟨c, rest, start, apart, plain⟩ := named
  refine ⟨c, MappedSql.spaced false rest, ?_, apart, plain⟩
  rw [trimStart_spaced, start, spaced_cons (of_dropWhile_eq_cons start)]

theorem readOption?_spaced {pair : String × String} (read : readOption? cs = some pair)
    (visible : ∀ c ∈ pair.1.toList, Text.isBlank c = false) :
    ∃ value, readOption? (MappedSql.spaced false cs) = some (pair.1, value) := by
  unfold readOption? at read ⊢
  split at read
  next equals =>
    cases read
    have kept : (MappedSql.spaced false cs).contains '=' = true := by
      rw [List.contains_iff_mem] at equals ⊢
      exact mem_spaced_of_visible equals (by decide)
    have stops : ∀ c, Text.isBlank c → (c != '=') = true := by
      intro c blank
      rw [bne_iff_ne]
      rintro rfl
      exact absurd blank (by decide)
    rw [String.toList_ofList] at visible
    refine ⟨String.ofList
      (Text.trim (((MappedSql.spaced false cs).dropWhile (· != '=')).drop 1)), ?_⟩
    rw [if_pos kept, takeWhile_spaced stops]
    dsimp only
    rw [trim_spaced_of_visible visible]
  next => cases read

theorem visible_of_known : ∀ name ∈ knownAttributes, ∀ c ∈ name.toList, Text.isBlank c = false := by
  have visible : knownAttributes.all (·.toList.all (!Text.isBlank ·)) = true := by decide
  simpa using visible

theorem readOptions_spaced {content content' : String} {position position' : Nat}
    {options : List (List Char)} {attributes : List (String × String)}
    (read : readOptions content position options = .ok attributes) (known : Known attributes) :
    ∃ respaced, readOptions content' position' (options.map (MappedSql.spaced false)) =
      .ok respaced ∧ Known respaced := by
  induction options generalizing attributes with
  | nil => exact ⟨[], rfl, by simp [Known]⟩
  | cons option rest ih =>
    rw [readOptions] at read
    rw [List.map_cons, readOptions, isEmpty_trim_spaced]
    split at read
    next blank => rw [if_pos blank]; exact ih read known
    next visible =>
      rw [if_neg visible]
      cases found : readOption? option with
      | none => rw [found] at read; cases read
      | some pair =>
        simp only [found, bind_eq_ok, pure_eq_ok] at read
        obtain ⟨others, read, rfl⟩ := read
        rw [Known, List.forall_mem_cons] at known
        obtain ⟨respaced, reread, rest⟩ := ih read known.2
        obtain ⟨value, again⟩ := readOption?_spaced found (visible_of_known _ known.1)
        refine ⟨(pair.1, value) :: respaced, ?_, ?_⟩
        · simp [again, reread]
        · exact List.forall_mem_cons.2 ⟨known.1, rest⟩

theorem readListed_spaced {content content' : String}
    {typed typed' attributes : List (String × String)}
    (read : readListed content typed cs = .ok attributes) (known : Known attributes)
    (same : Known typed') :
    ∃ respaced, readListed content' typed' (MappedSql.spaced false cs) = .ok respaced ∧
      Known respaced := by
  unfold readListed at read
  split at read
  · exact ⟨typed', rfl, same⟩
  next options =>
    cases listed : readOptions content (positionOf content options)
        (Text.splitAtChar ',' options) with
    | error e => rw [listed] at read; cases read
    | ok others =>
      rw [listed] at read
      cases read
      obtain ⟨first, rest, split⟩ :=
        List.exists_cons_of_ne_nil (Text.splitAtChar_ne_nil ',' options)
      obtain ⟨respaced, reread, knownToo⟩ : ∃ respaced, readOptions content'
          (positionOf content' (MappedSql.spaced false options))
          ((Text.splitAtChar ',' options).map (MappedSql.spaced false)) = .ok respaced ∧
          Known respaced :=
        readOptions_spaced listed fun pair mem => known pair (List.mem_append_right _ mem)
      refine ⟨typed' ++ respaced, ?_, List.forall_mem_append.2 ⟨same, knownToo⟩⟩
      rw [spaced_cons (by decide), readListed, splitAtChar_spaced split, ← List.map_cons, ← split,
        reread]
      rfl
  · cases read

theorem known_typed (columnType : Option String) :
    Known (columnType.toList.map (("jdbcType", ·))) := by
  intro pair mem
  obtain ⟨_, -, rfl⟩ := List.mem_map.1 mem
  simp [knownAttributes]

theorem readColumnType_spaced {content content' : String} {columnType : Option String}
    {rest : List Char} (read : readColumnType content (options cs) = .ok (columnType, rest)) :
    ∃ respaced, readColumnType content' (MappedSql.spaced false (options cs)) =
      .ok (respaced, MappedSql.spaced false rest) := by
  have stops : ∀ c, Text.isBlank c → (c != ',') = true := by
    intro c blank
    rw [bne_iff_ne]
    rintro rfl
    exact absurd blank (by decide)
  unfold readColumnType at read
  split at read
  next typed opens =>
    dsimp only at read
    split at read
    · cases read
    next some =>
      cases read
      rw [opens, spaced_cons (by decide), readColumnType, takeWhile_spaced stops,
        dropWhile_spaced stops, isEmpty_trim_spaced, if_neg some]
      exact ⟨_, rfl⟩
  next other =>
    cases read
    refine ⟨none, ?_⟩
    rcases options_cases cs with none | ⟨c, tail, some, sign⟩
    · rw [none]; rfl
    · rw [some, spaced_cons (visible_of_sign sign), readColumnType.eq_def]
      split
      next eq => exact absurd (some.trans (by rw [(List.cons.inj eq).1])) (other tail)
      next => rfl

theorem readAttributes_spaced {content content' : String} {attributes : List (String × String)}
    (read : readAttributes content (options cs) = .ok attributes) (known : Known attributes) :
    ∃ respaced, readAttributes content' (MappedSql.spaced false (options cs)) = .ok respaced ∧
      Known respaced := by
  simp only [readAttributes, bind_eq_ok] at read ⊢
  obtain ⟨⟨columnType, rest⟩, typed, listed⟩ := read
  obtain ⟨again, retyped⟩ : ∃ again, readColumnType content' (MappedSql.spaced false (options cs)) =
      .ok (again, MappedSql.spaced false rest) := readColumnType_spaced typed
  obtain ⟨respaced, relisted, named⟩ : ∃ respaced, readListed content'
      (again.toList.map (("jdbcType", ·))) (MappedSql.spaced false (Text.trimStart rest)) =
        .ok respaced ∧ Known respaced :=
    readListed_spaced listed known (known_typed again)
  exact ⟨respaced, ⟨_, retyped, by rw [trimStart_spaced]; exact relisted⟩, named⟩

theorem WellFormed.spaced {content : String} (wellFormed : WellFormed content) :
    WellFormed (String.ofList (MappedSql.spaced false content.toList)) := by
  obtain ⟨named, attributes, read, known⟩ := wellFormed
  obtain ⟨respaced, reread, again⟩ := readAttributes_spaced read known
  exact ⟨by simpa using named.spaced false, respaced,
    by rw [String.toList_ofList, options_spaced]; exact reread, again⟩

end Placeholder

end MappedSql
