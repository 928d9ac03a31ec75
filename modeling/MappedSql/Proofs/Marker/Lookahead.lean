import MappedSql.Proofs.Marker.Elements
import MappedSql.Proofs.Text.Trimming

namespace MappedSql

namespace Marker

def ahead (c : Char) : Bool :=
  continuesTag c || c == '$' || c == '-' || c == '*' || c == '/' || c == '\'' || c == '"'

def Mode.Sound : Mode → Prop
  | .quoted quote => quote = '\'' ∨ quote = '"'
  | .dollarBody tag => ∃ name, TagName name ∧ tag = tagOf name
  | _ => True

variable {mode : Mode} {c : Char} {rest other : List Char}

theorem ahead_of_isBlank (blank : Text.isBlank c) : ahead c = false := by
  have none : ∀ d ∈ Text.blanks, ahead d = false := List.all_iff_forall_prop.1 (by decide)
  exact none c (Text.mem_blanks blank)

theorem ahead_of_continuesTag (continues : continuesTag c) : ahead c := by
  simp [ahead, continues]

theorem ahead_of_isDigit (digit : c.isDigit) : ahead c :=
  ahead_of_continuesTag (by simp [continuesTag, Char.isAlphanum, digit])

theorem ahead_of_mem_tagOf {name : List Char} (named : TagName name) : ∀ d ∈ tagOf name, ahead d := by
  intro d mem
  simp only [tagOf, List.cons_append, List.mem_cons, List.mem_append, List.not_mem_nil,
    or_false] at mem
  rcases mem with rfl | mem | rfl
  · decide
  · exact ahead_of_continuesTag (named.continues d mem)
  · decide

theorem sound_readCode : (readCode c rest).mode.Sound := by
  unfold readCode
  split
  · exact .inl rfl
  · exact .inr rfl
  · trivial
  · trivial
  · split
    next found =>
      obtain ⟨name, -, named, same, -⟩ := exists_name_of_dollarTag? found
      exact ⟨name, named, same⟩
    next => trivial
  · trivial
  · trivial

theorem Mode.Sound.read (sound : mode.Sound) : (Marker.read mode c rest).mode.Sound := by
  cases mode with
  | code => exact sound_readCode
  | quoted quote =>
      show Mode.Sound (ite _ _ _ : Reading).mode
      split
      · split
        · exact sound
        · trivial
      · exact sound
  | lineComment =>
      show Mode.Sound (ite _ _ _)
      split <;> trivial
  | blockComment depth =>
      show (readBlockComment depth c rest).mode.Sound
      unfold readBlockComment
      split
      · trivial
      · show Mode.Sound (ite _ _ _)
        split <;> trivial
      · trivial
  | dollarBody tag =>
      show Mode.Sound (ite _ _ _ : Reading).mode
      split
      · trivial
      · exact sound

theorem prefix_iff_takeWhile {sign : List Char} (signs : ∀ d ∈ sign, ahead d) :
    sign <+: rest ↔ sign <+: rest.takeWhile ahead := by
  refine ⟨?_, fun starts => starts.trans (List.takeWhile_prefix ahead)⟩
  rintro ⟨after, rfl⟩
  rw [List.takeWhile_append_of_pos signs]
  exact List.prefix_append _ _

section

variable (same : other.takeWhile ahead = rest.takeWhile ahead)

include same

theorem prefix_congr {sign : List Char} (signs : ∀ d ∈ sign, ahead d) :
    sign <+: other ↔ sign <+: rest := by
  rw [prefix_iff_takeWhile signs, same, ← prefix_iff_takeWhile signs]

theorem head?_congr {d : Char} (sign : ahead d) : other.head? = some d ↔ rest.head? = some d := by
  have starts (text : List Char) : text.head? = some d ↔ [d] <+: text := by
    cases text <;> simp [eq_comm]
  rw [starts, starts, prefix_congr same (by simpa using sign)]

theorem dollarTag?_congr : dollarTag? other = dollarTag? rest := by
  have found (text tag : List Char) : dollarTag? text = some tag ↔
      ∃ name, TagName name ∧ tag = tagOf name ∧ name ++ ['$'] <+: text := by
    constructor
    · intro found
      obtain ⟨name, after, named, rfl, rfl⟩ := exists_name_of_dollarTag? found
      exact ⟨name, named, rfl, after, by simp⟩
    · rintro ⟨name, named, rfl, after, rfl⟩
      simpa using dollarTag?_of_name named after
  have signs {name : List Char} (named : TagName name) : ∀ d ∈ name ++ ['$'], ahead d :=
    fun d mem => ahead_of_mem_tagOf named d (List.mem_cons_of_mem _ mem)
  ext tag
  rw [found, found]
  exact exists_congr fun name => and_congr_right fun named =>
    and_congr_right fun _ => prefix_congr same (signs named)

theorem isBare_congr : isBare c other = isBare c rest := by
  have digits : other.head?.any Char.isDigit = rest.head?.any Char.isDigit := by
    rw [Bool.eq_iff_iff, Option.any_eq_true, Option.any_eq_true]
    exact exists_congr fun d => ⟨fun ⟨here, digit⟩ =>
        ⟨(head?_congr same (ahead_of_isDigit digit)).1 here, digit⟩,
      fun ⟨here, digit⟩ => ⟨(head?_congr same (ahead_of_isDigit digit)).2 here, digit⟩⟩
  rw [isBare, isBare, digits]

end

theorem readCode_eq (c : Char) (rest : List Char) : readCode c rest =
    if c = '\'' ∨ c = '"' then { mode := .quoted c }
    else if c = '-' ∧ rest.head? = some '-' then { mode := .lineComment, skip := 1 }
    else if c = '/' ∧ rest.head? = some '*' then { mode := .blockComment 1, skip := 1 }
    else if c = '$' then
      ((dollarTag? rest).map fun tag =>
        { mode := .dollarBody tag, skip := tag.length - 1 : Reading }).getD { mode := .code }
    else { marked := isBare c rest, mode := .code } := by
  unfold readCode
  split
  · rfl
  · rfl
  · rfl
  · rfl
  · rw [if_neg (by decide), if_neg (by simp), if_neg (by simp), if_pos rfl]
    cases dollarTag? _ <;> rfl
  · rfl
  · rename_i single double sign marker line comment
    have noLine : ¬(c = '-' ∧ rest.head? = some '-') := by
      rintro ⟨dash, starts⟩
      obtain ⟨after, same⟩ := List.head?_eq_some_iff.1 starts
      exact line after dash same
    have noComment : ¬(c = '/' ∧ rest.head? = some '*') := by
      rintro ⟨slash, starts⟩
      obtain ⟨after, same⟩ := List.head?_eq_some_iff.1 starts
      exact comment after slash same
    have unmarked : isBare c rest = false := by
      simp [isBare, show c ≠ '?' from marker]
    rw [if_neg (not_or.2 ⟨single, double⟩), if_neg noLine, if_neg noComment, if_neg sign, unmarked]

theorem readBlockComment_eq (depth : Nat) (c : Char) (rest : List Char) :
    readBlockComment depth c rest =
      if c = '/' ∧ rest.head? = some '*' then { mode := .blockComment (depth + 1), skip := 1 }
      else if c = '*' ∧ rest.head? = some '/' then { mode := afterComment depth, skip := 1 }
      else { mode := .blockComment depth } := by
  unfold readBlockComment
  split
  · rfl
  · rfl
  · rename_i opens closes
    rw [if_neg, if_neg]
    · rintro ⟨rfl, starts⟩
      obtain ⟨after, rfl⟩ := List.head?_eq_some_iff.1 starts
      exact closes after rfl rfl
    · rintro ⟨rfl, starts⟩
      obtain ⟨after, rfl⟩ := List.head?_eq_some_iff.1 starts
      exact opens after rfl rfl

theorem read_congr (sound : mode.Sound) (same : other.takeWhile ahead = rest.takeWhile ahead) :
    read mode c other = read mode c rest := by
  cases mode with
  | code =>
      show readCode c other = readCode c rest
      simp only [readCode_eq, head?_congr same (d := '-') (by decide),
        head?_congr same (d := '*') (by decide), dollarTag?_congr same, isBare_congr same]
  | quoted quote =>
      have sign : ahead quote := by rcases sound with rfl | rfl <;> decide
      simp only [read, head?_congr same sign]
  | lineComment => rfl
  | blockComment depth =>
      show readBlockComment depth c other = readBlockComment depth c rest
      simp only [readBlockComment_eq, head?_congr same (d := '*') (by decide),
        head?_congr same (d := '/') (by decide)]
  | dollarBody tag =>
      obtain ⟨name, named, rfl⟩ := sound
      have whole : (c :: other).takeWhile ahead = (c :: rest).takeWhile ahead := by
        simp only [List.takeWhile_cons, same]
      have closes : (tagOf name).isPrefixOf (c :: other) = (tagOf name).isPrefixOf (c :: rest) := by
        rw [Bool.eq_iff_iff, List.isPrefixOf_iff_prefix, List.isPrefixOf_iff_prefix]
        exact prefix_congr whole (ahead_of_mem_tagOf named)
      simp only [read, closes]

def signs : List Char :=
  ['\'', '"', '-', '/', '*', '$', '?']

theorem read_idle (sound : mode.Sound) (idle : c ∉ signs)
    (stays : mode = .lineComment → c ≠ '\n') : read mode c rest = { mode := mode } := by
  simp only [signs, List.mem_cons, List.not_mem_nil, or_false, not_or] at idle
  obtain ⟨single, double, dash, slash, star, dollar, mark⟩ := idle
  cases mode with
  | code =>
      show readCode c rest = _
      simp [readCode_eq, isBare, single, double, dash, slash, dollar, mark]
  | quoted quote =>
      have apart : c ≠ quote := by rcases sound with rfl | rfl <;> assumption
      simp [read, apart]
  | lineComment => simp [read, stays rfl]
  | blockComment depth =>
      show readBlockComment depth c rest = _
      simp [readBlockComment_eq, slash, star]
  | dollarBody tag =>
      obtain ⟨name, -, rfl⟩ := sound
      have apart : '$' ≠ c := fun same => dollar same.symm
      simp [read, tagOf, apart]

theorem not_mem_signs_of_isBlank (blank : Text.isBlank c) : c ∉ signs := by
  have none : ∀ d ∈ Text.blanks, d ∉ signs := List.all_iff_forall_prop.1 (by decide)
  exact none c (Text.mem_blanks blank)

theorem not_mem_signs_of_isDigit (digit : c.isDigit) : c ∉ signs := by
  have none : ∀ d ∈ signs, d.isDigit = false := List.all_iff_forall_prop.1 (by decide)
  intro mem
  rw [none c mem] at digit
  contradiction

theorem read_marked (marked : (read mode c rest).marked = true) :
    mode = .code ∧ c = '?' ∧ isBare c rest = true := by
  cases mode with
  | code =>
      change (readCode c rest).marked = true at marked
      rw [readCode_eq] at marked
      split at marked
      · cases marked
      split at marked
      · cases marked
      split at marked
      · cases marked
      split at marked
      · cases found : dollarTag? rest <;> simp [found] at marked
      · refine ⟨rfl, ?_, marked⟩
        simp only [isBare, Bool.and_eq_true, beq_iff_eq] at marked
        exact marked.1
  | quoted quote =>
      simp only [read] at marked
      split at marked
      · split at marked <;> cases marked
      · cases marked
  | lineComment => cases marked
  | blockComment depth =>
      change (readBlockComment depth c rest).marked = true at marked
      rw [readBlockComment_eq] at marked
      split at marked
      · cases marked
      · split at marked <;> cases marked
  | dollarBody tag =>
      simp only [read] at marked
      split at marked <;> cases marked

theorem marker_of_mem_zip_flags (mode : Mode) (skip : Nat) {cs : List Char} {c : Char}
    (mem : (c, true) ∈ cs.zip (flags mode skip cs)) : c = '?' := by
  induction cs generalizing mode skip with
  | nil => cases mem
  | cons d rest ih =>
      rw [flags] at mem
      split at mem
      · rcases List.mem_cons.1 mem with no | later
        · cases no
        · exact ih _ _ later
      · rcases List.mem_cons.1 mem with here | later
        · obtain ⟨rfl, marked⟩ := Prod.mk.inj here
          exact (read_marked marked.symm).2.1
        · exact ih _ _ later

theorem read_bare (bare : isBare '?' rest = true) :
    read .code '?' rest = { marked := true, mode := .code } := by
  show readCode '?' rest = _
  simp [readCode_eq, bare]

theorem ahead_of_mem_take_tagOf {name after : List Char} (named : TagName name)
    (split : '$' :: rest = tagOf name ++ after) :
    ∀ d ∈ rest.take ((tagOf name).length - 1), ahead d := by
  obtain rfl : rest = (name ++ ['$']) ++ after := List.cons.inj split |>.2
  have length : (tagOf name).length - 1 = (name ++ ['$']).length := by simp [tagOf]
  rw [length, List.take_left]
  exact fun d mem => ahead_of_mem_tagOf named d (List.mem_cons_of_mem _ mem)

theorem ahead_of_mem_skipped (sound : mode.Sound) :
    ∀ d ∈ rest.take (read mode c rest).skip, ahead d := by
  have one {d : Char} (sign : ahead d) (here : rest.head? = some d) :
      ∀ e ∈ rest.take 1, ahead e := by
    obtain ⟨after, rfl⟩ := List.head?_eq_some_iff.1 here
    simpa using sign
  -- whatever is passed over belongs to a sign that the mode looks for, or to a tag
  cases mode with
  | code =>
      show ∀ d ∈ rest.take (readCode c rest).skip, ahead d
      rw [readCode_eq]
      split
      · simp
      split
      next line => exact one (by decide) line.2
      split
      next comment => exact one (by decide) comment.2
      split
      · cases found : dollarTag? rest with
        | none => simp
        | some tag =>
            obtain ⟨name, after, named, rfl, split⟩ := exists_name_of_dollarTag? found
            have whole : '$' :: rest = tagOf name ++ after := by rw [split, tagOf_append]
            exact ahead_of_mem_take_tagOf named whole
      · simp
  | quoted quote =>
      have sign : ahead quote := by rcases sound with rfl | rfl <;> decide
      simp only [read]
      split
      · split
        next doubled => exact one sign doubled
        · simp
      · simp
  | lineComment => simp [read]
  | blockComment depth =>
      show ∀ d ∈ rest.take (readBlockComment depth c rest).skip, ahead d
      rw [readBlockComment_eq]
      split
      next opens => exact one (by decide) opens.2
      split
      next closes => exact one (by decide) closes.2
      · simp
  | dollarBody tag =>
      obtain ⟨name, named, rfl⟩ := sound
      simp only [read]
      split
      next closes =>
        obtain ⟨after, same⟩ := List.isPrefixOf_iff_prefix.1 closes
        obtain ⟨rfl, -⟩ := List.cons.inj same
        exact ahead_of_mem_take_tagOf named same.symm
      · simp

end Marker

end MappedSql
