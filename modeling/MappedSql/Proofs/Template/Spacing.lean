import MappedSql.Proofs.Template.Fragments
import MappedSql.Source

namespace MappedSql

open Written

def gapText (gap : Bool) : List Char :=
  if gap then [' '] else []

def squeeze (gap : Bool) : List Char → List Char
  | [] => []
  | c :: rest =>
      if Text.isBlank c then squeeze true rest else gapText gap ++ c :: squeeze false rest

theorem flatMap_splitWords (cs : List Char) :
    (splitWords.go [] cs).flatMap (' ' :: ·) = squeeze true cs ∧
      ∀ c word, (splitWords.go (c :: word) cs).flatMap (' ' :: ·) =
        ' ' :: ((c :: word).reverse ++ squeeze false cs) := by
  induction cs with
  | nil => simp [splitWords.go, squeeze]
  | cons d rest ih =>
      obtain ⟨between, within⟩ := ih
      cases blank : Text.isBlank d with
      | true => simp [splitWords.go, squeeze, blank, between]
      | false => simp [splitWords.go, squeeze, gapText, blank, within]

theorem intercalate_eq_drop (words : List (List Char)) :
    List.intercalate [' '] words = (words.flatMap (' ' :: ·)).drop 1 := by
  induction words with
  | nil => rfl
  | cons word rest ih =>
      cases rest with
      | nil => simp
      | cons next rest => simpa using ih

theorem squeeze_trimStart (cs : List Char) :
    (squeeze true cs).drop 1 = squeeze false (Text.trimStart cs) := by
  induction cs with
  | nil => rfl
  | cons c rest ih =>
      cases blank : Text.isBlank c with
      | true =>
          have trimmed : Text.trimStart (c :: rest) = Text.trimStart rest := by
            simp [Text.trimStart, blank]
          rw [trimmed, ← ih]
          simp [squeeze, blank]
      | false =>
          rw [Text.trimStart_cons blank]
          simp [squeeze, blank, gapText]

theorem toList_finishSql_shrunk (sql : String) :
    (finishSql sql true).toList = squeeze false (Text.trimStart sql.toList) := by
  have split : splitWords sql.toList = splitWords.go [] sql.toList := rfl
  rw [← squeeze_trimStart, ← (flatMap_splitWords sql.toList).1, ← intercalate_eq_drop]
  simp [finishSql, split, Function.comp_def]

/-- The content of a placeholder with one space for every run of blanks, also at its end. -/
def spaced (gap : Bool) : List Char → List Char
  | [] => gapText gap
  | c :: rest =>
      if Text.isBlank c then spaced true rest else gapText gap ++ c :: spaced false rest

theorem squeeze_append_close (gap : Bool) (content rest : List Char) :
    squeeze gap (content ++ '}' :: rest) = spaced gap content ++ '}' :: squeeze false rest := by
  induction content generalizing gap with
  | nil =>
      have visible : Text.isBlank '}' = false := by decide
      simp [squeeze, spaced, visible]
  | cons c content ih =>
      cases blank : Text.isBlank c <;> simp [squeeze, spaced, blank, ih]

theorem mem_spaced {gap : Bool} {content : List Char} {c : Char} (mem : c ∈ spaced gap content) :
    c = ' ' ∨ c ∈ content := by
  induction content generalizing gap with
  | nil => cases gap <;> simp_all [spaced, gapText]
  | cons d content ih =>
      cases blank : Text.isBlank d with
      | true =>
          rw [spaced, if_pos blank] at mem
          exact (ih mem).imp_right (List.mem_cons_of_mem d)
      | false =>
          simp only [spaced, blank, Bool.false_eq_true, if_false, List.mem_append,
            List.mem_cons] at mem
          rcases mem with mem | rfl | mem
          · cases gap <;> simp_all [gapText]
          · simp
          · exact (ih mem).imp_right (List.mem_cons_of_mem d)

def squeezed (gap : Bool) : List Written → List Written
  | [] => []
  | .char c :: rest =>
      if Text.isBlank c then squeezed true rest
      else ofChars (gapText gap) ++ .char c :: squeezed false rest
  | .slot content :: rest =>
      ofChars (gapText gap) ++ .slot (spaced false content) :: squeezed false rest

theorem spell_squeezed (gap : Bool) (written : List Written) :
    spell (squeezed gap written) = squeeze gap (spell written) := by
  induction written generalizing gap with
  | nil => rfl
  | cons head rest ih =>
      cases head with
      | char c => cases blank : Text.isBlank c <;> simp [squeezed, squeeze, blank, ih]
      | slot content =>
          have visible : Text.isBlank '#' = false ∧ Text.isBlank '{' = false := by decide
          simp [squeezed, squeeze, visible, squeeze_append_close, gapText, ih]

theorem slots_squeezed (gap : Bool) (written : List Written) :
    slots (squeezed gap written) = (slots written).map (spaced false) := by
  induction written generalizing gap with
  | nil => rfl
  | cons head rest ih =>
      cases head with
      | char c => cases blank : Text.isBlank c <;> simp [squeezed, slots, blank, ih]
      | slot content => simp [squeezed, slots, ih]

theorem head?_squeeze (gap : Bool) (cs : List Char) :
    (squeeze gap cs).head? = some '{' → cs.head? = some '{' := by
  intro head
  have opened : ∀ cs, (squeeze true cs).head? ≠ some '{' := by
    intro cs
    induction cs with
    | nil => simp [squeeze]
    | cons c rest ih => cases blank : Text.isBlank c <;> simp [squeeze, gapText, blank, ih]
  cases gap with
  | true => exact absurd head (opened cs)
  | false =>
      cases cs with
      | nil => simp [squeeze] at head
      | cons c rest =>
          cases blank : Text.isBlank c with
          | true => simp [squeeze, blank, opened] at head
          | false => simpa [squeeze, gapText, blank] using head

theorem readable_gap {gap : Bool} {written : List Written} (readable : Readable written) :
    Readable (ofChars (gapText gap) ++ written) := by
  cases gap with
  | false => exact readable
  | true => exact readable.cons_char (by decide) (by simp)

theorem Written.Readable.apart {rest : List Written} (readable : Readable (.char '#' :: rest)) :
    (spell rest).head? ≠ some '{' := by
  intro head
  cases rest with
  | nil => simp at head
  | cons next rest =>
      cases next with
      | char c =>
          obtain rfl : c = '{' := by simpa using head
          exact readable.seamless [] rest rfl
      | slot content => simp at head

theorem readable_squeezed (gap : Bool) {written : List Written} (readable : Readable written) :
    Readable (squeezed gap written) := by
  induction written generalizing gap with
  | nil => exact readable
  | cons head rest ih =>
      cases head with
      | char c =>
          cases blank : Text.isBlank c with
          | true => simpa [squeezed, blank] using ih true readable.tail
          | false =>
              simp only [squeezed, blank, Bool.false_eq_true, if_false]
              refine readable_gap ((ih false readable.tail).cons_char ?_ ?_)
              · rintro rfl
                exact readable.unescaped (by simp)
              · rintro ⟨rfl, opening⟩
                rw [spell_squeezed] at opening
                exact readable.apart (head?_squeeze false _ opening)
      | slot content =>
          obtain ⟨enclosed, unescaped⟩ := readable.enclosed content (by simp)
          refine readable_gap ((ih false readable.tail).cons_slot ?_ ?_)
          · intro mem
            exact (mem_spaced mem).elim (by decide) enclosed
          · intro mem
            exact (mem_spaced mem).elim (by decide) unescaped

theorem blank_gapText {gap : Bool} : ∀ c ∈ gapText gap, Text.isBlank c := by
  cases gap <;> simp [gapText, Text.isBlank]

theorem exists_spaced_append_blank {before : List Char} (blank : ∀ c ∈ before, Text.isBlank c)
    (gap : Bool) (cs : List Char) :
    ∃ after, spaced gap (before ++ cs) = spaced after cs := by
  induction before generalizing gap with
  | nil => exact ⟨gap, rfl⟩
  | cons c before ih =>
      obtain ⟨after, same⟩ := ih (fun d mem => blank d (by simp [mem])) true
      exact ⟨after, by rw [List.cons_append, spaced, if_pos (blank c (by simp)), same]⟩

theorem spaced_append_visible {path : List Char} (nonempty : path ≠ [])
    (visible : ∀ c ∈ path, Text.isBlank c = false) (gap : Bool) (rest : List Char) :
    spaced gap (path ++ rest) = gapText gap ++ path ++ spaced false rest := by
  induction path generalizing gap with
  | nil => exact absurd rfl nonempty
  | cons c path ih =>
      rw [List.cons_append, spaced, visible c (by simp)]
      cases path with
      | nil => simp
      | cons d path =>
          rw [ih (by simp) (fun c mem => visible c (by simp [mem])) false]
          simp [gapText]

theorem follows_spaced {rest : List Char} (follows : Placeholder.Follows rest) (gap : Bool) :
    Placeholder.Follows (spaced gap rest) := by
  have gaps : ∀ c ∈ gapText gap, Placeholder.isPlain c := by
    cases gap <;> simp [gapText, Placeholder.isPlain]
  induction rest generalizing gap with
  | nil => exact fun c mem => blank_gapText c (List.takeWhile_prefix _ |>.subset mem)
  | cons c rest ih =>
      cases plain : Placeholder.isPlain c with
      | true =>
          have blank := follows c (by simp [plain])
          rw [spaced, if_pos blank]
          refine ih (fun d mem => follows d ?_) true (by simp [gapText, Placeholder.isPlain])
          simp [plain, mem]
      | false =>
          have visible : Text.isBlank c = false := by
            have signs : c = ',' ∨ c = ':' := by
              by_contra other
              simp only [not_or] at other
              simp [Placeholder.isPlain, other] at plain
            rcases signs with rfl | rfl <;> decide
          intro d mem
          rw [spaced, visible, if_neg (by simp), List.takeWhile_append_of_pos gaps] at mem
          simp only [List.takeWhile_cons, plain, Bool.false_eq_true, if_false,
            List.append_nil] at mem
          exact blank_gapText d mem

theorem subject_spaced {content : List Char} (plain : IsPath (Placeholder.subject content)) :
    Placeholder.subject (spaced false content) = Placeholder.subject content := by
  obtain ⟨before, rest, split, blank, follows⟩ := Placeholder.exists_of_subject plain
  obtain ⟨gap, same⟩ := exists_spaced_append_blank blank false
    (Placeholder.subject content ++ rest)
  have spelled : spaced false content =
      gapText gap ++ Placeholder.subject content ++ spaced false rest := by
    conv_lhs => rw [split, List.append_assoc, same]
    exact spaced_append_visible plain.1 (fun c mem => isPathChar_visible (plain.2 c mem)) gap rest
  rw [spelled, Placeholder.subject_append blank_gapText plain (follows_spaced follows false)]

def finishPlaceholder (shrinkWhitespace : Bool) (content : String) : String :=
  if shrinkWhitespace then String.ofList (spaced false content.toList) else content

section

variable {edges : Edges} {sql : String} {contents : List String}

theorem Holds.contents_ofText_finishSql (holds : Holds edges sql contents) (blanks : edges.Blanks)
    (shrink : Bool) : Piece.contents (Piece.ofText '#' (finishSql sql shrink)) =
      contents.map (finishPlaceholder shrink) := by
  cases shrink with
  | false =>
      have trimmed := holds.peel (t := Text.trimmed sql)
        (by simpa [Text.trimmed] using peels_trim blanks sql.toList)
      have same : finishSql sql false = Text.trimmed sql := rfl
      rw [same, trimmed.contents_ofText]
      exact (List.map_id contents).symm
  | true =>
      obtain ⟨written, spelled, sound, rfl⟩ := holds.peel
        (t := String.ofList (Text.trimStart sql.toList))
        (by simpa using peels_trimStart blanks sql.toList)
      rw [String.toList_ofList] at spelled
      have finished : finishSql sql true = String.ofList (spell (squeezed false written)) := by
        rw [spell_squeezed, spelled, ← toList_finishSql_shrunk, String.ofList_toList]
      rw [finished, contents_ofText_spell _ (readable_squeezed false sound.toReadable),
        slots_squeezed]
      simp [finishPlaceholder, Function.comp_def]

theorem Holds.contents_finishSql (holds : Holds edges sql contents) (blanks : edges.Blanks)
    (plain : ∀ content ∈ contents, IsPath (Placeholder.subject content.toList)) (shrink : Bool) :
    List.Forall₂ (fun found content : String =>
        Placeholder.subject found.toList = Placeholder.subject content.toList)
      (Piece.contents (Piece.ofText '#' (finishSql sql shrink))) contents := by
  rw [holds.contents_ofText_finishSql blanks, List.forall₂_map_left_iff, List.forall₂_same]
  intro content mem
  cases shrink with
  | false => rfl
  | true => simpa [finishPlaceholder] using subject_spaced (plain content mem)

end

end MappedSql
