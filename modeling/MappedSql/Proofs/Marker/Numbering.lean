import MappedSql.Proofs.Marker.Lookahead
import MappedSql.Proofs.Number.Numerals

namespace MappedSql

namespace Marker

/-- The text with the numbers from `next` on written behind positions. These count from the start of
the whole text, and the text begins at `start`. -/
def insertNumbers (next start : Nat) : List Nat → List Char → List Char
  | [], cs => cs
  | position :: rest, cs =>
      cs.take (position + 1 - start) ++ (toString next).toList ++
        insertNumbers (next + 1) (position + 1) rest (cs.drop (position + 1 - start))

def flagged (start : Nat) (flags : List Bool) : List Nat :=
  ((flags.zipIdx start).filter (·.1)).map (·.2)

theorem flagged_cons (start : Nat) (flag : Bool) (rest : List Bool) :
    flagged start (flag :: rest) =
      if flag then start :: flagged (start + 1) rest else flagged (start + 1) rest := by
  cases flag <;> simp [flagged]

theorem lt_of_mem_flagged {start position : Nat} {flags : List Bool}
    (mem : position ∈ flagged start flags) : start ≤ position := by
  obtain ⟨⟨flag, index⟩, among, rfl⟩ := List.mem_map.1 mem
  exact List.le_snd_of_mem_zipIdx (List.mem_filter.1 among).1

theorem flagged_eq_nil {start : Nat} {flags : List Bool} (unset : true ∉ flags) :
    flagged start flags = [] := by
  induction flags generalizing start with
  | nil => rfl
  | cons flag rest ih =>
      rw [List.mem_cons, not_or] at unset
      rw [flagged_cons, if_neg (Ne.symm unset.1), ih unset.2]

theorem insertNumbers_cons {next start : Nat} {positions : List Nat} (c : Char) (cs : List Char)
    (beyond : ∀ position ∈ positions, start < position) :
    insertNumbers next start positions (c :: cs) =
      c :: insertNumbers next (start + 1) positions cs := by
  cases positions with
  | nil => rfl
  | cons position rest =>
      have later : start < position := beyond position List.mem_cons_self
      have inner : position + 1 - start = position + 1 - (start + 1) + 1 := by omega
      rw [insertNumbers, insertNumbers, inner]
      simp

theorem writeNumbered_eq_insertNumbers {sign : Char} (next start : Nat) {cs : List Char}
    {flags : List Bool} (aligned : flags.length = cs.length)
    (markers : ∀ c, (c, true) ∈ cs.zip flags → c = sign) :
    writeNumbered sign next (cs.zip flags) = insertNumbers next start (flagged start flags) cs := by
  induction cs generalizing next start flags with
  | nil =>
      obtain rfl := List.eq_nil_of_length_eq_zero aligned
      rfl
  | cons c cs ih =>
      obtain ⟨flag, flags, rfl⟩ := List.exists_cons_of_length_eq_add_one aligned
      have rest := fun next => ih next (start + 1) (Nat.succ.inj aligned) fun d mem =>
        markers d (List.mem_cons_of_mem _ mem)
      rw [List.zip_cons_cons, writeNumbered, flagged_cons]
      cases flag with
      | false =>
          rw [if_neg Bool.false_ne_true, if_neg Bool.false_ne_true, rest,
            insertNumbers_cons c cs fun position mem => lt_of_mem_flagged mem]
      | true =>
          obtain rfl : c = sign := markers c List.mem_cons_self
          rw [if_pos rfl, if_pos rfl, rest, insertNumbers]
          simp

theorem writeNumbered_unflagged {sign : Char} (next : Nat) {cs : List Char} {flags : List Bool}
    (aligned : flags.length = cs.length) (unset : true ∉ flags) :
    writeNumbered sign next (cs.zip flags) = cs := by
  have none : ∀ c, (c, true) ∈ cs.zip flags → c = sign :=
    fun c mem => absurd (List.of_mem_zip mem).2 unset
  rw [writeNumbered_eq_insertNumbers next 0 aligned none, flagged_eq_nil unset]
  rfl

variable {mode : Mode}

theorem takeWhile_writeNumbered (next : Nat) {cs : List Char} {flags : List Bool}
    (aligned : flags.length = cs.length) (markers : ∀ c, (c, true) ∈ cs.zip flags → c = '?') :
    (writeNumbered '?' next (cs.zip flags)).takeWhile ahead = cs.takeWhile ahead := by
  induction cs generalizing flags with
  | nil => rfl
  | cons c cs ih =>
      obtain ⟨flag, flags, rfl⟩ := List.exists_cons_of_length_eq_add_one aligned
      rw [List.zip_cons_cons, writeNumbered]
      have stops : ahead '?' = false := by decide
      cases flag with
      | false =>
          have rest := ih (Nat.succ.inj aligned) fun d mem => markers d (List.mem_cons_of_mem _ mem)
          rw [if_neg Bool.false_ne_true, List.takeWhile_cons, rest, List.takeWhile_cons]
      | true =>
          obtain rfl : c = '?' := markers c List.mem_cons_self
          simp [stops]

theorem isDigit_of_mem_toString {n : Nat} : ∀ d ∈ (toString n).toList, d.isDigit := by
  intro d mem
  refine Number.isDigit_of_mem_toDigits (n := n) ?_
  simpa [Nat.toString_eq_repr, Nat.repr] using mem

theorem exists_toString_cons (n : Nat) :
    ∃ d rest, (toString n).toList = d :: rest ∧ d.isDigit := by
  have some : (toString n).toList ≠ [] := by
    simp [Nat.toString_eq_repr, Nat.repr]
  obtain ⟨d, rest, split⟩ := List.exists_cons_of_ne_nil some
  exact ⟨d, rest, split, isDigit_of_mem_toString d (split ▸ List.mem_cons_self)⟩

theorem flags_digits {digits rest : List Char} (all : ∀ d ∈ digits, d.isDigit) :
    flags .code 0 (digits ++ rest) =
      List.replicate digits.length false ++ flags .code 0 rest := by
  induction digits with
  | nil => rfl
  | cons d digits ih =>
      obtain ⟨digit, others⟩ := List.forall_mem_cons.1 all
      have idle : read .code d (digits ++ rest) = { mode := .code } :=
        read_idle trivial (not_mem_signs_of_isDigit digit) nofun
      rw [List.cons_append, flags, if_neg (Nat.lt_irrefl 0)]
      simp only [idle, ih others, List.length_cons, List.replicate_succ, List.cons_append]

theorem flags_numberedMarker (n : Nat) (rest : List Char) :
    flags .code 0 ('?' :: ((toString n).toList ++ rest)) =
      false :: (List.replicate (toString n).toList.length false ++ flags .code 0 rest) := by
  obtain ⟨d, digits, split, digit⟩ := exists_toString_cons n
  have unmarked : isBare '?' ((toString n).toList ++ rest) = false := by
    rw [isBare, split]
    simp [digit]
  rw [← flags_digits isDigit_of_mem_toString, flags_of_plain not_opens_marker, unmarked]

theorem flags_writeNumbered (sound : mode.Sound) (skip next : Nat) (cs : List Char) :
    true ∉ flags mode skip (writeNumbered '?' next (cs.zip (flags mode skip cs))) := by
  induction cs generalizing mode skip next with
  | nil => exact List.not_mem_nil
  | cons c rest ih =>
      by_cases within : 0 < skip
      · simpa [flags, within, writeNumbered] using ih sound (skip - 1) next
      · obtain rfl : skip = 0 := Nat.eq_zero_of_not_pos within
        rw [flags, if_neg within]
        dsimp only
        cases marked : (read mode c rest).marked with
        | true =>
            obtain ⟨rfl, rfl, bare⟩ := read_marked marked
            rw [read_bare bare, List.zip_cons_cons, writeNumbered, if_pos rfl, List.cons_append,
              flags_numberedMarker]
            have code : Mode.code.Sound := trivial
            have behind := ih code 0 (next + 1)
            simpa using behind
        | false =>
            let reading := read mode c rest
            have same : (writeNumbered '?' next
                (rest.zip (flags reading.mode reading.skip rest))).takeWhile ahead =
                  rest.takeWhile ahead :=
              takeWhile_writeNumbered next (length_flags _ _) fun d =>
                marker_of_mem_zip_flags reading.mode reading.skip
            rw [List.zip_cons_cons, writeNumbered, if_neg Bool.false_ne_true, flags, if_neg within,
              read_congr sound same]
            simpa [marked] using ih sound.read (read mode c rest).skip next

theorem positions_eq_nil {cs : List Char} (unset : true ∉ flags .code 0 cs) : positions cs = [] :=
  flagged_eq_nil unset

end Marker

/-- A text numbered with question marks is the text with the number k written right behind the k-th
bare marker, and otherwise unchanged. It has no bare marker, and numbering it again returns it. -/
theorem MarkerStyle.number_question (sql : String) :
    let numbered := question.number sql
    numbered.toList = Marker.insertNumbers 1 0 (Marker.positions sql.toList) sql.toList ∧
      Marker.positions numbered.toList = [] ∧ question.number numbered = numbered := by
  have aligned (cs : List Char) : (Marker.flags .code 0 cs).length = cs.length :=
    Marker.length_flags _ _
  have written : (question.number sql).toList =
      Marker.writeNumbered '?' 1 (sql.toList.zip (Marker.flags .code 0 sql.toList)) :=
    String.toList_ofList
  have unset : true ∉ Marker.flags .code 0 (question.number sql).toList := by
    rw [written]
    have sound : Marker.Mode.code.Sound := trivial
    exact Marker.flags_writeNumbered sound 0 1 sql.toList
  refine ⟨?_, Marker.positions_eq_nil unset, ?_⟩
  · rw [written]
    exact Marker.writeNumbered_eq_insertNumbers 1 0 (aligned _) fun c =>
      Marker.marker_of_mem_zip_flags .code 0
  · rw [← String.toList_inj]
    show (String.ofList _).toList = _
    rw [String.toList_ofList, Marker.writeNumbered_unflagged 1 (aligned _) unset]

end MappedSql
