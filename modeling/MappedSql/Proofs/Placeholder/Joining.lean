import Mathlib.Data.List.DropRight
import Mathlib.Data.List.Induction
import Mathlib.Data.List.Infix
import MappedSql.Proofs.Placeholder.Written

namespace MappedSql

def EndsInHash (loose : Char → Bool) (cs : List Char) : Prop :=
  (cs.rdropWhile loose).getLast? = some '#'
  deriving Decidable

/-- A text that begins with `{` once loose characters are taken off its start. -/
def BeginsWithBrace (loose : Char → Bool) (cs : List Char) : Prop :=
  (cs.dropWhile loose).head? = some '{'
  deriving Decidable

def Closed (cs : List Char) : Prop :=
  ∀ opened ∈ cs.tails, ['#', '{'] <+: opened → '}' ∈ opened
  deriving Decidable

def Unopened (cs : List Char) : Prop :=
  ¬['#', '{'] <:+: cs
  deriving Decidable

theorem Closed.suffix {cs rest : List Char} (closed : Closed cs) (ends : rest <:+ cs) :
    Closed rest := fun opened mem =>
  closed opened ((List.mem_tails _ _).2 (((List.mem_tails _ _).1 mem).trans ends))

theorem Unopened.closed {cs : List Char} (unopened : Unopened cs) : Closed cs :=
  fun opened mem opening =>
    absurd (opening.isInfix.trans ((List.mem_tails opened cs).1 mem).isInfix) unopened

/-- Which characters trimming may take from the ends of a text, and whether some text may come to
end in `#` or to begin with `{`, but not both. -/
structure Edges where
  loose : Char → Bool
  mayEnd : Prop
  mayBegin : Prop
  apart : ¬(mayEnd ∧ mayBegin)
  hash_kept : loose '#' = false
  open_kept : loose '{' = false
  close_kept : loose '}' = false

structure Edges.Fits (edges : Edges) (cs : List Char) : Prop where
  unescaped : '\\' ∉ cs
  closed : Closed cs
  ends : EndsInHash edges.loose cs → edges.mayEnd
  begins : BeginsWithBrace edges.loose cs → edges.mayBegin

def Edges.Peels (edges : Edges) (cs peeled : List Char) : Prop :=
  ∃ a b, cs = a ++ peeled ++ b ∧ (∀ c ∈ a, edges.loose c) ∧ ∀ c ∈ b, edges.loose c

namespace Written

def isLoose (edges : Edges) : Written → Bool
  | char c => edges.loose c
  | slot _ => false

structure Sound (edges : Edges) (written : List Written) : Prop extends Readable written where
  ends : ∀ a b, written = a ++ char '#' :: b → (∀ x ∈ b, isLoose edges x) → edges.mayEnd
  begins : ∀ a b, written = a ++ char '{' :: b → (∀ x ∈ a, isLoose edges x) → edges.mayBegin

variable {edges : Edges}

theorem sound_nil : Sound edges [] where
  unescaped := by simp
  enclosed := by simp
  seamless := by simp
  ends := by simp
  begins := by simp

theorem Sound.append {a b : List Written} (left : Sound edges a) (right : Sound edges b) :
    Sound edges (a ++ b) where
  unescaped := by simpa using ⟨left.unescaped, right.unescaped⟩
  enclosed := fun content mem =>
    (List.mem_append.1 mem).elim (left.enclosed content) (right.enclosed content)
  seamless := by
    intro before after joined
    rcases List.append_eq_append_iff.1 joined with ⟨rest, -, eq⟩ | ⟨rest, eq, split⟩
    · exact right.seamless _ _ eq
    · rcases rest with _ | ⟨x, _ | ⟨y, rest⟩⟩
      · exact right.seamless [] after (by simpa using split.symm)
      · simp only [List.cons_append, List.nil_append, List.cons.injEq] at split
        obtain ⟨rfl, rfl⟩ := split
        exact edges.apart ⟨left.ends before [] eq (by simp), right.begins [] after rfl (by simp)⟩
      · simp only [List.cons_append, List.cons.injEq] at split
        obtain ⟨rfl, rfl, -⟩ := split
        exact left.seamless before rest eq
  ends := by
    intro before after joined loose
    rcases List.append_eq_append_iff.1 joined with ⟨rest, -, eq⟩ | ⟨rest, eq, split⟩
    · exact right.ends _ _ eq loose
    · rcases rest with _ | ⟨x, rest⟩
      · exact right.ends [] after (by simpa using split.symm) loose
      · simp only [List.cons_append, List.cons.injEq] at split
        obtain ⟨rfl, rfl⟩ := split
        exact left.ends before rest eq fun x mem => loose x (List.mem_append_left _ mem)
  begins := by
    intro before after joined loose
    rcases List.append_eq_append_iff.1 joined with ⟨rest, rfl, eq⟩ | ⟨rest, eq, split⟩
    · exact right.begins _ _ eq fun x mem => loose x (List.mem_append_right _ mem)
    · rcases rest with _ | ⟨x, rest⟩
      · exact right.begins [] after (by simpa using split.symm) (by simp)
      · simp only [List.cons_append, List.cons.injEq] at split
        obtain ⟨rfl, -⟩ := split
        exact left.begins before rest eq loose

theorem Sound.core {a w b : List Written} (sound : Sound edges (a ++ w ++ b))
    (looseLeft : ∀ x ∈ a, isLoose edges x) (looseRight : ∀ x ∈ b, isLoose edges x) :
    Sound edges w where
  unescaped := fun mem => sound.unescaped (by simp [mem])
  enclosed := fun content mem => sound.enclosed content (by simp [mem])
  seamless := by
    rintro before after rfl
    exact sound.seamless (a ++ before) (after ++ b) (by simp)
  ends := by
    rintro before after rfl loose
    refine sound.ends (a ++ before) (after ++ b) (by simp) fun x mem => ?_
    exact (List.mem_append.1 mem).elim (loose x) (looseRight x)
  begins := by
    rintro before after rfl loose
    refine sound.begins (a ++ before) (after ++ b) (by simp) fun x mem => ?_
    exact (List.mem_append.1 mem).elim (looseLeft x) (loose x)

theorem isLoose_ofChars {cs : List Char} (loose : ∀ c ∈ cs, edges.loose c) :
    ∀ x ∈ ofChars cs, isLoose edges x := by
  intro x mem
  obtain ⟨c, member, rfl⟩ := List.mem_map.1 mem
  exact loose c member

theorem exists_of_spell_eq_append {written : List Written} {a cs : List Char}
    (spelled : spell written = a ++ cs) (loose : ∀ c ∈ a, edges.loose c) :
    ∃ rest, written = ofChars a ++ rest ∧ spell rest = cs := by
  induction a generalizing written with
  | nil => exact ⟨written, rfl, spelled⟩
  | cons c a ih =>
      cases written with
      | nil => simp at spelled
      | cons head rest =>
          cases head with
          | slot content =>
              simp only [spell_slot, List.cons_append, List.cons.injEq] at spelled
              have kept := loose c (by simp)
              rw [← spelled.1, edges.hash_kept] at kept
              contradiction
          | char d =>
              simp only [spell_char, List.cons_append, List.cons.injEq] at spelled
              obtain ⟨rfl, spelled⟩ := spelled
              obtain ⟨rest, rfl, eq⟩ := ih spelled fun c mem => loose c (by simp [mem])
              exact ⟨rest, rfl, eq⟩

theorem exists_of_append_eq_spell {written : List Written} {cs b : List Char}
    (spelled : spell written = cs ++ b) (loose : ∀ c ∈ b, edges.loose c) :
    ∃ rest, written = rest ++ ofChars b ∧ spell rest = cs := by
  induction b using List.reverseRecOn generalizing written with
  | nil => exact ⟨written, by simp [ofChars], by simpa using spelled⟩
  | append_singleton b c ih =>
      rcases List.eq_nil_or_concat' written with rfl | ⟨front, last, rfl⟩
      · simp at spelled
      · cases last with
        | slot content =>
            have closing : spell (front ++ [slot content]) =
                (spell front ++ '#' :: '{' :: content) ++ ['}'] := by simp
            rw [closing, ← List.append_assoc] at spelled
            have same : '}' = c := by
              simpa using (List.append_inj' spelled (by simp)).2
            have kept := loose c (by simp)
            rw [← same, edges.close_kept] at kept
            contradiction
        | char d =>
            rw [spell_append, ← List.append_assoc] at spelled
            obtain ⟨spelled, last⟩ := List.append_inj' spelled (by simp)
            simp only [spell_char, spell_nil, List.cons.injEq, and_true] at last
            obtain ⟨rest, rfl, eq⟩ := ih spelled fun c mem => loose c (by simp [mem])
            exact ⟨rest, by simp [ofChars, last], eq⟩

theorem Sound.peel {written : List Written} {peeled : List Char} (sound : Sound edges written)
    (peels : edges.Peels (spell written) peeled) :
    ∃ rest, spell rest = peeled ∧ Sound edges rest ∧ slots rest = slots written := by
  obtain ⟨a, b, spelled, looseLeft, looseRight⟩ := peels
  obtain ⟨front, rfl, kept⟩ := exists_of_append_eq_spell spelled looseRight
  obtain ⟨rest, rfl, left⟩ := exists_of_spell_eq_append kept looseLeft
  exact ⟨rest, left, sound.core (isLoose_ofChars looseLeft) (isLoose_ofChars looseRight), by simp⟩

theorem Readable.cons_char {c : Char} {rest : List Written} (readable : Readable rest)
    (unescaped : c ≠ '\\') (seamless : ¬(c = '#' ∧ (spell rest).head? = some '{')) :
    Readable (char c :: rest) where
  unescaped := by simpa [Ne.symm unescaped] using readable.unescaped
  enclosed := fun content mem => readable.enclosed content (by simpa using mem)
  seamless := by
    intro a b eq
    cases a with
    | nil =>
        simp only [List.nil_append, List.cons.injEq, char.injEq] at eq
        exact seamless ⟨eq.1, by simp [eq.2]⟩
    | cons head a => exact readable.seamless a b (List.cons.inj eq).2

theorem Readable.cons_slot {content : List Char} {rest : List Written} (readable : Readable rest)
    (enclosed : '}' ∉ content) (unescaped : '\\' ∉ content) :
    Readable (slot content :: rest) where
  unescaped := by simpa using readable.unescaped
  enclosed := by
    intro other mem
    rcases List.mem_cons.1 mem with eq | mem
    · rw [slot.inj eq]
      exact ⟨enclosed, unescaped⟩
    · exact readable.enclosed other mem
  seamless := by
    intro a b eq
    cases a with
    | nil => simp at eq
    | cons head a => exact readable.seamless a b (List.cons.inj eq).2

theorem exists_readable (length : Nat) (cs : List Char) (short : cs.length ≤ length)
    (unescaped : '\\' ∉ cs) (closed : Closed cs) :
    ∃ written, spell written = cs ∧ Readable written := by
  induction length generalizing cs with
  | zero =>
      obtain rfl := List.eq_nil_of_length_eq_zero (Nat.le_zero.1 short)
      exact ⟨[], rfl, by simp, by simp, by simp⟩
  | succ length ih =>
      by_cases opening : ∃ b, cs = '#' :: '{' :: b
      · obtain ⟨b, rfl⟩ := opening
        have closing : '}' ∈ b := by
          simpa using closed ('#' :: '{' :: b) (by simp) ⟨b, rfl⟩
        obtain ⟨content, rest, rfl, enclosed⟩ := List.eq_append_cons_of_mem closing
        simp only [List.mem_cons, List.mem_append, not_or] at unescaped
        obtain ⟨written, rfl, readable⟩ := ih rest
          (by simp only [List.length_cons, List.length_append] at short; omega)
          unescaped.2.2.2.2
          (closed.suffix ⟨'#' :: '{' :: (content ++ ['}']), by simp⟩)
        exact ⟨slot content :: written, by simp, readable.cons_slot enclosed unescaped.2.2.1⟩
      · cases cs with
        | nil => exact ⟨[], rfl, by simp, by simp, by simp⟩
        | cons c rest =>
            simp only [List.mem_cons, not_or] at unescaped
            obtain ⟨written, rfl, readable⟩ := ih rest (by simpa using short) unescaped.2
              (closed.suffix (List.suffix_cons c rest))
            refine ⟨char c :: written, rfl, readable.cons_char (Ne.symm unescaped.1) ?_⟩
            rintro ⟨rfl, head⟩
            obtain ⟨tail, eq⟩ := List.head?_eq_some_iff.1 head
            exact opening ⟨tail, by rw [eq]⟩

theorem exists_ofChars_of_loose {written : List Written}
    (loose : ∀ x ∈ written, isLoose edges x) :
    ∃ cs, written = ofChars cs ∧ ∀ c ∈ cs, edges.loose c := by
  induction written with
  | nil => exact ⟨[], rfl, by simp⟩
  | cons head rest ih =>
      obtain ⟨cs, rfl, looseRest⟩ := ih fun x mem => loose x (by simp [mem])
      cases head with
      | slot content => exact absurd (loose (slot content) (by simp)) (by simp [isLoose])
      | char c =>
          refine ⟨c :: cs, rfl, fun d mem => ?_⟩
          rcases List.mem_cons.1 mem with rfl | mem
          · exact loose (char d) (by simp)
          · exact looseRest d mem

theorem exists_sound {cs : List Char} (fits : edges.Fits cs) :
    ∃ written, spell written = cs ∧ Sound edges written := by
  obtain ⟨written, rfl, readable⟩ :=
    exists_readable cs.length cs (Nat.le_refl _) fits.unescaped fits.closed
  refine ⟨written, rfl, readable, ?_, ?_⟩
  · rintro a b rfl loose
    obtain ⟨cs, rfl, looseChars⟩ := exists_ofChars_of_loose loose
    apply fits.ends
    rw [EndsInHash, spell_append, spell_char, spell_ofChars, List.append_cons, List.rdropWhile,
      List.reverse_append, List.dropWhile_append_of_pos fun c mem =>
        looseChars c (List.mem_reverse.1 mem)]
    simp [edges.hash_kept]
  · rintro a b rfl loose
    obtain ⟨cs, rfl, looseChars⟩ := exists_ofChars_of_loose loose
    apply fits.begins
    rw [BeginsWithBrace, spell_append, spell_char, spell_ofChars,
      List.dropWhile_append_of_pos looseChars]
    simp [edges.open_kept]

theorem slots_eq_nil_of_unopened {written : List Written} (unopened : Unopened (spell written)) :
    slots written = [] := by
  rw [List.eq_nil_iff_forall_not_mem]
  intro content mem
  obtain ⟨a, b, rfl⟩ := List.append_of_mem (mem_slots.1 mem)
  exact unopened ⟨spell a, content ++ '}' :: spell b, by simp⟩

def mapSlots (rewrite : List Char → List Char) (written : List Written) : List Written :=
  written.map fun
    | char c => char c
    | slot content => slot (rewrite content)

@[simp] theorem mapSlots_nil (rewrite : List Char → List Char) : mapSlots rewrite [] = [] :=
  rfl

@[simp] theorem mapSlots_char (rewrite : List Char → List Char) (c : Char)
    (rest : List Written) : mapSlots rewrite (char c :: rest) = char c :: mapSlots rewrite rest :=
  rfl

@[simp] theorem mapSlots_slot (rewrite : List Char → List Char) (content : List Char)
    (rest : List Written) :
    mapSlots rewrite (slot content :: rest) = slot (rewrite content) :: mapSlots rewrite rest :=
  rfl

@[simp] theorem mapSlots_append (rewrite : List Char → List Char) (a b : List Written) :
    mapSlots rewrite (a ++ b) = mapSlots rewrite a ++ mapSlots rewrite b := by
  simp [mapSlots]

@[simp] theorem slots_mapSlots (rewrite : List Char → List Char) (written : List Written) :
    slots (mapSlots rewrite written) = (slots written).map rewrite := by
  induction written with
  | nil => rfl
  | cons head rest ih => cases head <;> simp [slots, ih]

theorem char_mem_mapSlots {rewrite : List Char → List Char} {written : List Written} {c : Char} :
    char c ∈ mapSlots rewrite written ↔ char c ∈ written := by
  induction written with
  | nil => simp
  | cons head rest ih => cases head <;> simp [ih]

theorem slot_mem_mapSlots {rewrite : List Char → List Char} {written : List Written}
    {content : List Char} :
    slot content ∈ mapSlots rewrite written ↔ ∃ old, slot old ∈ written ∧ rewrite old = content := by
  rw [← mem_slots, slots_mapSlots, List.mem_map]
  simp only [mem_slots]

theorem exists_of_mapSlots_eq_append {rewrite : List Char → List Char} {written : List Written}
    {a b : List Written} (joined : mapSlots rewrite written = a ++ b) :
    ∃ old rest, written = old ++ rest ∧ mapSlots rewrite old = a ∧ mapSlots rewrite rest = b :=
  List.map_eq_append_iff.1 joined

theorem exists_of_mapSlots_eq_char_cons {rewrite : List Char → List Char}
    {written b : List Written} {c : Char} (joined : mapSlots rewrite written = char c :: b) :
    ∃ rest, written = char c :: rest ∧ mapSlots rewrite rest = b := by
  cases written with
  | nil => simp at joined
  | cons head rest =>
      cases head with
      | slot content => simp at joined
      | char d =>
          simp only [mapSlots_char, List.cons.injEq, char.injEq] at joined
          exact ⟨rest, by rw [joined.1], joined.2⟩

theorem isLoose_of_mapSlots {rewrite : List Char → List Char} {written : List Written}
    (loose : ∀ x ∈ mapSlots rewrite written, isLoose edges x) :
    ∀ x ∈ written, isLoose edges x := by
  intro x mem
  cases x with
  | char c => exact loose (char c) (char_mem_mapSlots.2 mem)
  | slot content => exact loose (slot (rewrite content)) (slot_mem_mapSlots.2 ⟨content, mem, rfl⟩)

theorem Sound.mapSlots {rewrite : List Char → List Char} {written : List Written}
    (sound : Sound edges written)
    (enclosed : ∀ content ∈ slots written, '}' ∉ rewrite content ∧ '\\' ∉ rewrite content) :
    Sound edges (mapSlots rewrite written) where
  unescaped := fun mem => sound.unescaped (char_mem_mapSlots.1 mem)
  enclosed := by
    intro content mem
    obtain ⟨old, member, rfl⟩ := slot_mem_mapSlots.1 mem
    exact enclosed old (mem_slots.2 member)
  seamless := by
    intro a b joined
    obtain ⟨front, tail, rfl, -, split⟩ := exists_of_mapSlots_eq_append joined
    obtain ⟨opened, rfl, next⟩ := exists_of_mapSlots_eq_char_cons split
    obtain ⟨rest, rfl, -⟩ := exists_of_mapSlots_eq_char_cons next
    exact sound.seamless front rest rfl
  ends := by
    intro a b joined loose
    obtain ⟨front, tail, rfl, -, split⟩ := exists_of_mapSlots_eq_append joined
    obtain ⟨rest, rfl, rfl⟩ := exists_of_mapSlots_eq_char_cons split
    exact sound.ends front rest rfl (isLoose_of_mapSlots loose)
  begins := by
    intro a b joined loose
    obtain ⟨front, tail, rfl, rfl, split⟩ := exists_of_mapSlots_eq_append joined
    obtain ⟨rest, rfl, -⟩ := exists_of_mapSlots_eq_char_cons split
    exact sound.begins front rest rfl (isLoose_of_mapSlots loose)

end Written

end MappedSql
