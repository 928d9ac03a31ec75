import Mathlib.Data.Bool.AllAny
import Mathlib.Data.List.DropRight
import MappedSql.Text.Blank
import MappedSql.Text.Letters

namespace MappedSql.Text

def blanks : List Char :=
  [' ', '\t', '\n', '\x0b', '\x0c', '\r', '\x85', '\xa0', '\u1680', '\u2000', '\u2001', '\u2002',
    '\u2003', '\u2004', '\u2005', '\u2006', '\u2007', '\u2008', '\u2009', '\u200a', '\u2028', '\u2029',
    '\u202f', '\u205f', '\u3000']

theorem mem_blanks {c : Char} (blank : isBlank c) : c ∈ blanks := by
  have control : ∀ k < 5, Char.ofNat (9 + k) ∈ blanks := by decide
  have space : ∀ k < 11, Char.ofNat (0x2000 + k) ∈ blanks := by decide
  simp only [isBlank, Bool.or_eq_true, Bool.and_eq_true, beq_iff_eq, decide_eq_true_eq,
    Char.le_def, UInt32.le_iff_toNat_le] at blank
  rcases blank with
    (((((((((rfl | ⟨low, high⟩) | rfl) | rfl) | rfl) | ⟨low, high⟩) | rfl) | rfl) | rfl) | rfl) | rfl
  case inl.inl.inl.inl.inl.inl.inl.inl.inl.inr =>
    change 9 ≤ c.toNat at low
    change c.toNat ≤ 13 at high
    have := control (c.toNat - 9) (by omega)
    rwa [Nat.add_sub_of_le low, Char.ofNat_toNat] at this
  case inl.inl.inl.inl.inl.inr =>
    change 0x2000 ≤ c.toNat at low
    change c.toNat ≤ 0x200a at high
    have := space (c.toNat - 0x2000) (by omega)
    rwa [Nat.add_sub_of_le low, Char.ofNat_toNat] at this
  all_goals decide

theorem not_isBlank_of_isDigit {c : Char} (digit : c.isDigit) : isBlank c = false := by
  by_contra blank
  have other : ∀ d ∈ blanks, d.isDigit = false := List.all_iff_forall_prop.1 (by decide)
  rw [other c (mem_blanks (by simpa using blank))] at digit
  contradiction

theorem toNat_lt_of_isAlphanum {c : Char} (plain : c.isAlphanum) : c.toNat < 0x80 := by
  delta Char.isAlphanum Char.isAlpha Char.isUpper Char.isLower Char.isDigit at plain
  simp only [Bool.or_eq_true, Bool.and_eq_true, decide_eq_true_eq, ge_iff_le,
    UInt32.le_iff_toNat_le] at plain
  change c.val.toNat < 128
  rcases plain with (⟨-, high⟩ | ⟨-, high⟩) | ⟨-, high⟩
  all_goals exact Nat.lt_of_le_of_lt high (by decide)

theorem isLetterOrNumber_of_isAlphanum {c : Char} (plain : c.isAlphanum) : isLetterOrNumber c := by
  simp [isLetterOrNumber, toNat_lt_of_isAlphanum plain, plain]

theorem inRanges_eq_any (ranges : Array (Nat × Nat)) (c : Char) : inRanges ranges c =
    ranges.toList.any fun (low, high) => low ≤ c.toNat && c.toNat ≤ high := by
  rw [inRanges, Array.any_toList]

theorem isLetterOrNumber_of_isBlank {c : Char} (blank : isBlank c) :
    isLetter c = false ∧ isLetterOrNumber c = false := by
  have other : ∀ d ∈ blanks, isLetter d = false ∧ isLetterOrNumber d = false := by
    simp only [isLetterOrNumber, isLetter, inRanges_eq_any]
    exact List.all_iff_forall_prop.1 (by decide +kernel)
  exact other c (mem_blanks blank)

theorem dropEndWhile_eq_rdropWhile (p : Char → Bool) (cs : List Char) :
    dropEndWhile p cs = cs.rdropWhile p :=
  rfl

theorem dropEndWhile_eq_self {p : Char → Bool} {cs : List Char} (kept : ∀ c ∈ cs, p c = false) :
    dropEndWhile p cs = cs := by
  rw [dropEndWhile_eq_rdropWhile, List.rdropWhile_eq_self_iff]
  exact fun ne => by simp [kept _ (List.getLast_mem ne)]

theorem exists_dropWhile (p : Char → Bool) (cs : List Char) :
    ∃ a, cs = a ++ cs.dropWhile p ∧ ∀ c ∈ a, p c :=
  ⟨cs.takeWhile p, (List.takeWhile_append_dropWhile).symm, fun _ => List.mem_takeWhile_imp⟩

theorem exists_dropEndWhile (p : Char → Bool) (cs : List Char) :
    ∃ b, cs = dropEndWhile p cs ++ b ∧ ∀ c ∈ b, p c := by
  obtain ⟨a, split, taken⟩ := exists_dropWhile p cs.reverse
  refine ⟨a.reverse, ?_, fun c mem => taken c (List.mem_reverse.1 mem)⟩
  rw [dropEndWhile, ← List.reverse_append, ← split, List.reverse_reverse]

theorem exists_trimStart (cs : List Char) :
    ∃ a, cs = a ++ trimStart cs ∧ ∀ c ∈ a, isBlank c :=
  exists_dropWhile isBlank cs

theorem exists_trimEnd (cs : List Char) : ∃ b, cs = trimEnd cs ++ b ∧ ∀ c ∈ b, isBlank c :=
  exists_dropEndWhile isBlank cs

theorem exists_trim (cs : List Char) :
    ∃ a b, cs = a ++ trim cs ++ b ∧ (∀ c ∈ a, isBlank c) ∧ ∀ c ∈ b, isBlank c := by
  obtain ⟨a, left, blankLeft⟩ := exists_trimStart cs
  obtain ⟨b, right, blankRight⟩ := exists_trimEnd (trimStart cs)
  refine ⟨a, b, ?_, blankLeft, blankRight⟩
  rw [List.append_assoc, trim, ← right, ← left]

theorem trimStart_append {a : List Char} (blank : ∀ c ∈ a, isBlank c) (cs : List Char) :
    trimStart (a ++ cs) = trimStart cs :=
  List.dropWhile_append_of_pos blank

theorem trimStart_cons {c : Char} (visible : isBlank c = false) (cs : List Char) :
    trimStart (c :: cs) = c :: cs := by
  simp [trimStart, visible]

theorem trimEnd_append {b : List Char} (blank : ∀ c ∈ b, isBlank c) (cs : List Char) :
    trimEnd (cs ++ b) = trimEnd cs := by
  rw [trimEnd, trimEnd, dropEndWhile, dropEndWhile, List.reverse_append,
    List.dropWhile_append_of_pos fun c mem => blank c (List.mem_reverse.1 mem)]

theorem trimStart_of_visible_head {cs : List Char} (starts : ∀ c ∈ cs.head?, isBlank c = false) :
    trimStart cs = cs := by
  cases cs with
  | nil => rfl
  | cons c rest => exact trimStart_cons (starts c rfl) rest

theorem trimEnd_of_visible_last {cs : List Char}
    (ends : ∀ c ∈ cs.getLast?, isBlank c = false) : trimEnd cs = cs := by
  refine List.rdropWhile_eq_self_iff.2 fun nonempty => ?_
  rw [ends _ (List.getLast?_eq_getLast_of_ne_nil nonempty)]
  exact Bool.false_ne_true

theorem trimEnd_of_visible {cs : List Char} (visible : ∀ c ∈ cs, isBlank c = false) :
    trimEnd cs = cs :=
  dropEndWhile_eq_self visible

theorem trim_blank_append {a : List Char} (blank : ∀ c ∈ a, isBlank c) (cs : List Char) :
    trim (a ++ cs) = trim cs := by
  rw [trim, trim, trimStart_append blank]

theorem trim_append_blank {b : List Char} (blank : ∀ c ∈ b, isBlank c) (cs : List Char) :
    trim (cs ++ b) = trim cs := by
  rw [trim, trim, trimStart, List.dropWhile_append]
  split
  · next none =>
      have gone : b.dropWhile isBlank = [] := List.dropWhile_eq_nil_iff.2 blank
      rw [gone, trimStart, List.isEmpty_iff.1 none]
  · exact trimEnd_append blank _

theorem trimStart_trim (cs : List Char) : trimStart (trim cs) = trim cs := by
  refine List.dropWhile_eq_self_iff.2 fun some => ?_
  have isPrefix : trim cs <+: cs.dropWhile isBlank := List.rdropWhile_prefix isBlank _
  rw [isPrefix.getElem some]
  exact List.dropWhile_get_zero_not isBlank cs _

theorem visible_head?_trimStart (cs : List Char) :
    ∀ c ∈ (trimStart cs).head?, isBlank c = false := by
  intro c first
  have visible := List.head?_dropWhile_not isBlank cs
  rw [← trimStart, Option.mem_def.1 first] at visible
  exact visible

theorem visible_getLast?_trimEnd (cs : List Char) :
    ∀ c ∈ (trimEnd cs).getLast?, isBlank c = false := by
  intro c last
  obtain ⟨some, rfl⟩ := List.mem_getLast?_eq_getLast last
  exact Bool.eq_false_iff.2 (List.rdropWhile_last_not isBlank cs some)

theorem visible_getLast?_trim (cs : List Char) :
    ∀ c ∈ (trim cs).getLast?, isBlank c = false :=
  visible_getLast?_trimEnd (trimStart cs)

def IsTrimmed (cs : List Char) : Prop :=
  (∀ c ∈ cs.head?, isBlank c = false) ∧ ∀ c ∈ cs.getLast?, isBlank c = false

theorem isTrimmed_trim (cs : List Char) : IsTrimmed (trim cs) := by
  refine ⟨fun c first => visible_head?_trimStart cs c ?_, visible_getLast?_trim cs⟩
  obtain ⟨b, split, -⟩ := exists_trimEnd (trimStart cs)
  rw [split]
  exact List.mem_head?_append_of_mem_head? first

theorem trim_trim (cs : List Char) : trim (trim cs) = trim cs := by
  rw [trim, trimStart_trim, trim, trimEnd, trimEnd, dropEndWhile_eq_rdropWhile,
    dropEndWhile_eq_rdropWhile, List.rdropWhile_idempotent]

theorem trimBoth_eq_self {p : Char → Bool} {cs : List Char} (kept : ∀ c ∈ cs, p c = false) :
    trimBoth p cs = cs := by
  have started : cs.dropWhile p = cs := List.dropWhile_eq_self_iff.2 fun some => by
    simp [kept _ (List.getElem_mem some)]
  rw [trimBoth, started, dropEndWhile_eq_self kept]

theorem trim_eq_self {cs : List Char} (visible : ∀ c ∈ cs, isBlank c = false) : trim cs = cs :=
  trimBoth_eq_self visible

theorem splitAtChar_eq_splitOn (separator : Char) (cs : List Char) :
    splitAtChar separator cs = cs.splitOn separator := by
  induction cs with
  | nil => rfl
  | cons c rest ih =>
    obtain ⟨piece, pieces, split⟩ := List.exists_cons_of_ne_nil (List.splitOn_ne_nil separator rest)
    rw [splitAtChar, ih, List.splitOn_cons_eq_if_modifyHead, split]
    rfl

end MappedSql.Text
