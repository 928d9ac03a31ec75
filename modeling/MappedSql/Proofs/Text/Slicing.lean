import Mathlib.Data.String.Basic
import MappedSql.Text.Blank

namespace MappedSql.Text

/-- The part of a text between two byte offsets; nothing if one of them is out of range or within a
character, or if they are in the wrong order. -/
def slice? (s : String) (start stop : Nat) : Option String :=
  if within : (String.Pos.Raw.mk start).IsValid s ∧ (String.Pos.Raw.mk stop).IsValid s ∧
      start ≤ stop then
    some (s.extract (s.pos ⟨start⟩ within.1) (s.pos ⟨stop⟩ within.2.1))
  else none

theorem slice?_append (a b c : String) :
    slice? (a ++ b ++ c) a.utf8ByteSize (a ++ b).utf8ByteSize = some b := by
  have start : (String.Pos.Raw.mk a.utf8ByteSize).IsValid (a ++ b ++ c) :=
    String.Pos.Raw.isValid_iff_exists_append.2 ⟨a, b ++ c, String.append_assoc, rfl⟩
  have stop : (String.Pos.Raw.mk (a ++ b).utf8ByteSize).IsValid (a ++ b ++ c) :=
    String.Pos.Raw.isValid_iff_exists_append.2 ⟨a ++ b, c, rfl, rfl⟩
  have order : a.utf8ByteSize ≤ (a ++ b).utf8ByteSize := by
    rw [String.utf8ByteSize_append]
    exact Nat.le_add_right _ _
  rw [slice?, dif_pos ⟨start, stop, order⟩]
  refine congrArg some (String.toByteArray_inj.1 ?_)
  rw [String.toByteArray_extract, String.offset_pos, String.offset_pos, String.toByteArray_append,
    String.toByteArray_append, ByteArray.append_assoc, String.utf8ByteSize_append,
    ← String.size_toByteArray, ← String.size_toByteArray]
  have behind := @ByteArray.extract_append_size_add a.toByteArray (b.toByteArray ++ c.toByteArray)
    0 b.toByteArray.size
  rw [Nat.add_zero] at behind
  rw [behind, ByteArray.extract_append_eq_left rfl]

example : slice? "é" 0 1 = none := by decide

def size (cs : List Char) : Nat :=
  (String.ofList cs).utf8ByteSize

theorem size_toList (s : String) : size s.toList = s.utf8ByteSize := by
  rw [size, String.ofList_toList]

@[simp]
theorem size_nil : size [] = 0 :=
  rfl

@[simp]
theorem size_append (a b : List Char) : size (a ++ b) = size a + size b := by
  rw [size, String.ofList_append, String.utf8ByteSize_append]
  rfl

theorem size_singleton (c : Char) : size [c] = c.utf8Size := by
  rw [size, ← String.singleton_eq_ofList, String.utf8ByteSize_singleton]

theorem size_cons (c : Char) (cs : List Char) : size (c :: cs) = c.utf8Size + size cs := by
  rw [← List.singleton_append, size_append, size_singleton]

theorem size_eq_zero_iff {cs : List Char} : size cs = 0 ↔ cs = [] := by
  rw [size, String.utf8ByteSize_eq_zero_iff, ← String.ofList_nil, String.ofList_inj]

theorem slice?_of_split {s : String} {a b c : List Char} (split : s.toList = a ++ b ++ c) :
    slice? s (size a) (size a + size b) = some (String.ofList b) := by
  obtain rfl : s = String.ofList a ++ String.ofList b ++ String.ofList c := by
    rw [← String.ofList_append, ← String.ofList_append, ← split, String.ofList_toList]
  rw [← size_append, size, size, String.ofList_append]
  exact slice?_append _ _ _

theorem slice?_from {s : String} {a b : List Char} (split : s.toList = a ++ b) :
    slice? s (size a) s.utf8ByteSize = some (String.ofList b) := by
  rw [← size_toList, split, size_append]
  exact slice?_of_split (c := []) (by rw [split, List.append_nil])

theorem slice?_upTo {s : String} {a b : List Char} (split : s.toList = a ++ b) :
    slice? s 0 (size a) = some (String.ofList a) := by
  have whole := @slice?_of_split s [] a b split
  rwa [size_nil, Nat.zero_add] at whole

def offset? (pattern : List Char) : List Char → Option Nat
  | [] => none
  | c :: rest =>
      if pattern.isPrefixOf (c :: rest) then some 0
      else (offset? pattern rest).map (c.utf8Size + ·)

theorem offset?_cases {pattern : List Char} (nonempty : pattern ≠ []) (cs : List Char) :
    offset? pattern cs = none ∧ ¬pattern <:+: cs ∨
    ∃ a b, offset? pattern cs = some (size a) ∧ cs = a ++ pattern ++ b ∧
      ¬pattern <:+: a ++ pattern.dropLast := by
  induction cs with
  | nil => exact .inl ⟨rfl, fun part => nonempty (List.infix_nil.1 part)⟩
  | cons c rest ih =>
    by_cases here : pattern <+: c :: rest
    · obtain ⟨b, split⟩ := here
      have found : offset? pattern (c :: rest) = some 0 :=
        if_pos (List.isPrefixOf_iff_prefix.2 ⟨b, split⟩)
      refine .inr ⟨[], b, found, split.symm, fun part => ?_⟩
      have length := part.length_le
      rw [List.nil_append, List.length_dropLast] at length
      have := List.length_pos_iff_ne_nil.2 nonempty
      omega
    · have skipped : offset? pattern (c :: rest) = (offset? pattern rest).map (c.utf8Size + ·) :=
        if_neg (mt List.isPrefixOf_iff_prefix.1 here)
      rw [skipped]
      rcases ih with ⟨none, apart⟩ | ⟨a, b, found, rfl, first⟩
      · refine .inl ⟨by rw [none]; rfl, fun part => ?_⟩
        exact (List.infix_cons_iff.1 part).elim here apart
      · refine .inr ⟨c :: a, b, by rw [found, size_cons]; rfl, rfl, fun part => ?_⟩
        refine (List.infix_cons_iff.1 part).elim (fun start => here (start.trans ?_)) first
        rw [List.append_assoc]
        exact (List.prefix_append_right_inj (c :: a)).2
          ((List.dropLast_prefix pattern).trans (List.prefix_append pattern b))

def searchFrom? (s : String) (pattern : List Char) (offset : Nat) : Option (Option Nat) :=
  (slice? s offset s.utf8ByteSize).map fun rest =>
    (offset? pattern rest.toList).map (offset + ·)

theorem searchFrom?_of_split {s : String} {a b : List Char} (split : s.toList = a ++ b)
    (pattern : List Char) :
    searchFrom? s pattern (size a) = some ((offset? pattern b).map (size a + ·)) := by
  rw [searchFrom?, slice?_from split, Option.map_some, String.toList_ofList]

def guardedAt? (s : String) (low high : Nat) : Option Bool :=
  if low < high then (slice? s 0 high).map fun front => front.toList.getLast? = some '\\'
  else some false

theorem guardedAt?_of_split {s : String} {a b c : List Char} (split : s.toList = a ++ b ++ c) :
    guardedAt? s (size a) (size a + size b) = some (decide (b.getLast? = some '\\')) := by
  by_cases empty : b = []
  · rw [empty, guardedAt?, size_nil, Nat.add_zero, if_neg (Nat.lt_irrefl _)]
    rfl
  · have behind : size a < size a + size b :=
      Nat.lt_add_of_pos_right (Nat.pos_of_ne_zero (mt size_eq_zero_iff.1 empty))
    rw [guardedAt?, if_pos behind, ← size_append, slice?_upTo split, Option.map_some,
      String.toList_ofList, List.getLast?_append_of_ne_nil _ empty]

end MappedSql.Text
