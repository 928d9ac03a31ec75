import MappedSql.Placeholder.Basic
import MappedSql.Proofs.Template.Scanning

namespace MappedSql

inductive Written
  | char (c : Char)
  | slot (content : List Char)
  deriving DecidableEq

namespace Written

open Piece (scan_open scan_skip scanToken_close scanToken_step)

def isSlot : Written → Bool
  | slot _ => true
  | char _ => false

def spellOne : Written → List Char
  | char c => [c]
  | slot content => '#' :: '{' :: (content ++ ['}'])

def spell (written : List Written) : List Char :=
  written.flatMap spellOne

def slots : List Written → List (List Char)
  | [] => []
  | char _ :: rest => slots rest
  | slot content :: rest => content :: slots rest

def ofChars (cs : List Char) : List Written :=
  cs.map char

@[simp] theorem spell_nil : spell [] = [] :=
  rfl

@[simp] theorem spell_char (c : Char) (rest : List Written) :
    spell (char c :: rest) = c :: spell rest :=
  rfl

@[simp] theorem spell_slot (content : List Char) (rest : List Written) :
    spell (slot content :: rest) = '#' :: '{' :: (content ++ '}' :: spell rest) := by
  simp [spell, spellOne]

@[simp] theorem spell_append (a b : List Written) : spell (a ++ b) = spell a ++ spell b := by
  simp [spell]

@[simp] theorem spell_ofChars (cs : List Char) : spell (ofChars cs) = cs := by
  induction cs with
  | nil => rfl
  | cons c rest ih => simpa [ofChars] using ih

@[simp] theorem slots_append (a b : List Written) : slots (a ++ b) = slots a ++ slots b := by
  induction a with
  | nil => rfl
  | cons head rest ih => cases head <;> simp [slots, ih]

@[simp] theorem slots_ofChars (cs : List Char) : slots (ofChars cs) = [] := by
  induction cs with
  | nil => rfl
  | cons c rest ih => simpa [ofChars, slots] using ih

theorem mem_slots {written : List Written} {content : List Char} :
    content ∈ slots written ↔ slot content ∈ written := by
  induction written with
  | nil => simp [slots]
  | cons head rest ih => cases head <;> simp [slots, ih]

theorem spell_eq_nil {written : List Written} : spell written = [] ↔ written = [] := by
  cases written with
  | nil => simp
  | cons head rest => cases head <;> simp

def pieces (before : List Char) : List Written → List Piece
  | [] => [.plain before.reverse]
  | char c :: rest => pieces (c :: before) rest
  | slot content :: rest => .plain before.reverse :: .token content :: pieces [] rest

theorem contents_pieces (before : List Char) (written : List Written) :
    Piece.contents (pieces before written) = (slots written).map String.ofList := by
  induction written generalizing before with
  | nil => rfl
  | cons head rest ih => cases head <;> simp [pieces, slots, Piece.contents, ih]

structure Readable (written : List Written) : Prop where
  unescaped : char '\\' ∉ written
  enclosed : ∀ content, slot content ∈ written → '}' ∉ content ∧ '\\' ∉ content
  seamless : ∀ a b, written ≠ a ++ char '#' :: char '{' :: b

theorem Readable.tail {head : Written} {rest : List Written} (readable : Readable (head :: rest)) :
    Readable rest where
  unescaped := fun mem => readable.unescaped (List.mem_cons_of_mem _ mem)
  enclosed := fun content mem => readable.enclosed content (List.mem_cons_of_mem _ mem)
  seamless := fun a b eq => readable.seamless (head :: a) b (by rw [eq]; rfl)

theorem scanToken_append (before raw content inside rest : List Char)
    (enclosed : '}' ∉ inside) (unescaped : '\\' ∉ inside) (start : content.head? ≠ some '\\') :
    Piece.scanToken '#' before raw content (inside ++ '}' :: rest) =
      .plain before.reverse :: .token (content.reverse ++ inside) :: Piece.scan '#' [] rest := by
  induction inside generalizing raw content with
  | nil => rw [List.nil_append, scanToken_close start, List.append_nil]
  | cons c inside ih =>
      simp only [List.mem_cons, not_or] at enclosed unescaped
      rw [List.cons_append, scanToken_step (Ne.symm enclosed.1), ih _ _ enclosed.2 unescaped.2]
      · simp
      · simpa using Ne.symm unescaped.1

theorem scan_cons_char (before : List Char) (c : Char) (rest : List Written)
    (readable : Readable (char c :: rest)) :
    Piece.scan '#' before (c :: spell rest) = Piece.scan '#' (c :: before) (spell rest) := by
  cases rest with
  | nil => simp [Piece.scan]
  | cons next rest =>
      cases next with
      | char d =>
          refine scan_skip ?_ before _
          rintro ⟨rfl, rfl⟩
          exact readable.seamless [] rest rfl
      | slot content =>
          rw [spell_slot]
          exact scan_skip (by simp) before _

theorem scan_spell (before : List Char) (written : List Written) (readable : Readable written)
    (start : before.head? ≠ some '\\') :
    Piece.scan '#' before (spell written) = pieces before written := by
  induction written generalizing before with
  | nil => simp [Piece.scan, pieces]
  | cons head rest ih =>
      cases head with
      | char c =>
          rw [spell_char, scan_cons_char before c rest readable, pieces]
          apply ih _ readable.tail
          simp only [List.head?_cons, ne_eq, Option.some.injEq]
          rintro rfl
          exact readable.unescaped (by simp)
      | slot content =>
          obtain ⟨enclosed, unescaped⟩ := readable.enclosed content (by simp)
          rw [spell_slot, pieces, scan_open start,
            scanToken_append _ _ _ _ _ enclosed unescaped (by simp), ih _ readable.tail (by simp)]
          rfl

theorem ofText_spell (written : List Written) (readable : Readable written) :
    Piece.ofText '#' (String.ofList (spell written)) = pieces [] written := by
  rw [Piece.ofText, String.toList_ofList]
  exact scan_spell [] written readable (by simp)

theorem contents_ofText_spell (written : List Written) (readable : Readable written) :
    Piece.contents (Piece.ofText '#' (String.ofList (spell written))) =
      (slots written).map String.ofList := by
  rw [ofText_spell written readable, contents_pieces]

end Written

end MappedSql
