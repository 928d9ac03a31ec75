import Mathlib.Data.List.Basic
import MappedSql.Template.Piece

namespace MappedSql.Piece

variable {mark : Char}

theorem scan_open {before : List Char} (start : before.head? ≠ some '\\') (rest : List Char) :
    scan mark before (mark :: '{' :: rest) = scanToken mark before [] [] rest := by
  rw [scan.eq_def]
  simp only [and_self, if_true]
  split
  · simp at start
  · rfl

theorem scan_escaped (earlier rest : List Char) :
    scan mark ('\\' :: earlier) (mark :: '{' :: rest) = scan mark ('{' :: mark :: earlier) rest := by
  rw [scan.eq_def]
  simp

theorem scan_skip {c d : Char} (apart : ¬(c = mark ∧ d = '{')) (before rest : List Char) :
    scan mark before (c :: d :: rest) = scan mark (c :: before) (d :: rest) := by
  rw [scan.eq_def]
  simp only [if_neg apart]

theorem scan_cons {c : Char} {rest : List Char} (apart : ¬(c = mark ∧ rest.head? = some '{'))
    (before : List Char) : scan mark before (c :: rest) = scan mark (c :: before) rest := by
  cases rest with
  | nil => rfl
  | cons d rest => exact scan_skip (by simpa using apart) before rest

theorem scanToken_close {content : List Char} (start : content.head? ≠ some '\\')
    (before raw rest : List Char) :
    scanToken mark before raw content ('}' :: rest) =
      .plain before.reverse :: .token content.reverse :: scan mark [] rest := by
  rw [scanToken.eq_def]
  simp only [if_true]
  split
  · simp at start
  · rfl

theorem scanToken_guarded (before raw earlier rest : List Char) :
    scanToken mark before raw ('\\' :: earlier) ('}' :: rest) =
      scanToken mark before ('}' :: raw) ('}' :: earlier) rest := by
  rw [scanToken.eq_def]
  simp

theorem scanToken_step {c : Char} (inside : c ≠ '}') (before raw content rest : List Char) :
    scanToken mark before raw content (c :: rest) =
      scanToken mark before (c :: raw) (c :: content) rest := by
  rw [scanToken.eq_def]
  simp only [if_neg inside]

theorem scan_of_unopened {cs : List Char} (unopened : ¬[mark, '{'] <:+: cs) (before : List Char) :
    scan mark before cs = [.plain (before.reverse ++ cs)] := by
  induction cs generalizing before with
  | nil => simp [scan]
  | cons c rest ih =>
    rw [scan_cons, ih fun part => unopened (part.trans (List.suffix_cons c rest).isInfix)]
    · simp
    · rintro ⟨rfl, opens⟩
      obtain ⟨rest, rfl⟩ := List.head?_eq_some_iff.1 opens
      exact unopened (List.prefix_append [c, '{'] rest).isInfix

end Piece

theorem hasToken_eq_false_of_unopened {mark : Char} {s : String}
    (unopened : ¬[mark, '{'] <:+: s.toList) : hasToken mark s = false := by
  rw [hasToken, Piece.ofText, Piece.scan_of_unopened unopened]
  rfl

def closes (guarded : Bool) : List Char → Bool
  | [] => false
  | c :: rest => (c == '}' && !guarded) || closes (c = '\\') rest

def settles (mark : Char) (guarded : Bool) : List Char → Bool
  | [] => true
  | c :: rest =>
      (!(c = mark ∧ rest.head? = some '{') || guarded || closes false rest.tail) &&
        settles mark (c = '\\') rest

theorem settles_tail {mark c : Char} {guarded : Bool} {rest : List Char}
    (settled : settles mark guarded (c :: rest)) : settles mark (some c = some '\\') rest := by
  rw [settles, Bool.and_eq_true] at settled
  simpa using settled.2

namespace Piece

variable {mark : Char}

theorem free_of_unguarded {before : List Char}
    (unguarded : ∀ earlier, before = '\\' :: earlier → False) : before.head? ≠ some '\\' := by
  intro top
  obtain ⟨earlier, same⟩ := List.head?_eq_some_iff.1 top
  exact unguarded earlier same

theorem exists_scan_behind {before : List Char} (free : before.head? ≠ some '\\')
    (cs : List Char) : ∃ b qs, scan mark [] cs = .plain b :: qs ∧
      scan mark before cs = .plain (before.reverse ++ b) :: qs := by
  -- with what the scan itself has passed since, for the induction
  suffices general : ∀ own : List Char, ∃ b qs, scan mark own cs = .plain b :: qs ∧
      scan mark (own ++ before) cs = .plain (before.reverse ++ b) :: qs from general []
  intro own
  induction own, cs using scan.induct mark (motive_2 := fun own raw content cs =>
      ∃ b qs, scanToken mark own raw content cs = .plain b :: qs ∧
        scanToken mark (own ++ before) raw content cs = .plain (before.reverse ++ b) :: qs) with
  | case1 own => exact ⟨own.reverse, [], by simp [scan]⟩
  | case2 own c => exact ⟨(c :: own).reverse, [], by simp [scan]⟩
  | case3 c d rest opens earlier ih =>
    obtain ⟨rfl, rfl⟩ := opens
    rw [List.cons_append, scan_escaped, scan_escaped]
    exact ih
  | case4 own c d rest opens unguarded ih =>
    obtain ⟨rfl, rfl⟩ := opens
    have start := free_of_unguarded unguarded
    have behind : (own ++ before).head? ≠ some '\\' := by
      cases own with
      | nil => exact free
      | cons x own => simpa using start
    rw [scan_open start, scan_open behind]
    exact ih
  | case5 own c d rest other ih =>
    rw [scan_skip other, scan_skip other]
    exact ih
  | case6 own raw content =>
    exact ⟨own.reverse ++ mark :: '{' :: raw.reverse, [], by simp [scanToken]⟩
  | case7 own raw rest earlier ih =>
    rw [scanToken_guarded, scanToken_guarded]
    exact ih
  | case8 own raw content rest unguarded ih =>
    have start := free_of_unguarded unguarded
    rw [scanToken_close start, scanToken_close start]
    exact ⟨own.reverse, _, rfl, by simp⟩
  | case9 own raw content c rest inside ih =>
    rw [scanToken_step inside, scanToken_step inside]
    exact ih

/-- A text that closes what it opens is scanned apart from what follows it; only the plain
characters at the seam become one piece. -/
theorem exists_scan_append {before t : List Char} (u : List Char)
    (settled : settles mark (before.head? = some '\\') t)
    (ended : ∀ c ∈ (t.reverse ++ before).head?, c ≠ '\\' ∧ c ≠ mark) :
    ∃ ps a b qs, scan mark before t = ps ++ [.plain a] ∧ scan mark [] u = .plain b :: qs ∧
      scan mark before (t ++ u) = ps ++ .plain (a ++ b) :: qs := by
  have apart {behind : List Char} (plain : ∀ c ∈ behind.head?, c ≠ '\\') :
      behind.head? ≠ some '\\' := fun top => plain '\\' top rfl
  -- inside a token the same holds of a rest that closes it, so that the seam lies behind the token
  induction before, t using scan.induct mark (motive_2 := fun before raw content t =>
      closes (content.head? = some '\\') t → settles mark (content.head? = some '\\') t →
      (∀ c ∈ t.reverse.head?, c ≠ '\\' ∧ c ≠ mark) →
      ∃ ps a b qs, scanToken mark before raw content t = ps ++ [.plain a] ∧
        scan mark [] u = .plain b :: qs ∧
        scanToken mark before raw content (t ++ u) = ps ++ .plain (a ++ b) :: qs) with
  | case1 before =>
    obtain ⟨b, qs, scanned, behind⟩ := @exists_scan_behind mark before
      (apart fun c mem => (ended c (by simpa using mem)).1) u
    exact ⟨[], before.reverse, b, qs, by simp [scan], scanned, behind⟩
  | case2 before c =>
    have last := ended c (by simp)
    obtain ⟨b, qs, scanned, behind⟩ := @exists_scan_behind mark (c :: before)
      (by simpa using last.1) u
    refine ⟨[], (c :: before).reverse, b, qs, rfl, scanned, ?_⟩
    rw [List.singleton_append, scan_cons (fun opens => last.2 opens.1)]
    exact behind
  | case3 c d rest opens earlier ih =>
    obtain ⟨rfl, rfl⟩ := opens
    rw [List.cons_append, List.cons_append, scan_escaped, scan_escaped]
    refine ih (by simpa using settles_tail (settles_tail settled)) ?_
    simpa [List.head?_append] using ended
  | case4 before c d rest opens unguarded ih =>
    obtain ⟨rfl, rfl⟩ := opens
    have start := free_of_unguarded unguarded
    have closed : closes false rest := by
      simp only [settles, Bool.and_eq_true] at settled
      simpa [start] using settled.1
    rw [List.cons_append, List.cons_append, scan_open start, scan_open start]
    refine ih (by simpa using closed) (by simpa using settles_tail (settles_tail settled)) ?_
    intro x mem
    refine ended x (List.mem_head?_append_of_mem_head? ?_)
    rw [List.reverse_cons, List.reverse_cons, List.append_assoc]
    exact List.mem_head?_append_of_mem_head? mem
  | case5 before c d rest other ih =>
    rw [List.cons_append, List.cons_append, scan_skip other, scan_skip other]
    exact ih (by simpa using settles_tail settled) (by simpa using ended)
  | case6 before raw content closed => simp [closes] at closed
  | case7 before raw rest earlier ih closed settled ended =>
    rw [List.cons_append, scanToken_guarded, scanToken_guarded]
    refine ih (by simpa [closes] using closed) (by simpa using settles_tail settled) ?_
    exact fun x mem => ended x (List.reverse_cons ▸ List.mem_head?_append_of_mem_head? mem)
  | case8 before raw content rest unguarded ih closed settled ended =>
    have start := free_of_unguarded unguarded
    rw [List.cons_append, scanToken_close start, scanToken_close start]
    obtain ⟨ps, a, b, qs, scanned, behind, joined⟩ := ih (by simpa using settles_tail settled) <| by
      rw [List.append_nil]
      exact fun x mem => ended x (List.reverse_cons ▸ List.mem_head?_append_of_mem_head? mem)
    exact ⟨.plain before.reverse :: .token content.reverse :: ps, a, b, qs, by rw [scanned]; rfl,
      behind, by rw [joined]; rfl⟩
  | case9 before raw content c rest inside ih closed settled ended =>
    rw [List.cons_append, scanToken_step inside, scanToken_step inside]
    refine ih (by simpa [closes, inside] using closed) (by simpa using settles_tail settled) ?_
    exact fun x mem => ended x (List.reverse_cons ▸ List.mem_head?_append_of_mem_head? mem)

end MappedSql.Piece
