import MappedSql.Proofs.Template.Escapes
import MappedSql.Proofs.Template.Splicing
import MappedSql.Proofs.Text.Slicing

/-!
# Tokens by byte offsets

The pieces of a text are found by two nested searches that move offsets into its bytes. Every slice
that they take lies in the text and divides no character, both searches end, and what they write is
what the pieces give (`replaceAt_eq`).
-/

namespace MappedSql

open Text (size slice? searchFrom? guardedAt?)

/-- Reads a token from an offset within it on, up to the offset of its closing brace; there may be
none. A failure is a slice that cannot be taken, or more rounds than are left. -/
def tokenFrom? (s : String) : (rounds cursor : Nat) → (content : String) →
    Option (Option (String × Nat))
  | 0, _, _ => none
  | rounds + 1, cursor, content => do
      match ← searchFrom? s ['}'] cursor with
      | none => return none
      | some close =>
          if ← guardedAt? s cursor close then
            let part ← slice? s cursor (close - 1)
            tokenFrom? s rounds (close + 1) (content ++ part ++ "\x7d")
          else
            let part ← slice? s cursor close
            return some (content ++ part, close)

/-- What the scanner takes from a text at once: plain text, a token behind it if there is one, and the
offset of what follows. -/
structure Advance where
  plain : String
  token : Option String
  next : Nat

def Advance.pieces (advance : Advance) : List Piece :=
  .plain advance.plain.toList :: advance.token.toList.map fun content => .token content.toList

def opening (mark : Char) : String :=
  String.ofList [mark, '{']

theorem Advance.pieces_plain (a : List Char) (next : Nat) :
    (Advance.mk (String.ofList a) none next).pieces = [.plain a] := by
  simp [pieces]

theorem Advance.pieces_token (a content : List Char) (next : Nat) :
    (Advance.mk (String.ofList a) (some (String.ofList content)) next).pieces =
      [.plain a, .token content] := by
  simp [pieces]

theorem size_append_opening (front plain : List Char) (mark : Char) :
    size front + size plain + (opening mark).utf8ByteSize = size (front ++ plain ++ [mark, '{']) := by
  rw [Text.size_append, Text.size_append]
  rfl

def advanceAt? (mark : Char) (s : String) (offset start : Nat) : Option Advance := do
  if ← guardedAt? s 0 start then
    let text ← slice? s offset (start - 1)
    return ⟨text ++ opening mark, none, start + (opening mark).utf8ByteSize⟩
  else
    let text ← slice? s offset start
    match ← tokenFrom? s (s.length + 1) (start + (opening mark).utf8ByteSize) "" with
    | some (content, close) => return ⟨text, some content, close + 1⟩
    | none =>
        let unclosed ← slice? s start s.utf8ByteSize
        return ⟨text ++ unclosed, none, s.utf8ByteSize⟩

section

variable {m : Type → Type} [Monad m] (mark : Char) (s : String) (handler : String → m String)

def replaceFrom : (rounds offset : Nat) → (written : String) → m (Option String)
  | 0, _, _ => pure none
  | rounds + 1, offset, written =>
      match searchFrom? s (opening mark).toList offset with
      | none => pure none
      | some none => pure ((slice? s offset s.utf8ByteSize).map (written ++ ·))
      | some (some start) =>
          match advanceAt? mark s offset start with
          | none => pure none
          | some ⟨plain, none, next⟩ => replaceFrom rounds next (written ++ plain)
          | some ⟨plain, some content, next⟩ => do
              let replaced ← handler content
              replaceFrom rounds next (written ++ plain ++ replaced)

def replaceAt : m (Option String) :=
  replaceFrom mark s handler (s.length + 1) 0 ""

end

section

variable {s : String} {front : List Char} {rounds : Nat} {content : String}

theorem tokenFrom?_unclosed {cs : List Char} (split : s.toList = front ++ cs)
    (none : Text.offset? ['}'] cs = none) :
    tokenFrom? s (rounds + 1) (size front) content = some Option.none := by
  rw [tokenFrom?, Text.searchFrom?_of_split split, none]
  rfl

variable {part rest : List Char}

theorem tokenFrom?_close (split : s.toList = front ++ part ++ '}' :: rest)
    (found : Text.offset? ['}'] (part ++ '}' :: rest) = some (size part))
    (unguarded : part.getLast? ≠ some '\\') :
    tokenFrom? s (rounds + 1) (size front) content =
      some (some (content ++ String.ofList part, size front + size part)) := by
  have searched := Text.searchFrom?_of_split (split.trans (List.append_assoc _ _ _)) ['}']
  rw [found, Option.map_some] at searched
  have guard := Text.guardedAt?_of_split split
  rw [decide_eq_false unguarded] at guard
  rw [tokenFrom?, searched]
  simp only [Option.bind_eq_bind, Option.bind_some, guard, Bool.false_eq_true, if_false,
    Text.slice?_of_split split]
  rfl

theorem tokenFrom?_guarded (split : s.toList = front ++ (part ++ ['\\']) ++ '}' :: rest)
    (found : Text.offset? ['}'] (part ++ ['\\'] ++ '}' :: rest) = some (size (part ++ ['\\']))) :
    tokenFrom? s (rounds + 1) (size front) content =
      tokenFrom? s rounds (size (front ++ (part ++ ['\\']) ++ ['}']))
        (content ++ String.ofList part ++ "\x7d") := by
  have searched := Text.searchFrom?_of_split (split.trans (List.append_assoc _ _ _)) ['}']
  rw [found, Option.map_some] at searched
  have guard := Text.guardedAt?_of_split split
  rw [decide_eq_true List.getLast?_concat] at guard
  have kept : s.toList = front ++ part ++ '\\' :: '}' :: rest := by simp [split]
  have cut : size front + size (part ++ ['\\']) - 1 = size front + size part := by
    rw [Text.size_append]
    rfl
  have next : size (front ++ (part ++ ['\\']) ++ ['}']) =
      size front + size (part ++ ['\\']) + 1 := by
    rw [Text.size_append, Text.size_append front]
    rfl
  rw [tokenFrom?, searched, next]
  simp only [Option.bind_eq_bind, Option.bind_some, guard, if_true, cut, Text.slice?_of_split kept]

end

namespace Piece

theorem scanToken_inside {mark : Char} {part : List Char} (inside : '}' ∉ part)
    (before raw content rest : List Char) :
    scanToken mark before raw content (part ++ rest) =
      scanToken mark before (part.reverse ++ raw) (part.reverse ++ content) rest := by
  induction part generalizing raw content with
  | nil => rfl
  | cons c part ih =>
    rw [List.mem_cons, not_or] at inside
    rw [List.cons_append, scanToken_step (Ne.symm inside.1), ih inside.2]
    simp

theorem scanToken_inside_guarded {mark : Char} {part : List Char} (inside : '}' ∉ part ++ ['\\'])
    (before raw content rest : List Char) :
    scanToken mark before raw content (part ++ ['\\'] ++ '}' :: rest) =
      scanToken mark before ('}' :: '\\' :: (part.reverse ++ raw)) ('}' :: (part.reverse ++ content))
        rest := by
  rw [scanToken_inside inside]
  simp [scanToken_guarded]

theorem scanToken_unclosed {mark : Char} {cs : List Char} (unclosed : '}' ∉ cs)
    (before raw content : List Char) :
    scanToken mark before raw content cs =
      [.plain (before.reverse ++ mark :: '{' :: (raw.reverse ++ cs))] := by
  have scanned := @scanToken_inside mark cs unclosed before raw content []
  rw [List.append_nil] at scanned
  rw [scanned, scanToken]
  simp

/-- The search for the end of a token agrees with the scanner. The content so far is empty or ends in
a brace, so a backslash behind it is the text's own. -/
theorem tokenFrom?_cases {s : String} {front cs content : List Char} (split : s.toList = front ++ cs)
    (free : content.head? ≠ some '\\') {rounds : Nat} (enough : cs.length < rounds) :
    (tokenFrom? s rounds (size front) (String.ofList content.reverse) = some none ∧
      ∀ mark before raw, scanToken mark before raw content cs =
        [.plain (before.reverse ++ mark :: '{' :: (raw.reverse ++ cs))]) ∨
    ∃ token whole rest, cs = whole ++ '}' :: rest ∧
      tokenFrom? s rounds (size front) (String.ofList content.reverse) =
        some (some (String.ofList token, size (front ++ whole))) ∧
      ∀ mark before raw, scanToken mark before raw content cs =
        .plain before.reverse :: .token token :: scan mark [] rest := by
  induction rounds generalizing front cs content with
  | zero => exact absurd enough (Nat.not_lt_zero _)
  | succ rounds ih =>
    rcases Text.offset?_cases (List.cons_ne_nil '}' []) cs with
      ⟨none, unclosed⟩ | ⟨part, rest, found, rfl, first⟩
    · rw [List.singleton_infix_iff] at unclosed
      exact .inl ⟨tokenFrom?_unclosed split none,
        fun mark before raw => scanToken_unclosed unclosed before raw content⟩
    · have inside : '}' ∉ part := by
        rwa [List.dropLast_singleton, List.append_nil, List.singleton_infix_iff] at first
      rw [List.append_assoc, List.singleton_append] at split found enough ⊢
      rw [← List.append_assoc] at split
      -- a backslash before the brace keeps the token open, and the search goes on behind it
      by_cases guarded : part.getLast? = some '\\'
      · obtain ⟨part, rfl⟩ := List.getLast?_eq_some_iff.1 guarded
        have read : String.ofList content.reverse ++ String.ofList part ++ "\x7d" =
            String.ofList ('}' :: (part.reverse ++ content)).reverse := by
          rw [List.reverse_cons, List.reverse_append, List.reverse_reverse, String.ofList_append,
            String.ofList_append]
        have behind : s.toList = front ++ (part ++ ['\\']) ++ ['}'] ++ rest := by simp [split]
        rw [tokenFrom?_guarded split found, read]
        rcases @ih _ _ ('}' :: (part.reverse ++ content)) behind (by simp)
            (by simp at enough; omega) with
          ⟨ended, scanned⟩ | ⟨token, whole, others, rfl, ended, scanned⟩
        · refine .inl ⟨ended, fun mark before raw => ?_⟩
          rw [scanToken_inside_guarded inside, scanned]
          simp
        · refine .inr ⟨token, part ++ ['\\'] ++ '}' :: whole, others, by simp, ?_,
            fun mark before raw => ?_⟩
          · rw [ended]
            simp
          · rw [scanToken_inside_guarded inside, scanned]
      · have free : (part.reverse ++ content).head? ≠ some '\\' := by
          rw [List.head?_append, List.head?_reverse]
          cases last : part.getLast? with
          | none => exact free
          | some c => rwa [last] at guarded
        refine .inr ⟨content.reverse ++ part, part, rest, rfl, ?_, fun mark before raw => ?_⟩
        · rw [tokenFrom?_close split found guarded, String.ofList_append, Text.size_append]
        · rw [scanToken_inside inside, scanToken_close free]
          simp

end Piece

structure StandsAt (s : String) (front cs : List Char) : Prop where
  split : s.toList = front ++ cs
  free : cs = [] ∨ front.getLast? ≠ some '\\'

theorem Piece.scan_of_first {mark : Char} {plain : List Char}
    (first : ¬[mark, '{'] <:+: plain ++ [mark]) (before rest : List Char) :
    scan mark before (plain ++ mark :: '{' :: rest) =
      scan mark (plain.reverse ++ before) (mark :: '{' :: rest) := by
  induction plain generalizing before with
  | nil => rfl
  | cons c plain ih =>
    have apart : ¬(c = mark ∧ (plain ++ mark :: '{' :: rest).head? = some '{') := by
      rintro ⟨rfl, opens⟩
      have same : (plain ++ [c]).head? = some '{' := by
        rwa [List.head?_append] at opens ⊢
      obtain ⟨behind, split⟩ := List.head?_eq_some_iff.1 same
      exact first ⟨[], behind, by rw [List.cons_append, split]; rfl⟩
    rw [List.cons_append, scan_cons apart, ih fun part => first (List.infix_cons part)]
    simp

section

variable {mark : Char} {s : String} {front plain rest : List Char}

section

variable (split : s.toList = front ++ plain ++ mark :: '{' :: rest)
  (free : front.getLast? ≠ some '\\')
include split free

theorem guardedAt?_opening : guardedAt? s 0 (size front + size plain) =
    some (decide (plain.getLast? = some '\\')) := by
  have whole := @Text.guardedAt?_of_split s [] (front ++ plain) _ split
  rw [Text.size_nil, Nat.zero_add, Text.size_append] at whole
  rw [whole, List.getLast?_append]
  cases plain.getLast? with
  | none => simp [free]
  | some c => rfl

theorem advanceAt?_of_unguarded (unguarded : plain.getLast? ≠ some '\\') :
    advanceAt? mark s (size front) (size front + size plain) =
      (tokenFrom? s (s.length + 1) (size (front ++ plain ++ [mark, '{'])) "").map fun
        | some (content, close) => ⟨String.ofList plain, some content, close + 1⟩
        | none => ⟨String.ofList (plain ++ mark :: '{' :: rest), none, s.utf8ByteSize⟩ := by
  have guard := guardedAt?_opening split free
  rw [decide_eq_false unguarded] at guard
  have unclosed := Text.slice?_from split
  rw [Text.size_append] at unclosed
  rw [advanceAt?, guard, size_append_opening]
  simp only [Option.bind_eq_bind, Option.bind_some, Bool.false_eq_true, if_false,
    Text.slice?_of_split split, unclosed]
  cases tokenFrom? s (s.length + 1) (size (front ++ plain ++ [mark, '{'])) "" with
  | none => rfl
  | some token? =>
    cases token? with
    | none =>
      rw [String.ofList_append]
      rfl
    | some token => rfl

end

theorem advanceAt?_of_guarded
    (split : s.toList = front ++ (plain ++ ['\\']) ++ mark :: '{' :: rest)
    (free : front.getLast? ≠ some '\\') :
    advanceAt? mark s (size front) (size front + size (plain ++ ['\\'])) =
      some ⟨String.ofList (plain ++ [mark, '{']), none,
        size (front ++ (plain ++ ['\\']) ++ [mark, '{'])⟩ := by
  have guard := guardedAt?_opening split free
  rw [decide_eq_true List.getLast?_concat] at guard
  have kept : s.toList = front ++ plain ++ '\\' :: mark :: '{' :: rest := by simp [split]
  have cut : size front + size (plain ++ ['\\']) - 1 = size front + size plain := by
    rw [Text.size_append]
    rfl
  rw [advanceAt?, guard, size_append_opening]
  simp only [Option.bind_eq_bind, Option.bind_some, if_true, cut, Text.slice?_of_split kept]
  rw [String.ofList_append]
  rfl

theorem exists_advanceAt? {m : Type → Type} [Monad m] [LawfulMonad m] (handler : String → m String)
    (split : s.toList = front ++ plain ++ mark :: '{' :: rest)
    (free : front.getLast? ≠ some '\\') :
    ∃ advance back tail, advanceAt? mark s (size front) (size front + size plain) = some advance ∧
      advance.next = size back ∧ StandsAt s back tail ∧ tail.length < rest.length + 2 ∧
      Piece.replaceWith handler (Piece.scan mark plain.reverse (mark :: '{' :: rest)) =
        Piece.replaceWith handler (advance.pieces ++ Piece.scan mark [] tail) := by
  by_cases guarded : plain.getLast? = some '\\'
  · obtain ⟨plain, rfl⟩ := List.getLast?_eq_some_iff.1 guarded
    obtain ⟨b, qs, scanned, behind⟩ :=
      @Piece.exists_scan_behind mark ('{' :: mark :: plain.reverse) (by simp) rest
    refine ⟨_, front ++ (plain ++ ['\\']) ++ [mark, '{'], rest, advanceAt?_of_guarded split free, rfl,
      ⟨by simp [split], .inr (by simp)⟩, by omega, ?_⟩
    rw [List.reverse_append, List.reverse_singleton, List.singleton_append, Piece.scan_escaped,
      behind, scanned, Advance.pieces_plain, List.reverse_cons, List.reverse_cons,
      List.reverse_reverse, List.append_assoc plain]
    exact Piece.replaceWith_join handler [] qs (plain ++ [mark, '{']) b
  · have start : plain.reverse.head? ≠ some '\\' := by rwa [List.head?_reverse]
    have inside : s.toList = (front ++ plain ++ [mark, '{']) ++ rest := by simp [split]
    have enough : rest.length < s.length + 1 := by
      rw [← String.length_toList, inside, List.length_append]
      omega
    have read := @Piece.tokenFrom?_cases s _ _ [] inside (by simp) _ enough
    rw [List.reverse_nil, String.ofList_nil] at read
    rw [advanceAt?_of_unguarded split free guarded, Piece.scan_open start]
    rcases read with
      ⟨ended, scanned⟩ | ⟨token, whole, others, rfl, ended, scanned⟩
    · -- the opening is plain text like what stands before it, and the text is at its end
      rw [ended]
      refine ⟨_, s.toList, [], rfl, (Text.size_toList s).symm, ⟨(List.append_nil _).symm, .inl rfl⟩,
        by simp, ?_⟩
      rw [scanned, Advance.pieces_plain, List.reverse_reverse]
      have joined := Piece.replaceWith_join handler [] [] (plain ++ mark :: '{' :: rest) []
      rwa [List.append_nil] at joined
    · rw [ended]
      refine ⟨_, front ++ plain ++ [mark, '{'] ++ whole ++ ['}'], others, rfl, ?_,
        ⟨by simp [split], .inr (by rw [List.getLast?_concat]; decide)⟩, by simp; omega, ?_⟩
      · rw [Text.size_append _ ['}']]
        rfl
      · rw [scanned, Advance.pieces_token, List.reverse_reverse]
        rfl

end

theorem replaceFrom_eq {m : Type → Type} [Monad m] [LawfulMonad m] (mark : Char) {s : String}
    (handler : String → m String) {front cs : List Char} (stands : StandsAt s front cs)
    {rounds : Nat} (enough : cs.length < rounds) (written : String) :
    replaceFrom mark s handler rounds (size front) written =
      (fun rest => some (written ++ rest)) <$> Piece.replaceWith handler (Piece.scan mark [] cs) := by
  induction rounds generalizing front cs written with
  | zero => exact absurd enough (Nat.not_lt_zero _)
  | succ rounds ih =>
    have searched := Text.searchFrom?_of_split stands.split [mark, '{']
    rw [replaceFrom, opening, String.toList_ofList, searched]
    rcases Text.offset?_cases (List.cons_ne_nil mark ['{']) cs with
      ⟨none, unopened⟩ | ⟨plain, rest, found, rfl, first⟩
    · rw [none, Piece.scan_of_unopened unopened]
      simp [Text.slice?_from stands.split, Piece.replaceWith]
    · have split : s.toList = front ++ plain ++ mark :: '{' :: rest := by simp [stands.split]
      have free : front.getLast? ≠ some '\\' := stands.free.resolve_left (by simp)
      have scanned := Piece.scan_of_first first [] rest
      rw [List.append_nil] at scanned
      obtain ⟨⟨text, token, next⟩, back, tail, took, rfl, stands, shorter, same⟩ :=
        exists_advanceAt? handler split free
      have fewer : tail.length < rounds := by
        simp only [List.length_append, List.length_cons, List.length_nil] at enough
        omega
      rw [found, List.append_assoc, List.cons_append, List.cons_append, List.nil_append, scanned, same]
      simp only [Option.map_some, took]
      cases token with
      | none => simp [ih stands fewer, Advance.pieces, Piece.replaceWith, String.append_assoc]
      | some content =>
        simp [ih stands fewer, Advance.pieces, Piece.replaceWith, String.append_assoc]

/-- Replacing tokens by byte offsets takes no slice that leaves the text or divides a character, and
ends with what the pieces of the text give. -/
theorem replaceAt_eq {m : Type → Type} [Monad m] [LawfulMonad m] (mark : Char) (s : String)
    (handler : String → m String) :
    replaceAt mark s handler = some <$> replaceTokens mark s handler := by
  have whole : StandsAt s [] s.toList := ⟨rfl, .inr (by simp)⟩
  have enough : s.toList.length < s.length + 1 := by
    rw [String.length_toList]
    exact Nat.lt_succ_self _
  have ran := replaceFrom_eq mark handler whole enough ""
  simp only [String.empty_append] at ran
  exact ran

def recording {σ : Type} (record : σ → String → σ) (handler : String → String) (content : String) :
    StateM σ String :=
  fun state => (handler content, record state content)

theorem Piece.run_replaceWith_recording {σ : Type} (record : σ → String → σ)
    (handler : String → String) (pieces : List Piece) (state : σ) :
    (Piece.replaceWith (recording record handler) pieces).run state =
      (Id.run (Piece.replaceWith (m := Id) handler pieces), (contents pieces).foldl record state) := by
  induction pieces generalizing state with
  | nil => rfl
  | cons piece rest ih =>
    cases piece with
    | plain text => exact congrArg (fun ran => (String.ofList text ++ ran.1, ran.2)) (ih state)
    | token content =>
      exact congrArg (fun ran => (handler (String.ofList content) ++ ran.1, ran.2))
        (ih (record state (String.ofList content)))

theorem run_replaceAt_recording {σ : Type} (record : σ → String → σ) (handler : String → String)
    (mark : Char) (s : String) (state : σ) :
    (replaceAt mark s (recording record handler)).run state =
      (some (Id.run (replaceTokens mark s (m := Id) handler)),
        (Piece.contents (Piece.ofText mark s)).foldl record state) := by
  rw [replaceAt_eq, StateT.run_map, replaceTokens, Piece.run_replaceWith_recording]
  rfl

def containsAt? (mark : Char) (s : String) : Option Bool :=
  let (written, found) :=
    (replaceAt mark s (recording (fun _ _ => true) fun _ => "")).run false
  written.map fun _ => found

/-- A placeholder with the content that the scanner reads from it. -/
def reemitted (content : String) : String :=
  "#\x7b" ++ Loop.escapeBraces content ++ "\x7d"

/-- Writes every placeholder anew by byte offsets; the contents are beside the text. -/
def reemitAt (s : String) : Option String × List String :=
  (replaceAt '#' s (recording (fun calls content => calls ++ [content]) reemitted)).run []

theorem Piece.any_isToken (pieces : List Piece) :
    pieces.any isToken = !(contents pieces).isEmpty := by
  induction pieces with
  | nil => rfl
  | cons piece rest ih => cases piece <;> simp [isToken, contents, ih]

theorem containsAt?_eq (mark : Char) (s : String) :
    containsAt? mark s = some (hasToken mark s) := by
  rw [containsAt?, run_replaceAt_recording, hasToken, Piece.any_isToken]
  cases Piece.contents (Piece.ofText mark s) with
  | nil => rfl
  | cons content rest =>
    rw [List.foldl_cons, List.foldl_fixed' fun _ => rfl]
    rfl

theorem reemitAt_eq (s : String) : reemitAt s =
    (some (Id.run (replaceTokens '#' s (m := Id) reemitted)),
      Piece.contents (Piece.ofText '#' s)) := by
  rw [reemitAt, run_replaceAt_recording, List.foldl_append_eq_append, List.nil_append,
    ← List.flatMap_def, List.flatMap_singleton']

theorem replaceTokens_reemitted {s : String} (apart : ¬['\\', '#', '{'] <:+: s.toList) :
    Id.run (replaceTokens '#' s (m := Id) reemitted) = s := by
  rw [← String.toList_inj, replaceTokens, Loop.toList_replaceWith, Piece.ofText,
    Piece.flatMap_spelled_scan _ [] (by simp), unescaped_eq_self apart]
  · rfl
  · intro content
    simp [reemitted, Loop.escapeBraces, Piece.spelled, guardCloses]

/-- For any handler, replacing by byte offsets ends, with every slice in the text and between
characters. A text without escaped openings stays as it is if each placeholder is written anew, and it
holds a placeholder exactly if there was one to write. -/
theorem reemission_exact (s : String) :
    (∀ (m : Type → Type) [Monad m] [LawfulMonad m] (mark : Char) (handler : String → m String),
      replaceAt mark s handler = some <$> replaceTokens mark s handler) ∧
    (∀ mark, containsAt? mark s = some (hasToken mark s)) ∧
    (hasToken '#' s ↔ (reemitAt s).2 ≠ []) ∧
    (¬['\\', '#', '{'] <:+: s.toList →
      (reemitAt s).1 = some s ∧ Id.run (replaceTokens '#' s (m := Id) reemitted) = s) := by
  refine ⟨fun m _ _ mark handler => replaceAt_eq mark s handler, fun mark => containsAt?_eq mark s,
    ?_, fun apart => ?_⟩
  · rw [reemitAt_eq, hasToken, Piece.any_isToken]
    simp
  · rw [reemitAt_eq, replaceTokens_reemitted apart]
    exact ⟨rfl, rfl⟩

def guardedAndUnclosed : String :=
  "a = #\x7bä\\\x7db\x7d or #\x7bc"

theorem reemission_exact_guarded : ¬['\\', '#', '{'] <:+: guardedAndUnclosed.toList ∧
    (reemitAt guardedAndUnclosed).2 ≠ [] ∧
    (reemitAt guardedAndUnclosed).1 = some guardedAndUnclosed := by
  have apart : ¬['\\', '#', '{'] <:+: guardedAndUnclosed.toList := by decide
  obtain ⟨-, -, calls, kept⟩ := reemission_exact guardedAndUnclosed
  exact ⟨apart, calls.1 (by decide +kernel), (kept apart).1⟩

end MappedSql
