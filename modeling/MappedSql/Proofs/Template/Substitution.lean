import MappedSql.Proofs.Template.Tracing

namespace MappedSql

def Loses (count : Nat) (less more : List Char) : Prop :=
  less.Sublist more ∧ less.length + count = more.length

namespace Loses

variable {m n : Nat} {a b c a' b' : List Char}

theorem refl (a : List Char) : Loses 0 a a :=
  ⟨.refl a, rfl⟩

theorem append (left : Loses m a b) (right : Loses n a' b') : Loses (m + n) (a ++ a') (b ++ b') :=
  ⟨left.1.append right.1, by simp only [List.length_append, ← left.2, ← right.2]; omega⟩

theorem trans (first : Loses m a b) (second : Loses n b c) : Loses (m + n) a c :=
  ⟨first.1.trans second.1, by have := first.2; have := second.2; omega⟩

theorem eq_iff (loses : Loses n a b) : a = b ↔ n = 0 := by
  have lengths := loses.2
  constructor
  · rintro rfl
    omega
  · rintro rfl
    exact loses.1.eq_of_length lengths

theorem single (c : Char) : Loses 1 [] [c] :=
  ⟨List.nil_sublist _, rfl⟩

end Loses

mutual

/-- How many backslashes escape something in a text: the opening of a token, or a brace in a token
that is closed later on. `guarded` tells whether a backslash came just before. -/
def escapes (mark : Char) (guarded : Bool) : List Char → Nat
  | c :: d :: rest =>
      if c = mark ∧ d = '{' then
        if guarded then 1 + escapes mark false rest else escapesWithin mark false 0 rest
      else escapes mark (c = '\\') (d :: rest)
  | _ => 0

def escapesWithin (mark : Char) (guarded : Bool) (found : Nat) : List Char → Nat
  | [] => 0
  | c :: rest =>
      if c = '}' then
        if guarded then escapesWithin mark false (found + 1) rest
        else found + escapes mark false rest
      else escapesWithin mark (c = '\\') found rest

end

theorem escapes_of_unescaped (mark : Char) {guarded : Bool} {cs : List Char}
    (top : guarded = false) (bare : '\\' ∉ cs) : escapes mark guarded cs = 0 := by
  induction guarded, cs using escapes.induct mark (motive_2 := fun guarded found cs =>
    guarded = false → '\\' ∉ cs → escapesWithin mark guarded found cs ≤ found) with
  | case1 => cases top
  | case2 guarded c d rest opens unguarded ih =>
    rw [escapes, if_pos opens, if_neg unguarded]
    exact Nat.le_zero.1 (ih rfl (by simp_all))
  | case3 guarded c d rest other ih =>
    simp only [List.mem_cons, not_or] at bare
    rw [escapes, if_neg other]
    exact ih (by simpa using Ne.symm bare.1) (by simpa using bare.2)
  | case4 cs guarded short => rw [escapes.eq_2 _ _ _ short]
  | case5 guarded found => simp [escapesWithin]
  | case6 => contradiction
  | case7 guarded found rest unguarded ih top bare =>
    rw [escapesWithin, if_pos rfl, if_neg unguarded, ih rfl (by simp_all)]
    exact Nat.le_refl _
  | case8 guarded found c rest other ih top bare =>
    simp only [List.mem_cons, not_or] at bare
    rw [escapesWithin, if_neg other]
    exact ih (by simpa using Ne.symm bare.1) bare.2

namespace Piece

def bare (mark : Char) : Piece → List Char
  | plain text => text
  | token content => mark :: '{' :: (content ++ ['}'])

theorem loses_scan (mark : Char) (before cs : List Char) :
    Loses (escapes mark (before.head? = some '\\') cs) ((scan mark before cs).flatMap (bare mark))
      (before.reverse ++ cs) := by
  -- what is missing from the content of a token so far is lost only if the token is closed
  induction before, cs using scan.induct mark (motive_2 := fun before raw content cs =>
      ∀ found, Loses found content.reverse raw.reverse →
        Loses (escapesWithin mark (content.head? = some '\\') found cs)
          ((scanToken mark before raw content cs).flatMap (bare mark))
          (before.reverse ++ mark :: '{' :: (raw.reverse ++ cs))) with
  | case1 before => simpa [scan, escapes, bare] using Loses.refl _
  | case2 before c => simpa [scan, escapes, bare] using Loses.refl _
  | case3 c d rest opens earlier ih =>
    obtain ⟨rfl, rfl⟩ := opens
    have dropped : Loses 1 (('{' :: c :: earlier).reverse ++ rest)
        (('\\' :: earlier).reverse ++ c :: '{' :: rest) := by
      simpa using (Loses.refl earlier.reverse).append
        ((Loses.single '\\').append (Loses.refl (c :: '{' :: rest)))
    rw [scan_escaped, escapes, if_pos ⟨rfl, rfl⟩, if_pos (by simp), Nat.add_comm]
    exact ih.trans dropped
  | case4 before c d rest opens unguarded ih =>
    obtain ⟨rfl, rfl⟩ := opens
    have top := free_of_unguarded unguarded
    rw [scan_open top, escapes, if_pos ⟨rfl, rfl⟩, if_neg (by simpa using top)]
    exact ih 0 (Loses.refl [])
  | case5 before c d rest other ih =>
    rw [scan_skip other, escapes, if_neg other]
    simpa using ih
  | case6 before raw content => simpa [scanToken, escapesWithin, bare] using Loses.refl _
  | case7 before raw rest earlier ih found missing =>
    have more : Loses (found + 1) ('}' :: earlier).reverse ('}' :: raw).reverse := by
      have dropped : Loses 1 earlier.reverse ('\\' :: earlier).reverse := by
        simpa using (Loses.refl earlier.reverse).append (Loses.single '\\')
      have shorter := (dropped.trans missing).append (Loses.refl ['}'])
      simpa [Nat.add_comm] using shorter
    rw [scanToken_guarded, escapesWithin, if_pos rfl, if_pos (by simp)]
    simpa using ih (found + 1) more
  | case8 before raw content rest unguarded ih found missing =>
    have top := free_of_unguarded unguarded
    rw [scanToken_close top, escapesWithin, if_pos rfl, if_neg (by simpa using top)]
    have written := (Loses.refl (before.reverse ++ [mark, '{'])).append
      (missing.append ((Loses.refl ['}']).append ih))
    simpa [bare] using written
  | case9 before raw content c rest inside ih found missing =>
    rw [scanToken_step inside, escapesWithin, if_neg inside]
    simpa using ih found (by simpa using missing.append (Loses.refl [c]))

theorem flatMap_bare_ofText {mark : Char} {s : String} :
    (ofText mark s).flatMap (bare mark) = s.toList ↔ escapes mark false s.toList = 0 :=
  (loses_scan mark [] s.toList).eq_iff

theorem replaceWith_of_plain {m : Type → Type} [Monad m] [LawfulMonad m]
    (handler : String → m String) (mark : Char) {pieces : List Piece}
    (plain : pieces.any isToken = false) :
    replaceWith handler pieces = pure (String.ofList (pieces.flatMap (bare mark))) := by
  induction pieces with
  | nil => rfl
  | cons piece rest ih =>
    cases piece with
    | plain text => simp [replaceWith, ih (by simpa [isToken] using plain), bare]
    | token content => simp [isToken] at plain

end Piece

namespace Node

theorem toList_substituteText {variableTexts : Fields String} {s : String}
    (apart : ∀ content ∈ Piece.contents (Piece.ofText '$' s),
      Fields.get? variableTexts (Text.trimmed content) = none) :
    (substituteText variableTexts s).toList = (Piece.ofText '$' s).flatMap (Piece.bare '$') := by
  unfold substituteText replaceTokens
  generalize Piece.ofText '$' s = pieces at apart
  induction pieces with
  | nil => rfl
  | cons piece rest ih =>
    cases piece with
    | plain text => simp [Piece.replaceWith, Piece.bare, ← ih apart]
    | token content =>
      rw [Piece.contents, List.forall_mem_cons] at apart
      simp only [Piece.replaceWith, apart.1, Id.run_bind, Id.run_pure, String.toList_append,
        ih apart.2, List.flatMap_cons, Piece.bare]
      rw [Option.getD_none]
      simp [Id.run]

theorem substituteText_eq_self_iff {variableTexts : Fields String} {s : String}
    (apart : ∀ content ∈ Piece.contents (Piece.ofText '$' s),
      Fields.get? variableTexts (Text.trimmed content) = none) :
    substituteText variableTexts s = s ↔ escapes '$' false s.toList = 0 := by
  rw [← String.toList_inj, toList_substituteText apart, Piece.flatMap_bare_ofText]

theorem render_static_of_plain {raw : String} (plain : hasToken '$' raw = false)
    (bare : escapes '$' false raw.toList = 0) (filter : Option Filter) :
    (static raw).render = (text raw filter).render := by
  rw [render, render, replaceTokens, Piece.replaceWith_of_plain _ '$' plain,
    Piece.flatMap_bare_ofText.2 bare, String.ofList_toList, pure_bind]

mutual

def raws : Node → List String
  | text raw _ => [raw]
  | static _ | bind _ _ => []
  | mixed children => rawsOfAll children
  | cond _ contents | trim _ contents | forEach _ contents => raws contents
  | choose branches otherwise => rawsOfBranches branches ++ rawsOfOtherwise otherwise

def rawsOfAll : List Node → List String
  | [] => []
  | node :: rest => raws node ++ rawsOfAll rest

def rawsOfBranches : List (String × Node) → List String
  | [] => []
  | (_, contents) :: rest => raws contents ++ rawsOfBranches rest

def rawsOfOtherwise : Option Node → List String
  | none => []
  | some contents => raws contents

end

def Foreign (variableTexts : Fields String) (raw : String) : Prop :=
  escapes '$' false raw.toList = 0 ∧ ∀ content ∈ Piece.contents (Piece.ofText '$' raw),
    Fields.get? variableTexts (Text.trimmed content) = none

section

variable {variableTexts : Fields String}

theorem render_replaceVariables_text {raw : String} (filter : Option Filter)
    (foreign : Foreign variableTexts raw) :
    (replaceVariables variableTexts (text raw filter)).render = (text raw filter).render := by
  rw [replaceVariables, (substituteText_eq_self_iff foreign.2).2 foreign.1, ofText]
  split
  · rfl
  next plain => exact render_static_of_plain (by simpa using plain) foreign.1 filter

mutual

theorem render_replaceVariables : ∀ node : Node,
    (∀ raw ∈ node.raws, Foreign variableTexts raw) →
    (replaceVariables variableTexts node).render = node.render
  | static s, _ => rfl
  | text raw filter, foreign => render_replaceVariables_text filter (foreign raw (by simp [raws]))
  | mixed children, foreign => by
      rw [raws] at foreign
      rw [replaceVariables, render, render, renderAll_replaceAllVariables children foreign]
  | cond source contents, foreign => by
      rw [raws] at foreign
      rw [replaceVariables, render, render, render_replaceVariables contents foreign]
  | choose branches otherwise, foreign => by
      rw [raws, List.forall_mem_append] at foreign
      rw [replaceVariables, render, render, renderOtherwise_replaceOtherwise otherwise foreign.2]
      exact renderChoice_replaceBranchVariables branches foreign.1
  | trim style contents, foreign => by
      rw [raws] at foreign
      rw [replaceVariables, render, render, render_replaceVariables contents foreign]
  | forEach loop contents, foreign => by
      rw [raws] at foreign
      rw [replaceVariables, render, render, render_replaceVariables contents foreign]
  | bind name source, _ => rfl

theorem renderAll_replaceAllVariables : ∀ nodes : List Node,
    (∀ raw ∈ rawsOfAll nodes, Foreign variableTexts raw) →
    renderAll (replaceAllVariables variableTexts nodes) = renderAll nodes
  | [], _ => rfl
  | node :: rest, foreign => by
      rw [rawsOfAll, List.forall_mem_append] at foreign
      rw [replaceAllVariables, renderAll, renderAll, render_replaceVariables node foreign.1,
        renderAll_replaceAllVariables rest foreign.2]

theorem renderOtherwise_replaceOtherwise : ∀ otherwise : Option Node,
    (∀ raw ∈ rawsOfOtherwise otherwise, Foreign variableTexts raw) →
    renderOtherwise (replaceOtherwise variableTexts otherwise) = renderOtherwise otherwise
  | none, _ => rfl
  | some contents, foreign => by
      rw [rawsOfOtherwise] at foreign
      rw [replaceOtherwise, renderOtherwise, renderOtherwise,
        render_replaceVariables contents foreign]

theorem renderChoice_replaceBranchVariables {last : Render Bool} :
    ∀ branches : List (String × Node),
    (∀ raw ∈ rawsOfBranches branches, Foreign variableTexts raw) →
    renderChoice last (replaceBranchVariables variableTexts branches) = renderChoice last branches
  | [], _ => rfl
  | (source, contents) :: rest, foreign => by
      rw [rawsOfBranches, List.forall_mem_append] at foreign
      rw [replaceBranchVariables, renderChoice, renderChoice,
        render_replaceVariables contents foreign.1,
        renderChoice_replaceBranchVariables rest foreign.2]

end

end

/-- Substituting variables that no token names leaves the rendering of a template as it is in every
context, if its texts escape nothing. -/
theorem render_substituteVariables {template : Node} {variableTexts : Fields String}
    (apart : ∀ raw ∈ template.raws, ∀ content ∈ Piece.contents (Piece.ofText '$' raw),
      Fields.get? variableTexts (Text.trimmed content) = none)
    (bare : ∀ raw ∈ template.raws, escapes '$' false raw.toList = 0) :
    (template.substituteVariables variableTexts).render = template.render := by
  unfold substituteVariables
  split
  · rfl
  · exact render_replaceVariables template fun raw mem => ⟨bare raw mem, apart raw mem⟩

def eachTable : Loop where
  collection := "tables"
  item := some "table"

def unionOfTables : Node :=
  .mixed [.static "/* \\$\x7bschema\x7d */ ", .forEach eachTable
    (.cond "table != null" (.text "select C:\\\\ from $\x7b table \x7d" none))]

theorem render_substituteVariables_unionOfTables :
    (∀ raw ∈ unionOfTables.raws, ∀ content ∈ Piece.contents (Piece.ofText '$' raw),
      Fields.get? [("schema", "main")] (Text.trimmed content) = none) ∧
    (∀ raw ∈ unionOfTables.raws, escapes '$' false raw.toList = 0) ∧
    (unionOfTables.substituteVariables [("schema", "main")]).render = unionOfTables.render := by
  have apart : ∀ raw ∈ unionOfTables.raws, ∀ content ∈ Piece.contents (Piece.ofText '$' raw),
      Fields.get? [("schema", "main")] (Text.trimmed content) = none := by
    decide +kernel
  have bare : ∀ raw ∈ unionOfTables.raws, escapes '$' false raw.toList = 0 := by
    decide +kernel
  exact ⟨apart, bare, render_substituteVariables apart bare⟩

def escapingToken : Node :=
  .text "$\x7ba\x7d \\$\x7bb\x7d" none

theorem exists_render_substituteVariables_ne :
    (∀ raw ∈ escapingToken.raws, ∀ content ∈ Piece.contents (Piece.ofText '$' raw),
      Fields.get? [("v", "x")] (Text.trimmed content) = none) ∧
    ∃ context : Context, (escapingToken.render context).2.sql = "1 $\x7bb\x7d" ∧
      ((escapingToken.substituteVariables [("v", "x")]).render context).2.sql = "1 2" := by
  refine ⟨by decide +kernel, .initial (.map [("a", .int 1), ("b", .int 2)]) none, ?_⟩
  decide +kernel

end Node

end MappedSql
