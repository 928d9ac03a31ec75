import MappedSql.Proofs.Outcome
import MappedSql.Proofs.Template.Spacing

/-!
# Escaped openings in loops

A loop scans what its contents rendered and writes it anew. The scanner takes the backslash from an
escaped opening, and nothing puts it back (`toList_renamePlaceholders`), whereas a placeholder is
written with all its backslashes and an opening without an end stays as it is. So each loop around a
text takes one backslash from every escaped opening that is left, and does nothing else but trim
(`boundSql_forEach_static`).
-/

namespace MappedSql

mutual

/-- A text without the backslash before each opening that it escapes. -/
def unescaped : List Char → List Char
  | [] => []
  | '\\' :: '#' :: '{' :: rest => '#' :: '{' :: unescaped rest
  | '#' :: '{' :: rest => '#' :: '{' :: unescapedWithin false rest
  | c :: rest => c :: unescaped rest

def unescapedWithin (guarded : Bool) : List Char → List Char
  | [] => []
  | c :: rest =>
      if c = '}' then
        if guarded then c :: unescapedWithin false rest else c :: unescaped rest
      else c :: unescapedWithin (c = '\\') rest

end

theorem unescaped_eq_self {cs : List Char} (apart : ¬['\\', '#', '{'] <:+: cs) :
    unescaped cs = cs := by
  induction cs using unescaped.induct (motive_2 := fun guarded cs =>
    ¬['\\', '#', '{'] <:+: cs → unescapedWithin guarded cs = cs) with
  | case1 => rfl
  | case2 rest => exact absurd (List.prefix_append _ rest).isInfix apart
  | case3 rest ih =>
      rw [unescaped, ih fun found => apart (found.trans (List.suffix_append ['#', '{'] rest).isInfix)]
  | case4 c rest escape opens ih =>
      rw [unescaped.eq_4 c rest escape opens, ih fun found => apart (List.infix_cons found)]
  | case5 guarded => rfl
  | case6 rest ih apart =>
      rw [unescapedWithin, if_pos rfl, if_pos rfl, ih fun found => apart (List.infix_cons found)]
  | case7 guarded rest closes ih apart =>
      rw [unescapedWithin, if_pos rfl, if_neg closes, ih fun found => apart (List.infix_cons found)]
  | case8 guarded c rest inside ih apart =>
      rw [unescapedWithin, if_neg inside, ih fun found => apart (List.infix_cons found)]

section Trimming

variable {blanks : List Char} (blank : ∀ c ∈ blanks, Text.isBlank c)

include blank

theorem ne_of_blank {c d : Char} (mem : c ∈ blanks) (visible : Text.isBlank d = false) : c ≠ d := by
  rintro rfl
  rw [blank c mem] at visible
  contradiction

theorem exists_of_append_blank {cs rest : List Char} {d : Char} (visible : Text.isBlank d = false)
    (split : cs ++ blanks = d :: rest) : ∃ tail, cs = d :: tail ∧ tail ++ blanks = rest := by
  cases cs with
  | nil =>
      rw [List.nil_append] at split
      exact absurd rfl (ne_of_blank blank (split ▸ List.mem_cons_self) visible)
  | cons c tail =>
      obtain ⟨rfl, rfl⟩ := List.cons.inj split
      exact ⟨tail, rfl, rfl⟩

theorem unescaped_blank_append (cs : List Char) :
    unescaped (blanks ++ cs) = blanks ++ unescaped cs := by
  induction blanks with
  | nil => rfl
  | cons c rest ih =>
      rw [List.cons_append, unescaped.eq_4, ih fun d mem => blank d (List.mem_cons_of_mem c mem)]
      · rfl
      · exact fun _ escape => absurd escape (ne_of_blank blank List.mem_cons_self (by decide))
      · exact fun _ opens => absurd opens (ne_of_blank blank List.mem_cons_self (by decide))

theorem unescapedWithin_blank (guarded : Bool) : unescapedWithin guarded blanks = blanks := by
  induction blanks generalizing guarded with
  | nil => rfl
  | cons c rest ih =>
      rw [unescapedWithin, if_neg (ne_of_blank blank List.mem_cons_self (by decide)),
        ih fun d mem => blank d (List.mem_cons_of_mem c mem)]

theorem unescaped_append_blank (cs : List Char) :
    unescaped (cs ++ blanks) = unescaped cs ++ blanks := by
  induction cs using unescaped.induct (motive_2 := fun guarded cs =>
    unescapedWithin guarded (cs ++ blanks) = unescapedWithin guarded cs ++ blanks) with
  | case1 => simpa [unescaped] using unescaped_blank_append blank []
  | case2 rest ih => rw [unescaped, List.cons_append, List.cons_append, List.cons_append,
      unescaped, ih, List.cons_append, List.cons_append]
  | case3 rest ih => rw [unescaped, List.cons_append, List.cons_append, unescaped, ih,
      List.cons_append, List.cons_append]
  | case4 c rest escape opens ih =>
      rw [unescaped.eq_4 c rest escape opens, List.cons_append, unescaped.eq_4, ih,
        List.cons_append]
      · intro tail guards split
        obtain ⟨marked, rfl, after⟩ := exists_of_append_blank blank (by decide) split
        obtain ⟨opened, rfl, -⟩ := exists_of_append_blank blank (by decide) after
        exact escape opened guards rfl
      · intro tail marked split
        obtain ⟨opened, rfl, -⟩ := exists_of_append_blank blank (by decide) split
        exact opens opened marked rfl
  | case5 guarded => exact unescapedWithin_blank blank guarded
  | case6 rest ih =>
      rw [List.cons_append, unescapedWithin, if_pos rfl, if_pos rfl, ih, unescapedWithin, if_pos rfl,
        if_pos rfl, List.cons_append]
  | case7 guarded rest closes ih =>
      rw [List.cons_append, unescapedWithin, if_pos rfl, if_neg closes, ih, unescapedWithin,
        if_pos rfl, if_neg closes, List.cons_append]
  | case8 guarded c rest inside ih =>
      rw [List.cons_append, unescapedWithin, if_neg inside, ih, unescapedWithin, if_neg inside,
        List.cons_append]

end Trimming

theorem trim_unescaped_trim (cs : List Char) :
    Text.trim (unescaped (Text.trim cs)) = Text.trim (unescaped cs) := by
  obtain ⟨a, b, split, blankLeft, blankRight⟩ := Text.exists_trim cs
  conv_rhs => rw [split, unescaped_append_blank blankRight, unescaped_blank_append blankLeft,
    Text.trim_append_blank blankRight, Text.trim_blank_append blankLeft]

theorem trim_iterate_unescaped (n : Nat) (cs : List Char) :
    Text.trim ((fun text => Text.trim (unescaped text))^[n] cs) = Text.trim (unescaped^[n] cs) := by
  induction n with
  | zero => rfl
  | succ n ih =>
      rw [Function.iterate_succ_apply', Function.iterate_succ_apply', Text.trim_trim,
        ← trim_unescaped_trim, ih, trim_unescaped_trim]

def guardCloses (content : List Char) : List Char :=
  content.flatMap fun c => if c = '}' then ['\\', '}'] else [c]

theorem guardCloses_append_singleton (content : List Char) (c : Char) :
    guardCloses (content ++ [c]) = guardCloses content ++ if c = '}' then ['\\', '}'] else [c] := by
  simp [guardCloses]

namespace Piece

def spelled : Piece → List Char
  | plain text => text
  | token content => '#' :: '{' :: (guardCloses content ++ ['}'])

theorem flatMap_spelled_scan (cs : List Char) : ∀ before : List Char,
    (before.head? = some '\\' → ¬['#', '{'] <+: cs) →
      (scan '#' before cs).flatMap spelled = before.reverse ++ unescaped cs := by
  -- outside of tokens and within them together; within one the loop has no backslash to take
  induction cs using unescaped.induct (motive_2 := fun guarded cs => ∀ before raw content,
    raw.reverse = guardCloses content.reverse → (guarded ↔ content.head? = some '\\') →
      (scanToken '#' before raw content cs).flatMap spelled =
        before.reverse ++ '#' :: '{' :: (raw.reverse ++ unescapedWithin guarded cs)) with
  | case1 =>
      intro before apart
      simp [scan, spelled, unescaped]
  | case2 rest ih =>
      intro before apart
      rw [scan_skip (by decide), scan_escaped, ih _ (by simp), unescaped]
      simp
  | case3 rest ih =>
      intro before apart
      have open_ : before.head? ≠ some '\\' := fun top => apart top (by simp)
      rw [scan_open open_, ih before [] [] rfl (by simp), unescaped]
      rfl
  | case4 c rest escape opens ih =>
      intro before apart
      have apart : ¬(c = '#' ∧ rest.head? = some '{') := by
        rintro ⟨rfl, top⟩
        obtain ⟨tail, rfl⟩ := List.head?_eq_some_iff.1 top
        exact opens tail rfl rfl
      rw [scan_cons apart, unescaped.eq_4 c rest escape opens, ih]
      · simp
      · rintro top ⟨tail, rfl⟩
        exact escape tail (by simpa using top) rfl
  | case5 guarded before raw content same top =>
      simp [scanToken, spelled, unescapedWithin]
  | case6 rest ih before raw content same top =>
      obtain ⟨earlier, rfl⟩ : ∃ earlier, content = '\\' :: earlier := by
        simpa [List.head?_eq_some_iff] using top
      rw [scanToken_guarded, ih _ _ _ _ (by simp), unescapedWithin, if_pos rfl, if_pos rfl]
      · simp
      · rw [List.reverse_cons, same, List.reverse_cons, List.reverse_cons,
          guardCloses_append_singleton, guardCloses_append_singleton]
        simp
  | case7 guarded rest closes ih before raw content same top =>
      rw [scanToken_close (fun start => closes (top.2 start)), List.flatMap_cons,
        List.flatMap_cons, ih [] (by simp), unescapedWithin, if_pos rfl, if_neg closes]
      simp [spelled, same]
  | case8 guarded c rest inside ih before raw content same top =>
      rw [scanToken_step inside, ih _ _ _ _ (by simp), unescapedWithin, if_neg inside]
      · simp
      · rw [List.reverse_cons, same, List.reverse_cons, guardCloses_append_singleton,
          if_neg inside]

end Piece

namespace Loop

/-- A loop without names and texts of its own over a collection with one entry. -/
structure Passes (loop : Loop) (scope : Scope) : Prop where
  item : loop.item = none
  index : loop.index = none
  opening : loop.opening = none
  closing : loop.closing = none
  single : ∃ value entry, Expr.evaluate loop.collection scope = .ok value ∧
    loop.entriesOf value = .ok (some [entry])

variable {loop : Loop}

theorem toList_replaceWith {handler : String → String} (rewrites : ∀ content,
      (handler (String.ofList content)).toList = (Piece.token content).spelled)
    (pieces : List Piece) :
    (Id.run (Piece.replaceWith (m := Id) handler pieces)).toList =
      pieces.flatMap Piece.spelled := by
  induction pieces with
  | nil => rfl
  | cons head rest ih =>
      cases head with
      | plain text => simp [Piece.replaceWith, Piece.spelled, ih]
      | token content =>
          rw [List.flatMap_cons, ← rewrites, ← ih, ← String.toList_append]
          rfl

theorem toList_renamePlaceholders (nameless : loop.names = []) (unique : Nat) (text : String) :
    (loop.renamePlaceholders unique text).toList = unescaped text.toList := by
  rw [renamePlaceholders, replaceTokens, toList_replaceWith, Piece.ofText,
    Piece.flatMap_spelled_scan _ [] (by simp)]
  · rfl
  · intro content
    simp [renameVariable, nameless, escapeBraces, Piece.spelled, guardCloses]

namespace Passes

variable {context after : Context} {applied : Bool}

theorem names_eq (passes : loop.Passes context.lookup) : loop.names = [] := by
  rw [names, passes.item, passes.index]
  rfl

theorem entries_eq_ok (passes : loop.Passes context.lookup) :
    ∃ entry, loop.entries context = (.ok (some [entry]), context) := by
  obtain ⟨value, entry, evaluated, listed⟩ := passes.single
  refine ⟨entry, Render.bind_eq_ok.2 ⟨value, context, ?_, ?_⟩⟩
  · refine Render.bind_eq_ok.2 ⟨context, context, Render.get_eq_ok.2 ⟨rfl, rfl⟩, ?_⟩
    rw [evaluated]
    rfl
  · rw [listed]
    rfl

theorem round_eq_ok (passes : loop.Passes context.lookup) (entry : Value × Value)
    {contents : Render Bool}
    (rendered : contents { context with sql := "", unique := context.unique + 1 } =
      (.ok applied, after)) :
    loop.round contents entry context =
      (.ok (String.ofList (Text.trim (unescaped after.sql.toList))),
        { after with sql := context.sql }) := by
  simp only [round, passes.item, passes.index, bindVariable, Render.bind_eq_ok, Render.get_eq_ok,
    Render.modify_eq_ok, Render.pure_eq_ok]
  refine ⟨_, _, ⟨rfl, rfl⟩, (), _, rfl, (), _, rfl, (), _, rfl, (applied, after.sql), _,
    Render.isolated_eq_ok.2 ⟨after, rendered, rfl, rfl⟩, ?_, rfl⟩
  rw [Text.trimmed, toList_renamePlaceholders passes.names_eq]

theorem render_eq_ok (passes : loop.Passes context.lookup) {contents : Render Bool}
    (rendered : contents { context with sql := "", unique := context.unique + 1 } =
      (.ok applied, after)) :
    loop.render contents context = (.ok true, { after with
      sql := context.sql ++ String.ofList (Text.trim (unescaped after.sql.toList)) }) := by
  obtain ⟨entry, listed⟩ := passes.entries_eq_ok
  let fragment := String.ofList (Text.trim (unescaped after.sql.toList))
  have collected : loop.restoring (loop.rounds contents [entry]) context =
      (.ok [fragment], { after with sql := context.sql }) := by
    have rounds : loop.rounds contents [entry] context =
        (.ok [fragment], { after with sql := context.sql }) := by
      simp only [Loop.rounds, Render.bind_eq_ok, Render.pure_eq_ok]
      exact ⟨_, _, passes.round_eq_ok entry rendered, _, _, ⟨rfl, rfl⟩, rfl, rfl⟩
    rw [restoring, rounds]
    simp only [passes.item, passes.index, restoreVariable]
  have joined : loop.join [fragment] = fragment := by
    by_cases empty : fragment = ""
    · rw [empty]
      rfl
    · simp [join, empty]
  refine Render.bind_eq_ok.2 ⟨_, context, listed, Render.bind_eq_ok.2 ⟨_, _, collected, ?_⟩⟩
  simp only [Render.bind_eq_ok, Render.modify_eq_ok, Render.pure_eq_ok]
  refine ⟨(), _, rfl, trivial, ?_⟩
  simp [joined, passes.opening, passes.closing, Context.append, fragment]

end Passes

end Loop

namespace Node

def within (loops : List Loop) (node : Node) : Node :=
  loops.foldr forEach node

theorem render_within_static {context : Context} {loops : List Loop}
    (passes : ∀ loop ∈ loops, loop.Passes context.lookup) (text : String) :
    ∃ unique, ((static text).within loops).render context = (.ok true, { context with
      unique := unique
      sql := context.sql ++ String.ofList
        ((fun cs => Text.trim (unescaped cs))^[loops.length] text.toList) }) := by
  induction loops generalizing context with
  | nil => exact ⟨context.unique, by simp [within, render]; rfl⟩
  | cons loop loops ih =>
      obtain ⟨unique, rendered⟩ := @ih { context with sql := "", unique := context.unique + 1 }
        fun other mem => passes other (List.mem_cons_of_mem loop mem)
      have outer := (passes loop List.mem_cons_self).render_eq_ok rendered
      refine ⟨unique, outer.trans ?_⟩
      simp only [List.length_cons, Function.iterate_succ_apply', String.empty_append,
        String.toList_ofList]

end Node

theorem squeeze_blank_append {blanks : List Char} (blank : ∀ c ∈ blanks, Text.isBlank c)
    (cs : List Char) : squeeze true (blanks ++ cs) = squeeze true cs := by
  induction blanks with
  | nil => rfl
  | cons c rest ih =>
      rw [List.cons_append, squeeze, if_pos (blank c List.mem_cons_self),
        ih fun d mem => blank d (List.mem_cons_of_mem c mem)]

theorem squeeze_append_blank {blanks : List Char} (blank : ∀ c ∈ blanks, Text.isBlank c)
    (gap : Bool) (cs : List Char) : squeeze gap (cs ++ blanks) = squeeze gap cs := by
  induction cs generalizing gap with
  | nil =>
      rw [List.nil_append, squeeze]
      induction blanks generalizing gap with
      | nil => rfl
      | cons c rest ih =>
          rw [squeeze, if_pos (blank c List.mem_cons_self),
            ih fun d mem => blank d (List.mem_cons_of_mem c mem)]
  | cons c rest ih => rw [List.cons_append, squeeze, squeeze, ih, ih]

theorem finishSql_of_trim {text other : String}
    (same : Text.trim text.toList = Text.trim other.toList) (shrink : Bool) :
    finishSql text shrink = finishSql other shrink := by
  have squeezed : ∀ cs, squeeze true cs = squeeze true (Text.trim cs) := by
    intro cs
    obtain ⟨a, b, split, blankLeft, blankRight⟩ := Text.exists_trim cs
    conv_lhs => rw [split, squeeze_append_blank blankRight, squeeze_blank_append blankLeft]
  cases shrink with
  | false => simp [finishSql, Text.trimmed, same]
  | true =>
      rw [← String.toList_inj, toList_finishSql_shrunk, toList_finishSql_shrunk,
        ← squeeze_trimStart, ← squeeze_trimStart, squeezed, same, ← squeezed]

namespace SqlSource

theorem boundSql_of_rendered {node other : Node} {parameter : Value} {setting : CompileSetting}
    {context context' : Context} {applied applied' : Bool}
    (rendered : node.render (.initial parameter setting.databaseId) = (.ok applied, context))
    (rendered' : other.render (.initial parameter setting.databaseId) = (.ok applied', context'))
    (bindings : context.bindings = context'.bindings)
    (same : Text.trim context.sql.toList = Text.trim context'.sql.toList) :
    (dynamic node).boundSql parameter setting = (dynamic other).boundSql parameter setting := by
  simp only [boundSql, renderFor, rendered, rendered', bindings, finishSql_of_trim same]
  rfl

/-- A text within loops is compiled like the text that is left when every loop has taken one
backslash from each escaped opening; without an escaped opening the loops change nothing. -/
theorem boundSql_within_static {loops : List Loop} {parameter : Value} {setting : CompileSetting}
    (passes : ∀ loop ∈ loops, loop.Passes (Context.initial parameter setting.databaseId).lookup)
    (text : String) :
    (dynamic ((Node.static text).within loops)).boundSql parameter setting =
      (dynamic (.static (Text.trimmed (String.ofList
        (unescaped^[loops.length] text.toList))))).boundSql parameter setting ∧
    (¬['\\', '#', '{'] <:+: text.toList →
      (dynamic ((Node.static text).within loops)).boundSql parameter setting =
        (dynamic (.static (Text.trimmed text))).boundSql parameter setting) := by
  obtain ⟨unique, rendered⟩ := Node.render_within_static passes text
  have whole : (dynamic ((Node.static text).within loops)).boundSql parameter setting =
      (dynamic (.static (Text.trimmed (String.ofList
        (unescaped^[loops.length] text.toList))))).boundSql parameter setting := by
    refine boundSql_of_rendered rendered rfl rfl ?_
    simp [Context.append, Context.initial, Text.trimmed, Text.trim_trim, trim_iterate_unescaped]
  refine ⟨whole, fun plain => ?_⟩
  rw [whole, Function.iterate_fixed (unescaped_eq_self plain), String.ofList_toList]

def overEntries : Loop where
  collection := "xs"

def oneEntry : Value :=
  .map [("xs", .list [.int 1]), ("a", .int 2)]

def unshrunk : CompileSetting :=
  ⟨.initial, none, false⟩

theorem overEntries_passes :
    overEntries.Passes (Context.initial oneEntry unshrunk.databaseId).lookup where
  item := rfl
  index := rfl
  opening := rfl
  closing := rfl
  single := ⟨.list [.int 1], (.int 0, .int 1), by rfl, by rfl⟩

theorem boundSql_within_static_nested :
    (dynamic ((Node.static " a = #\x7ba\x7d or #\x7b ").within
        [overEntries, overEntries])).boundSql oneEntry unshrunk =
      (dynamic (.static "a = #\x7ba\x7d or #\x7b")).boundSql oneEntry unshrunk ∧
    (((dynamic (.static "a = #\x7ba\x7d or #\x7b")).boundSql oneEntry unshrunk).map
      (·.sql)).toOption = some "a = ? or #\x7b" := by
  have passes : ∀ loop ∈ [overEntries, overEntries],
      loop.Passes (Context.initial oneEntry unshrunk.databaseId).lookup := by
    simp [overEntries_passes]
  refine ⟨?_, by decide +kernel⟩
  rw [(boundSql_within_static passes " a = #\x7ba\x7d or #\x7b ").2 (by decide)]
  rfl

/-- Within a loop an escaped placeholder is bound, and without the loop it is literal text. -/
theorem exists_boundSql_within_ne : ∃ loop parameter setting text,
    loop.Passes (Context.initial parameter setting.databaseId).lookup ∧
      (dynamic (.forEach loop (.static text))).boundSql parameter setting ≠
        (dynamic (.static (Text.trimmed text))).boundSql parameter setting := by
  refine ⟨overEntries, oneEntry, unshrunk, "\\#\x7ba\x7d", overEntries_passes, fun same => ?_⟩
  have bound : (((dynamic (.forEach overEntries (.static "\\#\x7ba\x7d"))).boundSql oneEntry
      unshrunk).map (·.sql)).toOption = some "?" := by decide +kernel
  have literal : (((dynamic (.static (Text.trimmed "\\#\x7ba\x7d"))).boundSql oneEntry
      unshrunk).map (·.sql)).toOption = some "#\x7ba\x7d" := by decide +kernel
  rw [same, literal] at bound
  exact absurd bound (by decide)

end SqlSource

end MappedSql
