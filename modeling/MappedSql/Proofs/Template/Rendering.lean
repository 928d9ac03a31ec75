import MappedSql.Proofs.Outcome
import MappedSql.Proofs.Template.Marks

namespace MappedSql

open Loop (roundName IsVariable roundName_inj)

structure Context.Extends (before after : Context) : Prop where
  grows : before.unique ≤ after.unique
  kept : ∀ name unique, unique < before.unique →
    Fields.get? after.bindings (roundName name unique) =
      Fields.get? before.bindings (roundName name unique)

theorem Context.Extends.refl (context : Context) : context.Extends context :=
  ⟨Nat.le_refl _, fun _ _ _ => rfl⟩

theorem Context.Extends.trans {first second third : Context} (left : first.Extends second)
    (right : second.Extends third) : first.Extends third where
  grows := left.grows.trans right.grows
  kept := fun name unique past => by
    rw [right.kept name unique (past.trans_le left.grows), left.kept name unique past]

theorem Context.extends_bind {context : Context} {name : String} (own : IsVariable name)
    (value : Value) : context.Extends (context.bind name value) where
  grows := Nat.le_refl _
  kept := fun other unique _ =>
    Fields.get?_insert_of_ne _ value (own.ne_roundName other unique)

theorem Context.extends_restoreVariable {name : Option String}
    (own : ∀ used ∈ name, IsVariable used) (before context : Context) :
    context.Extends (Loop.restoreVariable name before context) := by
  cases name with
  | none => exact Extends.refl context
  | some name =>
      have named := own name rfl
      unfold Loop.restoreVariable Context.restore
      dsimp only
      split
      · exact extends_bind named _
      · exact ⟨Nat.le_refl _, fun other unique _ =>
          Fields.get?_erase_of_ne _ (named.ne_roundName other unique)⟩

structure Round.Lasts (round : Round) (context : Context) : Prop where
  own : ∀ name ∈ round.loop.names, IsVariable name
  past : round.unique < context.unique
  bound : ∀ name value, round.value? name = some value →
    Fields.get? context.bindings (roundName name round.unique) = some value

theorem Round.Lasts.mono {round : Round} {before after : Context} (lasts : round.Lasts before)
    (later : before.Extends after) : round.Lasts after where
  own := lasts.own
  past := lasts.past.trans_le later.grows
  bound := fun name value named => by
    rw [later.kept name round.unique lasts.past, lasts.bound name value named]

structure Mark.Lasts (mark : Mark) (context : Context) : Prop where
  path : IsPath (Placeholder.subject mark.content.toList)
  rounds : ∀ round ∈ mark.rounds, round.Lasts context

theorem Mark.Lasts.mono {mark : Mark} {before after : Context} (lasts : mark.Lasts before)
    (later : before.Extends after) : mark.Lasts after where
  path := lasts.path
  rounds := fun round mem => (lasts.rounds round mem).mono later

def Mark.written (mark : Mark) : String :=
  mark.rounds.foldl (fun content round => round.loop.renameVariable round.unique content)
    mark.content

theorem Mark.written_within (round : Round) (mark : Mark) :
    (mark.within round).written = round.loop.renameVariable round.unique mark.written := by
  simp [Mark.written, Mark.within]

structure Rendered (edges : Edges) (marks : List Mark) (before after : Context) : Prop
    extends before.Extends after where
  wrote : ∃ fragment, after.sql = before.sql ++ fragment ∧
    Holds edges fragment (marks.map Mark.written)
  lasts : ∀ mark ∈ marks, mark.Lasts after

variable {edges : Edges} {marks others : List Mark} {before middle after : Context}

theorem Rendered.refl (context : Context) : Rendered edges [] context context where
  toExtends := Context.Extends.refl context
  wrote := ⟨"", by simp, holds_empty⟩
  lasts := by simp

theorem Rendered.trans (first : Rendered edges marks before middle)
    (second : Rendered edges others middle after) :
    Rendered edges (marks ++ others) before after where
  toExtends := first.toExtends.trans second.toExtends
  wrote := by
    obtain ⟨left, wroteLeft, holdsLeft⟩ := first.wrote
    obtain ⟨right, wroteRight, holdsRight⟩ := second.wrote
    refine ⟨left ++ right, by rw [wroteRight, wroteLeft, String.append_assoc], ?_⟩
    rw [List.map_append]
    exact holdsLeft.append holdsRight
  lasts := by
    intro mark mem
    rcases List.mem_append.1 mem with mem | mem
    · exact (first.lasts mark mem).mono second.toExtends
    · exact second.lasts mark mem

theorem rendered_append {context : Context} {fragment : String}
    (holds : Holds edges fragment (marks.map Mark.written))
    (lasts : ∀ mark ∈ marks, mark.Lasts context) :
    Rendered edges marks context (context.append fragment) where
  toExtends := ⟨Nat.le_refl _, fun _ _ _ => rfl⟩
  wrote := ⟨fragment, rfl, holds⟩
  lasts := fun mark mem => (lasts mark mem).mono ⟨Nat.le_refl _, fun _ _ _ => rfl⟩

theorem Rendered.holds (rendered : Rendered edges marks { before with sql := "" } after) :
    Holds edges after.sql (marks.map Mark.written) := by
  obtain ⟨fragment, wrote, holds⟩ := rendered.wrote
  rwa [wrote, String.empty_append]

def Part.Fits (edges : Edges) : Part → Prop
  | text s => edges.Fits s.toList ∧ ∀ content ∈ Piece.contents (Piece.ofText '#' s),
      IsPath (Placeholder.subject content.toList)
  | edge s => edges.Fits s.toList ∧ Unopened s.toList
  | override token => edges.Takes token
  | name own => IsVariable own
  | spliced | binding => False

theorem rendered_static {s : String} (fits : Part.Fits edges (.text s)) (context : Context) :
    Rendered edges ((Node.static s).marks context) context (context.append s) := by
  refine rendered_append ?_ ?_
  · have holds := holds_of_fits fits.1
    simpa [Node.marks, Mark.written, Function.comp_def] using holds
  · intro mark mem
    obtain ⟨content, member, rfl⟩ := List.mem_map.1 mem
    exact ⟨fits.2 content member, by simp⟩

namespace Render

theorem evaluate_eq_ok {source : String} {failure : Error → Error} {value : Value}
    (evaluated : evaluate source failure before = (.ok value, after)) : after = before := by
  simp only [evaluate, bind_eq_ok, get_eq_ok] at evaluated
  obtain ⟨_, _, ⟨rfl, rfl⟩, evaluated⟩ := evaluated
  cases found : Expr.evaluate source before.lookup with
  | error e =>
      rw [found] at evaluated
      exact absurd evaluated throw_ne_ok
  | ok value =>
      rw [found] at evaluated
      exact (pure_eq_ok.1 evaluated).2.symm

end Render

theorem Node.test_eq_ok {source : String} {result : Bool}
    (tested : Node.test source before = (.ok result, after)) : after = before := by
  simp only [Node.test, Render.bind_eq_ok, Render.pure_eq_ok] at tested
  obtain ⟨_, _, evaluated, -, rfl⟩ := tested
  exact Render.evaluate_eq_ok evaluated

theorem Loop.entries_eq_ok {loop : Loop} {entries : Option (List (Value × Value))}
    (listed : loop.entries before = (.ok entries, after)) : after = before := by
  simp only [Loop.entries, Render.bind_eq_ok] at listed
  obtain ⟨value, middle, evaluated, listed⟩ := listed
  obtain rfl := Render.evaluate_eq_ok evaluated
  cases found : loop.entriesOf value with
  | error e =>
      rw [found] at listed
      exact absurd listed Render.throw_ne_ok
  | ok entries =>
      rw [found] at listed
      exact (Render.pure_eq_ok.1 listed).2.symm

theorem holds_space : Holds edges " " [] := by
  refine ⟨[.char ' '], rfl, ⟨⟨by simp, by simp, ?_⟩, ?_, ?_⟩, rfl⟩
  · intro a b joined
    have lengths := congrArg List.length joined
    simp only [List.length_cons, List.length_nil, List.length_append] at lengths
    omega
  · intro a b joined
    have member : Written.char '#' ∈ [Written.char ' '] := by rw [joined]; simp
    simp at member
  · intro a b joined
    have member : Written.char '{' ∈ [Written.char ' '] := by rw [joined]; simp
    simp at member

theorem holds_edge {edge : Option String} {pad : String → String}
    (fits : ∀ s ∈ edge, Part.Fits edges (.edge s))
    (padded : ∀ s, Holds edges s [] → Holds edges (pad s) []) :
    Holds edges ((edge.map pad).getD "") [] := by
  cases edge with
  | none => exact holds_empty
  | some s => exact padded s (holds_of_unopened (fits s rfl).1 (fits s rfl).2)

namespace TrimStyle

theorem holds_enclose {style : TrimStyle} (fits : ∀ part ∈ style.parts, part.Fits edges)
    {stripped : String} {contents : List String} (holds : Holds edges stripped contents) :
    Holds edges (style.enclose stripped) contents := by
  have front : Holds edges ((style.before.map (· ++ " ")).getD "") [] :=
    holds_edge (fun s mem => fits (.edge s) (by simp_all [parts]))
      fun s holds => by simpa using holds.append holds_space
  have back : Holds edges ((style.after.map (" " ++ ·)).getD "") [] :=
    holds_edge (fun s mem => fits (.edge s) (by simp_all [parts]))
      fun s holds => by simpa using holds_space.append holds
  simpa [enclose] using (front.append holds).append back

theorem holds_gapAfter (sql : String) : Holds edges (gapAfter sql) [] := by
  unfold gapAfter
  split
  · split
    · exact holds_empty
    · exact holds_space
  · exact holds_empty

theorem rendered {style : TrimStyle} (blanks : edges.Blanks)
    (fits : ∀ part ∈ style.parts, part.Fits edges) {contents : Render Bool} {result : Bool}
    (inside : ∀ {result inner}, contents { before with sql := "" } = (.ok result, inner) →
      Rendered edges marks { before with sql := "" } inner)
    (rendered : style.render contents before = (.ok result, after)) :
    Rendered edges marks before after := by
  simp only [render, Render.bind_eq_ok] at rendered
  obtain ⟨⟨applied, body⟩, middle, isolated, rendered⟩ := rendered
  obtain ⟨inner, done, rfl, rfl⟩ := Render.isolated_eq_ok.1 isolated
  have stripped : Holds edges (String.ofList (style.strip inner.sql.toList))
      (marks.map Mark.written) := by
    refine (inside done).holds.peel ?_
    rw [String.toList_ofList]
    exact peels_strip blanks (fun token mem => fits (.override token) (by simp_all [parts])) _
  have later : before.Extends { inner with sql := before.sql } :=
    ⟨(inside done).grows, (inside done).kept⟩
  have lasts : ∀ mark ∈ marks, mark.Lasts { inner with sql := before.sql } := fun mark mem =>
    ((inside done).lasts mark mem).mono ⟨Nat.le_refl _, fun _ _ _ => rfl⟩
  cases empty : (style.strip inner.sql.toList).isEmpty with
  | true =>
      rw [List.isEmpty_iff.1 empty] at stripped
      simp only [empty, Bool.not_true, Bool.false_eq_true, if_false, Render.pure_eq_ok] at rendered
      obtain ⟨_, _, ⟨-, rfl⟩, -, rfl⟩ := rendered
      exact ⟨later, ⟨"", by simp, by rw [stripped.eq_nil]; exact holds_empty⟩, lasts⟩
  | false =>
      simp only [empty, Bool.not_false, if_true, Render.pure_eq_ok, Render.modify_eq_ok,
        Render.bind_eq_ok] at rendered
      obtain ⟨_, _, rfl, -, rfl⟩ := rendered
      have holds : Holds edges
          (gapAfter before.sql ++ style.enclose (String.ofList (style.strip inner.sql.toList)))
          (marks.map Mark.written) := by
        simpa using (holds_gapAfter before.sql).append (holds_enclose fits stripped)
      have appended : Rendered edges marks { inner with sql := before.sql } _ :=
        rendered_append holds lasts
      exact ⟨later.trans appended.toExtends, appended.wrote, appended.lasts⟩

end TrimStyle

namespace Loop

theorem get?_bindVariable_of_ne {name : Option String} (own : ∀ used ∈ name, IsVariable used)
    (value : Value) (unique : Nat) (context : Context) {other : String} {count : Nat}
    (apart : ∀ used ∈ name, roundName used unique ≠ roundName other count) :
    Fields.get? (bindVariable name value unique context).bindings (roundName other count) =
      Fields.get? context.bindings (roundName other count) := by
  cases name with
  | none => rfl
  | some name =>
      have named := (own name rfl).ne_roundName other count
      exact (Fields.get?_insert_of_ne _ value named).trans
        (Fields.get?_insert_of_ne _ value (apart name rfl))

theorem get?_bindVariable_self {name : String} (own : IsVariable name) (value : Value)
    (unique : Nat) (context : Context) :
    Fields.get? (bindVariable (some name) value unique context).bindings (roundName name unique) =
      some value :=
  (Fields.get?_insert_of_ne _ value (own.ne_roundName name unique)).trans
    (Fields.get?_insert_self _ _ _)

variable {loop : Loop} {entry : Value × Value}

theorem isVariable_of_item (own : ∀ name ∈ loop.names, IsVariable name) :
    ∀ name ∈ loop.item, IsVariable name :=
  fun name mem => own name (by simp_all [names])

theorem isVariable_of_index (own : ∀ name ∈ loop.names, IsVariable name) :
    ∀ name ∈ loop.index, IsVariable name :=
  fun name mem => own name (by simp_all [names])

theorem unique_bindVariable (name : Option String) (value : Value) (unique : Nat)
    (context : Context) : (bindVariable name value unique context).unique = context.unique := by
  cases name <;> rfl

theorem sql_bindVariable (name : Option String) (value : Value) (unique : Nat)
    (context : Context) : (bindVariable name value unique context).sql = context.sql := by
  cases name <;> rfl

theorem unique_entered (context : Context) :
    (loop.entered entry context).unique = context.unique + 1 := by
  simp [entered, unique_bindVariable]

theorem extends_entered (own : ∀ name ∈ loop.names, IsVariable name) (context : Context) :
    context.Extends (loop.entered entry context) where
  grows := by simp [unique_entered]
  kept := by
    intro name unique past
    have apart : ∀ used, roundName used context.unique ≠ roundName name unique := fun used same =>
      Nat.ne_of_gt past (roundName_inj.1 same).2
    exact (get?_bindVariable_of_ne (isVariable_of_item own) _ _ _ fun used _ => apart used).trans
      (get?_bindVariable_of_ne (isVariable_of_index own) _ _ _ fun used _ => apart used)

theorem lasts_entered (own : ∀ name ∈ loop.names, IsVariable name) (context : Context) :
    Round.Lasts ⟨loop, entry.1, entry.2, context.unique⟩ (loop.entered entry context) where
  own := own
  past := by simp [unique_entered]
  bound := by
    intro name value named
    unfold Round.value? at named
    by_cases item : loop.item = some name
    · obtain rfl : entry.2 = value := by simpa [item] using named
      simp only [entered, item]
      exact get?_bindVariable_self (isVariable_of_item own name item) _ _ _
    · simp only [if_neg item, Option.ite_none_right_eq_some, Option.some.injEq] at named
      obtain ⟨index, rfl⟩ := named
      refine (get?_bindVariable_of_ne (isVariable_of_item own) _ _ _ fun used mem same => ?_).trans
        ?_
      · exact item ((roundName_inj.1 same).1 ▸ mem)
      · rw [index]
        exact get?_bindVariable_self (isVariable_of_index own name index) _ _ _

structure Collected (edges : Edges) (marks : List Mark) (fragments : List String)
    (before after : Context) : Prop extends before.Extends after where
  untouched : after.sql = before.sql
  holds : ∃ contents, List.Forall₂ (Holds edges) fragments contents ∧
    contents.flatten = marks.map Mark.written
  lasts : ∀ mark ∈ marks, mark.Lasts after

theorem round_eq_ok {contents : Render Bool} {fragment : String} :
    loop.round contents entry before = (.ok fragment, after) ↔
      ∃ result inner, contents (loop.entered entry before) = (.ok result, inner) ∧
        fragment = Text.trimmed (loop.renamePlaceholders before.unique inner.sql) ∧
        after = { inner with sql := before.sql } := by
  simp only [round, Render.bind_eq_ok, Render.get_eq_ok, Render.modify_eq_ok, Render.pure_eq_ok,
    Prod.exists, Render.isolated_eq_ok]
  constructor
  · rintro ⟨_, _, ⟨rfl, rfl⟩, _, _, rfl, _, _, rfl, _, _, rfl, result, _, _,
      ⟨inner, done, rfl, rfl⟩, rfl, rfl⟩
    exact ⟨result, inner, done, rfl, by simp [sql_bindVariable]⟩
  · rintro ⟨result, inner, done, rfl, rfl⟩
    exact ⟨_, _, ⟨rfl, rfl⟩, (), _, rfl, (), _, rfl, (), _, rfl, result, inner.sql, _,
      ⟨inner, done, rfl, rfl⟩, rfl, by simp [sql_bindVariable]⟩

theorem collected_round (blanks : edges.Blanks) (own : ∀ name ∈ loop.names, IsVariable name)
    {contents : Render Bool} {fragment : String}
    (inside : ∀ {result inner}, contents (loop.entered entry before) = (.ok result, inner) →
      Rendered edges marks (loop.entered entry before) inner)
    (rendered : loop.round contents entry before = (.ok fragment, after)) :
    Collected edges (marks.map (Mark.within ⟨loop, entry.1, entry.2, before.unique⟩)) [fragment]
      before after := by
  obtain ⟨result, inner, done, rfl, rfl⟩ := round_eq_ok.1 rendered
  have wrote := inside done
  have later : inner.Extends { inner with sql := before.sql } :=
    ⟨Nat.le_refl _, fun _ _ _ => rfl⟩
  have holds : Holds edges (Text.trimmed (loop.renamePlaceholders before.unique inner.sql))
      ((marks.map (Mark.within ⟨loop, entry.1, entry.2, before.unique⟩)).map Mark.written) := by
    have renamed := wrote.holds.rename (fun name mem => (own name mem).plain) before.unique
    simp only [List.map_map, Function.comp_def, Mark.written_within] at renamed ⊢
    refine renamed.peel ?_
    rw [Text.trimmed, String.toList_ofList]
    exact peels_trim blanks _
  refine ⟨(extends_entered own before).trans (wrote.toExtends.trans later), rfl,
    ⟨_, .cons holds .nil, by simp⟩, ?_⟩
  intro mark mem
  obtain ⟨inner_mark, member, rfl⟩ := List.mem_map.1 mem
  have lasts := (wrote.lasts inner_mark member).mono later
  refine ⟨lasts.path, fun round among => ?_⟩
  rcases List.mem_append.1 among with among | among
  · exact lasts.rounds round among
  · rw [List.mem_singleton.1 among]
    exact (lasts_entered own before).mono (wrote.toExtends.trans later)

theorem Collected.append {fragments rest : List String}
    (first : Collected edges marks fragments before middle)
    (second : Collected edges others rest middle after) :
    Collected edges (marks ++ others) (fragments ++ rest) before after where
  toExtends := first.toExtends.trans second.toExtends
  untouched := second.untouched.trans first.untouched
  holds := by
    obtain ⟨left, holdsLeft, sameLeft⟩ := first.holds
    obtain ⟨right, holdsRight, sameRight⟩ := second.holds
    exact ⟨left ++ right, List.rel_append holdsLeft holdsRight, by simp [sameLeft, sameRight]⟩
  lasts := by
    intro mark mem
    rcases List.mem_append.1 mem with mem | mem
    · exact (first.lasts mark mem).mono second.toExtends
    · exact second.lasts mark mem

theorem collected_rounds (blanks : edges.Blanks) (own : ∀ name ∈ loop.names, IsVariable name)
    {contents : Render Bool} {inner : Context → List Mark}
    (inside : ∀ {context result after}, contents context = (.ok result, after) →
      Rendered edges (inner context) context after)
    {entries : List (Value × Value)} {fragments : List String}
    (rendered : loop.rounds contents entries before = (.ok fragments, after)) :
    Collected edges (loop.marks contents inner entries before) fragments before after := by
  induction entries generalizing before fragments with
  | nil =>
      simp only [rounds, Render.pure_eq_ok] at rendered
      obtain ⟨rfl, rfl⟩ := rendered
      exact ⟨Context.Extends.refl _, rfl, ⟨[], .nil, rfl⟩, by simp [marks]⟩
  | cons entry rest ih =>
      simp only [rounds, Render.bind_eq_ok, Render.pure_eq_ok] at rendered
      obtain ⟨fragment, middle, first, others, _, rendered, rfl, rfl⟩ := rendered
      have next : (loop.round contents entry before).2 = middle := by rw [first]
      rw [marks, next]
      exact (collected_round blanks own inside first).append (ih rendered)

theorem holds_join {loop : Loop} (fits : ∀ part ∈ loop.parts, part.Fits edges)
    {fragments : List String} {contents : List (List String)}
    (holds : List.Forall₂ (Holds edges) fragments contents) :
    Holds edges (loop.join fragments) contents.flatten := by
  have separator : Holds edges (loop.separator.getD "") [] := by
    have edge : Holds edges ((loop.separator.map id).getD "") [] :=
      holds_edge (fun s mem => fits (.edge s) (by simp_all [parts])) fun s holds => holds
    simpa using edge
  induction holds with
  | nil => simpa [join] using holds_empty
  | @cons fragment content fragments contents first rest ih =>
      by_cases empty : fragment = ""
      · subst empty
        simpa [join, first.eq_nil] using ih
      · by_cases last : fragments.filter (!·.isEmpty) = []
        · have trailing := first.append ih
          simpa [join, empty, last] using trailing
        · have joined := (first.append separator).append ih
          simpa [join, empty, String.intercalate_cons_of_ne_nil last] using joined

theorem sql_restoreVariable (name : Option String) (before context : Context) :
    (restoreVariable name before context).sql = context.sql := by
  cases name with
  | none => rfl
  | some name =>
      simp only [restoreVariable, Context.restore]
      split <;> rfl

theorem restoring_eq_ok {body : Render (List String)} {fragments : List String} :
    loop.restoring body before = (.ok fragments, after) ↔
      ∃ inner, body before = (.ok fragments, inner) ∧
        after = restoreVariable loop.index before (restoreVariable loop.item before inner) := by
  unfold restoring
  rcases body before with ⟨outcome, inner⟩
  constructor
  · rintro ⟨⟩
    exact ⟨inner, rfl, rfl⟩
  · rintro ⟨_, ⟨⟩, rfl⟩
    rfl

theorem collected_restoring (own : ∀ name ∈ loop.names, IsVariable name)
    {body : Render (List String)} {fragments : List String}
    (inside : ∀ {inner}, body before = (.ok fragments, inner) →
      Collected edges marks fragments before inner)
    (done : loop.restoring body before = (.ok fragments, after)) :
    Collected edges marks fragments before after := by
  obtain ⟨inner, ran, rfl⟩ := restoring_eq_ok.1 done
  have collected := inside ran
  have later : inner.Extends
      (restoreVariable loop.index before (restoreVariable loop.item before inner)) :=
    (Context.extends_restoreVariable (isVariable_of_item own) _ _).trans
      (Context.extends_restoreVariable (isVariable_of_index own) _ _)
  refine ⟨collected.toExtends.trans later, ?_, collected.holds, fun mark mem => ?_⟩
  · rw [sql_restoreVariable, sql_restoreVariable, collected.untouched]
  · exact (collected.lasts mark mem).mono later

theorem rendered {loop : Loop} (blanks : edges.Blanks)
    (fits : ∀ part ∈ loop.parts, part.Fits edges) {contents : Render Bool}
    {inner : Context → List Mark} {result : Bool}
    (inside : ∀ {context result after}, contents context = (.ok result, after) →
      Rendered edges (inner context) context after)
    (rendered : loop.render contents before = (.ok result, after)) :
    Rendered edges
      (match loop.entries before with
        | (.ok (some entries), middle) => loop.marks contents inner entries middle
        | _ => []) before after := by
  have own : ∀ name ∈ loop.names, IsVariable name := fun name mem =>
    fits (.name name) (by simp [parts, mem])
  have edge : ∀ {s : Option String}, (∀ t ∈ s, Part.edge t ∈ loop.parts) →
      Holds edges (s.getD "") [] := by
    intro s among
    have found : Holds edges ((s.map id).getD "") [] :=
      holds_edge (fun t mem => fits (.edge t) (among t mem)) fun t holds => holds
    simpa using found
  simp only [render, Render.bind_eq_ok] at rendered
  obtain ⟨entries, middle, listed, rendered⟩ := rendered
  obtain rfl := entries_eq_ok listed
  rw [listed]
  cases entries with
  | none =>
      obtain ⟨-, rfl⟩ := Render.pure_eq_ok.1 rendered
      exact Rendered.refl _
  | some entries =>
      simp only [Render.bind_eq_ok, Render.modify_eq_ok, Render.pure_eq_ok] at rendered
      obtain ⟨fragments, restored, done, _, _, rfl, -, rfl⟩ := rendered
      have collected := collected_restoring own (collected_rounds blanks own inside) done
      obtain ⟨contents, held, same⟩ := collected.holds
      have holds := ((edge (s := loop.opening) fun t mem => by simp_all [parts]).append
        (holds_join fits held)).append (edge (s := loop.closing) fun t mem => by simp_all [parts])
      simp only [List.nil_append, List.append_nil, same] at holds
      have appended := rendered_append holds collected.lasts
      refine ⟨collected.toExtends.trans appended.toExtends, ⟨_, ?_, holds⟩, appended.lasts⟩
      rw [Context.append, collected.untouched]

end Loop

namespace Node

mutual

theorem rendered (blanks : edges.Blanks) : ∀ (node : Node) {before after : Context}
    {result : Bool} (_ : ∀ part ∈ node.parts, part.Fits edges)
    (_ : node.render before = (.ok result, after)),
    Rendered edges (node.marks before) before after
  | static s, before, after, result, fits, rendered => by
      simp only [render, Render.bind_eq_ok, Render.modify_eq_ok, Render.pure_eq_ok] at rendered
      obtain ⟨_, _, rfl, -, rfl⟩ := rendered
      exact rendered_static (fits _ (by simp [parts])) before
  | text _ _, _, _, _, fits, _ => (fits .spliced (by simp [parts])).elim
  | bind _ _, _, _, _, fits, _ => (fits .binding (by simp [parts])).elim
  | mixed children, before, after, result, fits, rendered => by
      simp only [render, Render.bind_eq_ok, Render.pure_eq_ok] at rendered
      obtain ⟨_, _, rendered, -, rfl⟩ := rendered
      exact renderedAll blanks children fits rendered
  | cond source contents, before, after, result, fits, rendered => by
      simp only [render, Render.bind_eq_ok] at rendered
      obtain ⟨holds, middle, tested, rendered⟩ := rendered
      obtain rfl := test_eq_ok tested
      rw [marks, tested]
      cases holds with
      | true =>
          simp only [if_true, Render.bind_eq_ok, Render.pure_eq_ok] at rendered
          obtain ⟨_, _, rendered, -, rfl⟩ := rendered
          exact Node.rendered blanks contents fits rendered
      | false =>
          obtain ⟨-, rfl⟩ := Render.pure_eq_ok.1 rendered
          exact Rendered.refl _
  | choose branches otherwise, before, after, result, fits, rendered => by
      rw [render] at rendered
      rw [marks]
      refine renderedChoice blanks branches (fun part mem => fits part (by simp [parts, mem]))
        (fun rendered => ?_) rendered
      exact renderedOtherwise blanks otherwise (fun part mem => fits part (by simp [parts, mem]))
        rendered
  | trim style contents, before, after, result, fits, done => by
      rw [render] at done
      rw [marks]
      refine style.rendered blanks (fun part mem => fits part (by simp [parts, mem]))
        (fun inside => ?_) done
      exact rendered blanks contents (fun part mem => fits part (by simp [parts, mem])) inside
  | forEach loop contents, before, after, result, fits, done => by
      rw [render] at done
      rw [marks]
      refine loop.rendered blanks (fun part mem => fits part (by simp [parts, mem]))
        (fun inside => ?_) done
      exact rendered blanks contents (fun part mem => fits part (by simp [parts, mem])) inside

theorem renderedAll (blanks : edges.Blanks) : ∀ (nodes : List Node) {before after : Context}
    {result : Unit} (_ : ∀ part ∈ partsOfAll nodes, part.Fits edges)
    (_ : renderAll nodes before = (.ok result, after)),
    Rendered edges (marksAll nodes before) before after
  | [], before, after, result, fits, rendered => by
      obtain ⟨-, rfl⟩ := Render.pure_eq_ok.1 rendered
      exact Rendered.refl _
  | node :: rest, before, after, result, fits, done => by
      simp only [renderAll, Render.bind_eq_ok] at done
      obtain ⟨_, middle, first, others⟩ := done
      have next : (render node before).2 = middle := by rw [first]
      rw [marksAll, next]
      exact (rendered blanks node (fun part mem => fits part (by simp [partsOfAll, mem]))
        first).trans (renderedAll blanks rest
          (fun part mem => fits part (by simp [partsOfAll, mem])) others)

theorem renderedOtherwise (blanks : edges.Blanks) : ∀ (otherwise : Option Node)
    {before after : Context} {result : Bool}
    (_ : ∀ part ∈ partsOfOtherwise otherwise, part.Fits edges)
    (_ : renderOtherwise otherwise before = (.ok result, after)),
    Rendered edges (marksOtherwise otherwise before) before after
  | none, before, after, result, fits, done => by
      obtain ⟨-, rfl⟩ := Render.pure_eq_ok.1 done
      exact Rendered.refl _
  | some contents, before, after, result, fits, done => by
      simp only [renderOtherwise, Render.bind_eq_ok, Render.pure_eq_ok] at done
      obtain ⟨_, _, inside, -, rfl⟩ := done
      exact rendered blanks contents fits inside

theorem renderedChoice (blanks : edges.Blanks) : ∀ (branches : List (String × Node))
    {before after : Context} {result : Bool} {otherwise : Render Bool}
    {last : Context → List Mark}
    (_ : ∀ part ∈ partsOfBranches branches, part.Fits edges)
    (_ : ∀ {before after : Context} {result : Bool}, otherwise before = (.ok result, after) →
      Rendered edges (last before) before after)
    (_ : renderChoice otherwise branches before = (.ok result, after)),
    Rendered edges (marksChoice last branches before) before after
  | [], before, after, result, otherwise, last, fits, ends, done => ends done
  | (source, contents) :: rest, before, after, result, otherwise, last, fits, ends, done => by
      simp only [renderChoice, Render.bind_eq_ok] at done
      obtain ⟨holds, middle, tested, done⟩ := done
      obtain rfl := test_eq_ok tested
      rw [marksChoice, tested]
      cases holds with
      | true =>
          simp only [if_true, Render.bind_eq_ok, Render.pure_eq_ok] at done
          obtain ⟨_, _, inside, -, rfl⟩ := done
          exact rendered blanks contents
            (fun part mem => fits part (by simp [partsOfBranches, mem])) inside
      | false =>
          exact renderedChoice blanks rest
            (fun part mem => fits part (by simp [partsOfBranches, mem])) ends done

end

end Node

end MappedSql
