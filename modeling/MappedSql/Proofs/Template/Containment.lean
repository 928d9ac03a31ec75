import MappedSql.Proofs.Template.Binding
import MappedSql.Proofs.Template.Registration
import MappedSql.Proofs.Template.Substitution

namespace MappedSql

def Shows (edges : Edges) (kind : String → Prop) (s : String) : Prop :=
  ∃ contents, Holds edges s contents ∧ ∀ content ∈ contents, kind content

section Kinds

variable {edges : Edges} {kind : String → Prop}

namespace Shows

variable {s t : String}

theorem empty : Shows edges kind "" :=
  ⟨[], holds_empty, nofun⟩

theorem space : Shows edges kind " " :=
  ⟨[], holds_space, nofun⟩

theorem append (left : Shows edges kind s) (right : Shows edges kind t) :
    Shows edges kind (s ++ t) := by
  obtain ⟨contents, holds, kinds⟩ := left
  obtain ⟨others, holdsRight, kindsRight⟩ := right
  exact ⟨contents ++ others, holds.append holdsRight, List.forall_mem_append.2 ⟨kinds, kindsRight⟩⟩

theorem peel (shows : Shows edges kind s) (peels : edges.Peels s.toList t.toList) :
    Shows edges kind t := by
  obtain ⟨contents, holds, kinds⟩ := shows
  exact ⟨contents, holds.peel peels, kinds⟩

theorem getD {text : Option String} (each : ∀ s ∈ text, Shows edges kind s) :
    Shows edges kind (text.getD "") := by
  cases text with
  | none => exact empty
  | some s => exact each s rfl

theorem intercalate (between : Shows edges kind s) {fragments : List String}
    (each : ∀ t ∈ fragments, Shows edges kind t) :
    Shows edges kind (String.intercalate s fragments) := by
  induction fragments with
  | nil => exact empty
  | cons first rest ih =>
    rw [List.forall_mem_cons] at each
    by_cases last : rest = []
    · subst last
      exact each.1
    · rw [String.intercalate_cons_of_ne_nil last]
      exact (each.1.append between).append (ih each.2)

end Shows

def Renamable (kind : String → Prop) : Prop :=
  ∀ loop : Loop, (∀ name ∈ loop.names, IsName name.toList) →
    ∀ unique content, kind content → kind (loop.renameVariable unique content)

namespace Render

variable {α β : Type}

def Writes (edges : Edges) (kind : String → Prop) (step : Render α) : Prop :=
  ∀ before result after, step before = (.ok result, after) →
    ∃ fragment, after.sql = before.sql ++ fragment ∧ Shows edges kind fragment

namespace Writes

theorem of_still {step : Render α}
    (still : ∀ {before result after}, step before = (.ok result, after) → after.sql = before.sql) :
    Writes edges kind step :=
  fun _ _ _ ran => ⟨"", by rw [still ran, String.append_empty], .empty⟩

theorem pure (a : α) : Writes edges kind (Pure.pure a) :=
  of_still fun ran => by rw [← (pure_eq_ok.1 ran).2]

theorem bind {first : Render α} {next : α → Render β} (left : Writes edges kind first)
    (right : ∀ a, Writes edges kind (next a)) : Writes edges kind (first >>= next) := by
  intro before result after ran
  obtain ⟨a, middle, ran, others⟩ := bind_eq_ok.1 ran
  obtain ⟨fragment, wrote, shows⟩ := left _ _ _ ran
  obtain ⟨rest, wroteRest, showsRest⟩ := right a _ _ _ others
  exact ⟨fragment ++ rest, by rw [wroteRest, wrote, String.append_assoc], shows.append showsRest⟩

theorem appending {s : String} (shows : Shows edges kind s) :
    Writes edges kind (modify (·.append s)) := by
  intro before result after ran
  exact ⟨s, by rw [← modify_eq_ok.1 ran, Context.append], shows⟩

theorem shows {step : Render α} (writes : Writes edges kind step) {before inner : Context}
    {result : α} (ran : step { before with sql := "" } = (.ok result, inner)) :
    Shows edges kind inner.sql := by
  obtain ⟨fragment, wrote, shows⟩ := writes _ _ _ ran
  rw [wrote, String.empty_append]
  exact shows

theorem trimming {style : TrimStyle} (blanks : edges.Blanks)
    (around : ∀ s ∈ style.before.toList ++ style.after.toList, Shows edges kind s)
    (takes : ∀ token ∈ style.startOverrides ++ style.endOverrides, edges.Takes token)
    {contents : Render Bool} (inside : Writes edges kind contents) :
    Writes edges kind (style.render contents) := by
  intro before result after ran
  simp only [TrimStyle.render, bind_eq_ok] at ran
  obtain ⟨⟨applied, body⟩, middle, isolated, ran⟩ := ran
  obtain ⟨inner, done, rfl, rfl⟩ := isolated_eq_ok.1 isolated
  cases empty : (style.strip inner.sql.toList).isEmpty with
  | true =>
    simp only [empty, Bool.not_true, Bool.false_eq_true, if_false, pure_eq_ok] at ran
    -- nothing is left of the contents, and the texts around them are not written either
    obtain ⟨_, _, ⟨-, rfl⟩, -, rfl⟩ := ran
    exact ⟨"", by simp, .empty⟩
  | false =>
    simp only [empty, Bool.not_false, if_true, pure_eq_ok, modify_eq_ok, bind_eq_ok] at ran
    obtain ⟨_, _, rfl, -, rfl⟩ := ran
    refine ⟨_, rfl, Shows.append ?_ (Shows.append (Shows.append ?_ ?_) ?_)⟩
    · exact ⟨[], TrimStyle.holds_gapAfter _, by simp⟩
    · refine Shows.getD fun s mem => ?_
      obtain ⟨front, among, rfl⟩ := Option.map_eq_some_iff.1 mem
      exact (around front (by simp [among])).append .space
    · refine (inside.shows done).peel ?_
      rw [String.toList_ofList]
      exact TrimStyle.peels_strip blanks takes _
    · refine Shows.getD fun s mem => ?_
      obtain ⟨back, among, rfl⟩ := Option.map_eq_some_iff.1 mem
      exact Shows.space.append (around back (by simp [among]))

section

variable {loop : Loop} (blanks : edges.Blanks) (renames : Renamable kind)
  (named : ∀ name ∈ loop.names, IsName name.toList) {contents : Render Bool}
  (inside : Writes edges kind contents)
include blanks renames named inside

theorem shows_rounds {entries : List (Value × Value)} {before after : Context}
    {fragments : List String} (ran : loop.rounds contents entries before = (.ok fragments, after)) :
    after.sql = before.sql ∧ ∀ s ∈ fragments, Shows edges kind s := by
  induction entries generalizing before fragments with
  | nil =>
    obtain ⟨rfl, rfl⟩ := pure_eq_ok.1 ran
    exact ⟨rfl, nofun⟩
  | cons entry rest ih =>
    simp only [Loop.rounds, bind_eq_ok, pure_eq_ok] at ran
    obtain ⟨fragment, middle, first, others, _, ran, rfl, rfl⟩ := ran
    obtain ⟨_, inner, done, rfl, rfl⟩ := Loop.round_eq_ok.1 first
    obtain ⟨same, shown⟩ := ih ran
    refine ⟨same, List.forall_mem_cons.2 ⟨?_, shown⟩⟩
    -- the fragment is renamed as a whole, and trimmed after that
    obtain ⟨held, holds, kinds⟩ := inside.shows done
    refine Shows.peel ⟨_, holds.rename named before.unique, fun content mem => ?_⟩ ?_
    · obtain ⟨content, among, rfl⟩ := List.mem_map.1 mem
      exact renames loop named _ _ (kinds content among)
    · rw [Text.trimmed, String.toList_ofList]
      exact peels_trim blanks _

theorem looping
    (around : ∀ s ∈ loop.opening.toList ++ loop.separator.toList ++ loop.closing.toList,
      Shows edges kind s) : Writes edges kind (loop.render contents) := by
  refine bind (of_still fun listed => by rw [Loop.entries_eq_ok listed]) fun found => ?_
  cases found with
  | none => exact pure true
  | some entries =>
    intro before result after ran
    simp only [bind_eq_ok, modify_eq_ok, pure_eq_ok] at ran
    obtain ⟨fragments, restored, done, _, _, rfl, -, rfl⟩ := ran
    obtain ⟨inner, ran, rfl⟩ := Loop.restoring_eq_ok.1 done
    obtain ⟨same, shown⟩ := shows_rounds blanks renames named inside ran
    refine ⟨_, by rw [Context.append, Loop.sql_restoreVariable, Loop.sql_restoreVariable, same], ?_⟩
    have edge {s : Option String} (among : ∀ t ∈ s, t ∈ loop.opening.toList ++
        loop.separator.toList ++ loop.closing.toList) : Shows edges kind (s.getD "") :=
      Shows.getD fun t mem => around t (among t mem)
    refine Shows.append (Shows.append (edge fun t mem => by simp_all) ?_)
      (edge fun t mem => by simp_all)
    refine Shows.intercalate (edge fun t mem => by simp_all) fun t mem => ?_
    exact shown t (List.mem_filter.1 mem).1

end

end Writes

end Render

def Part.Keeps (edges : Edges) (kind : String → Prop) : Part → Prop
  | edge s => Shows edges kind s
  | override token => edges.Takes token
  | name own => IsName own.toList
  | text _ | spliced | binding => True

namespace Node

open Render (Writes)

structure Keeps (edges : Edges) (kind : String → Prop) (raws texts : List String)
    (parts : List Part) : Prop where
  untokened : ∀ raw ∈ raws, hasToken '$' raw = false
  texts : ∀ s ∈ texts, '\\' ∉ s.toList ∧ Shows edges kind s
  parts : ∀ part ∈ parts, part.Keeps edges kind

theorem keeps_append {raws raws' texts texts' : List String} {parts parts' : List Part} :
    Keeps edges kind (raws ++ raws') (texts ++ texts') (parts ++ parts') ↔
      Keeps edges kind raws texts parts ∧ Keeps edges kind raws' texts' parts' := by
  constructor
  · rintro ⟨untokened, shown, kept⟩
    rw [List.forall_mem_append] at untokened shown kept
    exact ⟨⟨untokened.1, shown.1, kept.1⟩, ⟨untokened.2, shown.2, kept.2⟩⟩
  · rintro ⟨⟨untokened, shown, kept⟩, ⟨untokened', shown', kept'⟩⟩
    exact ⟨List.forall_mem_append.2 ⟨untokened, untokened'⟩,
      List.forall_mem_append.2 ⟨shown, shown'⟩, List.forall_mem_append.2 ⟨kept, kept'⟩⟩

theorem Keeps.framed {raws texts : List String} {frame parts : List Part}
    (keeps : Keeps edges kind raws texts (frame ++ parts)) :
    (∀ part ∈ frame, part.Keeps edges kind) ∧ Keeps edges kind raws texts parts :=
  ⟨fun part mem => keeps.parts part (List.mem_append_left _ mem), keeps.untokened, keeps.texts,
    fun part mem => keeps.parts part (List.mem_append_right _ mem)⟩

theorem writes_test (source : String) : Writes edges kind (test source) :=
  .of_still fun tested => by rw [test_eq_ok tested]

mutual

theorem writes (blanks : edges.Blanks) (renames : Renamable kind) : ∀ node : Node,
    Keeps edges kind node.raws node.texts node.parts → Writes edges kind node.render
  | static s, keeps =>
      (Writes.appending (keeps.texts s (by simp [texts])).2).bind fun _ => .pure true
  | text raw filter, keeps => by
      have shown := keeps.texts raw (by simp [texts])
      rw [← render_static_of_plain (keeps.untokened raw (by simp [raws]))
        (escapes_of_unescaped '$' rfl shown.1)]
      exact (Writes.appending shown.2).bind fun _ => .pure true
  | mixed children, keeps => by
      rw [raws, texts, parts] at keeps
      rw [render]
      exact (writesAll blanks renames children keeps).bind fun _ => .pure true
  | cond source contents, keeps => by
      rw [raws, texts, parts] at keeps
      rw [render]
      refine (writes_test source).bind fun holds => ?_
      cases holds with
      | true => exact (writes blanks renames contents keeps).bind fun _ => .pure true
      | false => exact .pure false
  | choose branches otherwise, keeps => by
      rw [raws, texts, parts, keeps_append] at keeps
      rw [render]
      exact writesChoice blanks renames branches keeps.1
        (writesOtherwise blanks renames otherwise keeps.2)
  | trim style contents, keeps => by
      rw [raws, texts, parts] at keeps
      obtain ⟨frame, inner⟩ := keeps.framed
      rw [render]
      -- the texts at the ends of a trimmed part are parts of the template themselves
      refine Writes.trimming blanks (fun s mem => ?_) (fun token mem => ?_)
        (writes blanks renames contents inner)
      · exact frame (.edge s) (by simp_all [TrimStyle.parts])
      · exact frame (.override token) (by simp_all [TrimStyle.parts])
  | forEach loop contents, keeps => by
      rw [raws, texts, parts] at keeps
      obtain ⟨frame, inner⟩ := keeps.framed
      have named : ∀ name ∈ loop.names, IsName name.toList := fun name mem =>
        frame (.name name) (by simp [Loop.parts, mem])
      rw [render]
      refine Writes.looping blanks renames named (writes blanks renames contents inner) ?_
      exact fun s mem => frame (.edge s) (by simp_all [Loop.parts])
  | bind name source, _ => by
      rw [render]
      refine .of_still fun ran => ?_
      simp only [Render.bind_eq_ok, Render.modify_eq_ok, Render.pure_eq_ok] at ran
      obtain ⟨value, middle, evaluated, _, _, rfl, -, rfl⟩ := ran
      rw [Render.evaluate_eq_ok evaluated, Context.bind]

theorem writesAll (blanks : edges.Blanks) (renames : Renamable kind) : ∀ nodes : List Node,
    Keeps edges kind (rawsOfAll nodes) (textsOfAll nodes) (partsOfAll nodes) →
    Writes edges kind (renderAll nodes)
  | [], _ => .pure ()
  | node :: rest, keeps => by
      rw [rawsOfAll, textsOfAll, partsOfAll, keeps_append] at keeps
      rw [renderAll]
      exact (writes blanks renames node keeps.1).bind fun _ => writesAll blanks renames rest keeps.2

theorem writesOtherwise (blanks : edges.Blanks) (renames : Renamable kind) :
    ∀ otherwise : Option Node,
    Keeps edges kind (rawsOfOtherwise otherwise) (textsOfOtherwise otherwise)
      (partsOfOtherwise otherwise) →
    Writes edges kind (renderOtherwise otherwise)
  | none, _ => .pure false
  | some contents, keeps => by
      rw [rawsOfOtherwise, textsOfOtherwise, partsOfOtherwise] at keeps
      rw [renderOtherwise]
      exact (writes blanks renames contents keeps).bind fun _ => .pure true

theorem writesChoice (blanks : edges.Blanks) (renames : Renamable kind) :
    ∀ (branches : List (String × Node)) {otherwise : Render Bool},
    Keeps edges kind (rawsOfBranches branches) (textsOfBranches branches)
      (partsOfBranches branches) →
    Writes edges kind otherwise → Writes edges kind (renderChoice otherwise branches)
  | [], _, _, last => last
  | (source, contents) :: rest, _, keeps, last => by
      rw [rawsOfBranches, textsOfBranches, partsOfBranches, keeps_append] at keeps
      rw [renderChoice]
      refine (writes_test source).bind fun holds => ?_
      cases holds with
      | true => exact (writes blanks renames contents keeps.1).bind fun _ => .pure true
      | false => exact writesChoice blanks renames rest keeps.2 last

end

end Node

end Kinds

def Part.edge? : Part → Option String
  | edge s => some s
  | _ => none

def Part.Tame : Part → Prop
  | override token => '#' ∉ token.toList ∧ '{' ∉ token.toList ∧ '}' ∉ token.toList
  | name own => IsName own.toList
  | text _ | edge _ | spliced | binding => True

instance : (part : Part) → Decidable part.Tame
  | .override token =>
      inferInstanceAs (Decidable ('#' ∉ token.toList ∧ '{' ∉ token.toList ∧ '}' ∉ token.toList))
  | .name own => inferInstanceAs (Decidable (IsName own.toList))
  | .text _ | .edge _ | .spliced | .binding => inferInstanceAs (Decidable True)

namespace Node

/-- What a template writes as it stands, the texts around loops and trimmed parts included. -/
def literals (root : Node) : List String :=
  root.texts ++ root.parts.filterMap Part.edge?

/-- A template without `$` tokens, escapes, or placeholders that only the joining of its texts forms
or opens. -/
structure Contained (root : Node) : Prop where
  untokened : ∀ raw ∈ root.raws, hasToken '$' raw = false
  literals : ∀ s ∈ root.literals, '\\' ∉ s.toList ∧ Closed s.toList
  parts : ∀ part ∈ root.parts, part.Tame
  seamless : ∀ first ∈ root.literals, ∀ second ∈ root.literals,
    ¬(EndsInHash root.loose first.toList ∧ BeginsWithBrace root.loose second.toList)

instance (root : Node) : Decidable root.Contained :=
  decidable_of_iff (_ ∧ _ ∧ _ ∧ _)
    ⟨fun ⟨untokened, literals, parts, seamless⟩ => ⟨untokened, literals, parts, seamless⟩,
      fun contained => ⟨contained.untokened, contained.literals, contained.parts,
        contained.seamless⟩⟩

variable {root : Node}

def Contained.edges (contained : root.Contained) : Edges where
  loose := root.loose
  mayEnd := ∃ s ∈ root.literals, EndsInHash root.loose s.toList
  mayBegin := ∃ s ∈ root.literals, BeginsWithBrace root.loose s.toList
  apart := by
    rintro ⟨⟨first, mem, ends⟩, second, member, begins⟩
    exact contained.seamless first mem second member ⟨ends, begins⟩
  hash_kept := loose_eq_false (by decide) (by decide) fun _ mem => (contained.parts _ mem).1
  open_kept := loose_eq_false (by decide) (by decide) fun _ mem => (contained.parts _ mem).2.1
  close_kept := loose_eq_false (by decide) (by decide) fun _ mem => (contained.parts _ mem).2.2

theorem Contained.blanks (contained : root.Contained) : contained.edges.Blanks :=
  fun c blank => by simp [Contained.edges, loose, blank]

theorem Contained.keeps {kind : String → Prop} (contained : root.Contained)
    (kinds : ∀ s ∈ root.literals, ∀ content ∈ Piece.contents (Piece.ofText '#' s), kind content) :
    Keeps contained.edges kind root.raws root.texts root.parts := by
  have shown : ∀ s ∈ root.literals, Shows contained.edges kind s := fun s mem =>
    have known := contained.literals s mem
    have fits : contained.edges.Fits s.toList :=
      ⟨known.1, known.2, fun ends => ⟨s, mem, ends⟩, fun begins => ⟨s, mem, begins⟩⟩
    ⟨_, holds_of_fits fits, kinds s mem⟩
  refine ⟨contained.untokened, fun s mem => ?_, fun part mem => ?_⟩
  · have among : s ∈ root.literals := List.mem_append_left _ mem
    exact ⟨(contained.literals s among).1, shown s among⟩
  · cases part with
    | edge s => exact shown s (List.mem_append_right _ (List.mem_filterMap.2 ⟨.edge s, mem, rfl⟩))
    | override token =>
      intro c taken
      simp only [Contained.edges, loose, Bool.or_eq_true, List.any_eq_true]
      exact .inr ⟨.override token, mem, by simpa using taken⟩
    | name own => exact contained.parts _ mem
    | text | spliced | binding => trivial

end Node

end MappedSql
