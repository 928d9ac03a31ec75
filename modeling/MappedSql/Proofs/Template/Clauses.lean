import MappedSql.Proofs.Template.Overrides
import MappedSql.Proofs.Template.Rendering
import MappedSql.Proofs.Template.Scanning

/-!
# Conditions and assignments

The trimmed parts for conditions and for assignments are made for lists whose entries may be missing.
Each entry brings a connective of its own, and the part takes off the one too many: what is written is
the list of the active entries, joined (`Node.render_clauses`).
-/

namespace MappedSql

namespace Text

/-- A text that begins and ends with something visible. -/
structure Tight (cs : List Char) : Prop where
  nonempty : cs ≠ []
  starts : ∀ c ∈ cs.head?, isBlank c = false
  ends : ∀ c ∈ cs.getLast?, isBlank c = false

instance (cs : List Char) : Decidable (Tight cs) :=
  decidable_of_iff
    (cs ≠ [] ∧ cs.head?.all (fun c => !isBlank c) ∧ cs.getLast?.all fun c => !isBlank c)
    ⟨fun ⟨nonempty, starts, ends⟩ => ⟨nonempty, by simpa [Option.all_eq_true] using starts,
        by simpa [Option.all_eq_true] using ends⟩,
      fun tight => ⟨tight.nonempty, by simpa [Option.all_eq_true] using tight.starts,
        by simpa [Option.all_eq_true] using tight.ends⟩⟩

theorem Tight.append {a b : List Char} (left : Tight a) (right : Tight b) (between : List Char) :
    Tight (a ++ between ++ b) where
  nonempty := List.append_ne_nil_of_right_ne_nil _ right.nonempty
  starts := by
    rw [List.append_assoc, List.head?_append_of_ne_nil _ left.nonempty]
    exact left.starts
  ends := by
    rw [List.getLast?_append_of_ne_nil _ right.nonempty]
    exact right.ends

theorem tight_intercalate (separator : List Char) {parts : List (List Char)} (nonempty : parts ≠ [])
    (tight : ∀ part ∈ parts, Tight part) : Tight (separator.intercalate parts) := by
  induction parts with
  | nil => contradiction
  | cons part rest ih =>
    rw [List.forall_mem_cons] at tight
    cases rest with
    | nil => simpa using tight.1
    | cons next rest =>
      rw [List.intercalate_cons_cons]
      exact tight.1.append (ih (List.cons_ne_nil _ _) tight.2) separator

end Text

open Text (Tight)

theorem flatMap_enclosed_eq_append_intercalate (a b part : List Char)
    (parts : List (List Char)) : (part :: parts).flatMap (fun part => a ++ part ++ b) =
      a ++ (b ++ a).intercalate (part :: parts) ++ b := by
  induction parts generalizing part with
  | nil => simp
  | cons next rest ih =>
    rw [List.flatMap_cons, ih next, List.intercalate_cons_cons]
    simp

namespace TrimStyle

variable {parts : List (List Char)}

theorem strip_conjuncts (nonempty : parts ≠ []) (tight : ∀ part ∈ parts, Tight part) :
    whereClause.strip (parts.flatMap (" AND ".toList ++ ·)) =
      " AND ".toList.intercalate parts := by
  have joined := Text.tight_intercalate " AND ".toList nonempty tight
  obtain ⟨part, rest, rfl⟩ := List.exists_cons_of_ne_nil nonempty
  have written : (part :: rest).flatMap (" AND ".toList ++ ·) =
      " AND ".toList ++ " AND ".toList.intercalate (part :: rest) := by
    simpa using flatMap_enclosed_eq_append_intercalate " AND ".toList [] part rest
  rw [written]
  generalize " AND ".toList.intercalate (part :: rest) = list at joined
  have trimmed : Text.trim (" AND ".toList ++ list) = "AND ".toList ++ list := by
    have started : Text.trimStart (" AND ".toList ++ list) = "AND ".toList ++ list := by
      simp [Text.trimStart, Text.isBlank]
    rw [Text.trim, started]
    refine Text.trimEnd_of_visible_last ?_
    rw [List.getLast?_append_of_ne_nil _ joined.nonempty]
    exact joined.ends
  have found : whereClause.startOverrides.find?
      (fun token => isPrefixIgnoringCase token ("AND ".toList ++ list)) = some "AND " := by
    have first : whereClause.startOverrides.head? = some "AND " := by decide +kernel
    obtain ⟨others, same⟩ := List.head?_eq_some_iff.1 first
    rw [same]
    exact List.find?_cons_of_pos (by simp [isPrefixIgnoringCase])
  have cut : whereClause.cutStart ("AND ".toList ++ list) = list := by
    rw [cutStart, found]
    exact Text.trimStart_of_visible_head joined.starts
  rw [strip, trimmed, cut]
  rfl

theorem strip_assignments (nonempty : parts ≠ []) (tight : ∀ part ∈ parts, Tight part)
    (apart : ∀ part ∈ parts, part.head? ≠ some ',') :
    setClause.strip (parts.flatMap fun part => " ".toList ++ part ++ ",".toList) =
      ", ".toList.intercalate parts := by
  have joined := Text.tight_intercalate ", ".toList nonempty tight
  obtain ⟨part, rest, rfl⟩ := List.exists_cons_of_ne_nil nonempty
  rw [List.forall_mem_cons] at tight apart
  have head : (", ".toList.intercalate (part :: rest)).head? = part.head? := by
    cases rest with
    | nil => simp
    | cons next rest =>
      rw [List.intercalate_cons_cons, List.append_assoc,
        List.head?_append_of_ne_nil _ tight.1.nonempty]
  rw [flatMap_enclosed_eq_append_intercalate]
  change setClause.strip (" ".toList ++ ", ".toList.intercalate (part :: rest) ++ ",".toList) = _
  rw [← head] at apart
  generalize ", ".toList.intercalate (part :: rest) = list at joined apart
  have trimmed : Text.trim (" ".toList ++ list ++ ",".toList) = list ++ ",".toList := by
    rw [List.append_assoc, Text.trim_blank_append (by simp [Text.isBlank]), Text.trim,
      Text.trimStart_of_visible_head, Text.trimEnd_of_visible_last]
    · simp [Text.isBlank]
    · rw [List.head?_append_of_ne_nil _ joined.nonempty]
      exact joined.starts
  have uncut : setClause.cutStart (list ++ ",".toList) = list ++ ",".toList := by
    have only : setClause.startOverrides = [","] := by decide +kernel
    obtain ⟨c, others, rfl⟩ := List.exists_cons_of_ne_nil joined.nonempty
    -- overrides are compared in upper case, so the first letter must not become a comma there
    have other : c.toUpper ≠ ',' := by
      rcases Text.toUpper_eq_self_or c with same | ⟨k, below, rfl⟩
      · rw [same]
        simpa using apart.1
      · exact (by decide : ∀ k < 26, (Char.ofNat (97 + k)).toUpper ≠ ',') k below
    simp [cutStart, only, isPrefixIgnoringCase, other.symm]
  have cut : setClause.cutEnd (list ++ ",".toList) = list := by
    have only : setClause.endOverrides = [","] := by decide +kernel
    have length : endLength? (list ++ ",".toList) "," = some 1 := by
      simp [endLength?, isSuffixIgnoringCase]
      rfl
    rw [cutEnd, only, List.findSome?_cons, length]
    simpa using Text.trimEnd_of_visible_last joined.ends
  rw [strip, trimmed, uncut, cut]

theorem render_of_written {style : TrimStyle} {contents : Render Bool} {context : Context}
    {applied : Bool} {body : String}
    (wrote : contents { context with sql := "" } = (.ok applied, { context with sql := body })) :
    style.render contents context =
      (.ok applied, context.append (if style.strip body.toList = [] then "" else
        gapAfter context.sql ++ style.enclose (String.ofList (style.strip body.toList)))) := by
  have isolated : Render.isolated contents context = (.ok (applied, body), context) :=
    Render.isolated_eq_ok.2 ⟨_, wrote, rfl, rfl⟩
  refine Render.bind_eq_ok.2 ⟨(applied, body), context, isolated, ?_⟩
  by_cases gone : style.strip body.toList = []
  · simp [gone, Context.append]
  · rw [if_neg gone]
    dsimp only
    rw [if_pos (by simpa using gone)]
    rfl

end TrimStyle

/-- A piece of SQL that counts if a test holds. -/
structure Clause where
  test : String
  sql : String

namespace Clause

/-- A text on its own, which holds no tokens. -/
structure Plain (clause : Clause) : Prop where
  tight : Tight clause.sql.toList
  unopened : ¬['$', '{'] <:+: clause.sql.toList

instance (clause : Clause) : Decidable clause.Plain :=
  decidable_of_iff (_ ∧ _) ⟨fun ⟨tight, unopened⟩ => ⟨tight, unopened⟩,
    fun plain => ⟨plain.tight, plain.unopened⟩⟩

def node (clause : Clause) (enclose : String → String) : Node :=
  .cond clause.test (.ofText (enclose clause.sql))

def conjunct (clause : Clause) : Node :=
  clause.node fun sql => " AND " ++ sql

def assignment (clause : Clause) : Node :=
  clause.node fun sql => " " ++ sql ++ ","

def holds (scope : Scope) (clause : Clause) : Bool :=
  Expr.evaluateBool clause.test scope matches .ok true

def active (scope : Scope) (clauses : List Clause) : List String :=
  (clauses.filter (holds scope)).map sql

def written (enclose : String → String) (scope : Scope) (clauses : List Clause) : String :=
  String.join ((active scope clauses).map enclose)

end Clause

/-- A list behind a keyword, which a space keeps apart from the SQL so far; nothing for an empty
list. -/
def listing (sql keyword separator : String) (parts : List String) : String :=
  if parts = [] then ""
  else (if sql.toList.getLast?.all Text.isBlank then "" else " ") ++ keyword ++ " " ++
    separator.intercalate parts

theorem gapAfter_eq (sql : String) : TrimStyle.gapAfter sql =
    if sql.toList.getLast?.all Text.isBlank then "" else " " := by
  unfold TrimStyle.gapAfter
  split <;> simp_all

namespace Node

variable {context : Context}

theorem render_ofText_of_unopened {s : String} (unopened : ¬['$', '{'] <:+: s.toList) :
    (ofText s).render context = (.ok true, context.append s) := by
  rw [ofText, hasToken_eq_false_of_unopened unopened]
  simp only [Bool.false_eq_true, if_false, render]
  rfl

theorem test_of_evaluateBool {source : String} {holds : Bool}
    (evaluated : Expr.evaluateBool source context.lookup = .ok holds) :
    test source context = (.ok holds, context) := by
  obtain ⟨value, found, rfl⟩ : ∃ value, Expr.evaluate source context.lookup = .ok value ∧
      value.truthy = holds := by
    unfold Expr.evaluateBool at evaluated
    cases found : Expr.evaluate source context.lookup with
    | error e =>
      rw [found] at evaluated
      cases evaluated
    | ok value =>
      rw [found] at evaluated
      exact ⟨value, rfl, Except.ok.inj evaluated⟩
  refine Render.bind_eq_ok.2 ⟨value, context, ?_, rfl⟩
  refine Render.bind_eq_ok.2 ⟨context, context, rfl, ?_⟩
  rw [found]
  rfl

theorem render_clause {clause : Clause} {enclose : String → String}
    (unopened : ¬['$', '{'] <:+: (enclose clause.sql).toList)
    (decided : ∃ holds, Expr.evaluateBool clause.test context.lookup = .ok holds) :
    (clause.node enclose).render context = (.ok (clause.holds context.lookup),
      if clause.holds context.lookup then context.append (enclose clause.sql) else context) := by
  obtain ⟨holds, evaluated⟩ := decided
  have same : clause.holds context.lookup = holds := by
    rw [Clause.holds, evaluated]
    cases holds <;> rfl
  rw [same, Clause.node, render]
  refine Render.bind_eq_ok.2 ⟨holds, context, test_of_evaluateBool evaluated, ?_⟩
  cases holds with
  | false => rfl
  | true => exact Render.bind_eq_ok.2 ⟨true, _, render_ofText_of_unopened unopened, rfl⟩

section

variable {clauses : List Clause} {enclose : String → String}
  (unopened : ∀ clause ∈ clauses, ¬['$', '{'] <:+: (enclose clause.sql).toList)
  (decided : ∀ clause ∈ clauses, ∃ holds,
    Expr.evaluateBool clause.test context.lookup = .ok holds)
include unopened decided

theorem renderAll_clauses : renderAll (clauses.map (·.node enclose)) context =
    (.ok (), context.append (Clause.written enclose context.lookup clauses)) := by
  induction clauses generalizing context with
  | nil => simp [renderAll, Clause.written, Clause.active, String.join, Context.append]
  | cons clause rest ih =>
    rw [List.forall_mem_cons] at unopened decided
    refine Render.bind_eq_ok.2 ⟨_, _, render_clause unopened.1 decided.1, ?_⟩
    cases holds : clause.holds context.lookup with
    | false =>
      rw [if_neg (by simp), ih unopened.2 decided.2]
      simp [Clause.written, Clause.active, holds]
    | true =>
      -- what is written leaves alone what the tests read
      have scope : (context.append (enclose clause.sql)).lookup = context.lookup := rfl
      rw [if_pos rfl, ih unopened.2 (by rw [scope]; exact decided.2), scope]
      simp [Clause.written, Clause.active, holds, Context.append, String.append_assoc]

theorem render_ofList_clauses : ∃ applied, (ofList (clauses.map (·.node enclose))).render context =
    (.ok applied, context.append (Clause.written enclose context.lookup clauses)) := by
  have all := renderAll_clauses unopened decided
  unfold ofList
  split
  next node same =>
    rw [same] at all
    obtain ⟨applied, after, wrote, done⟩ := Render.bind_eq_ok.1 all
    cases done
    exact ⟨applied, wrote⟩
  next => exact ⟨true, Render.bind_eq_ok.2 ⟨(), _, all, rfl⟩⟩

theorem render_trim_clauses {style : TrimStyle} {keyword separator : String}
    (before : style.before = some keyword) (after : style.after = none)
    (tight : ∀ part ∈ clauses.map (·.sql.toList), Tight part) (blank : style.strip [] = [])
    (stripped : ∀ {parts : List (List Char)}, parts ≠ [] → parts ⊆ clauses.map (·.sql.toList) →
      style.strip (parts.flatMap fun part => (enclose (String.ofList part)).toList) =
        separator.toList.intercalate parts) :
    ∃ applied, (trim style (ofList (clauses.map (·.node enclose)))).render context =
      (.ok applied, context.append
        (listing context.sql keyword separator (Clause.active context.lookup clauses))) := by
  obtain ⟨applied, wrote⟩ :=
    @render_ofList_clauses { context with sql := "" } clauses enclose unopened decided
  change _ = (_, { context with sql := "" ++ Clause.written enclose context.lookup clauses })
    at wrote
  rw [String.empty_append] at wrote
  refine ⟨applied, ?_⟩
  rw [render, TrimStyle.render_of_written wrote, listing, Clause.written]
  have among : (Clause.active context.lookup clauses).map String.toList ⊆
      clauses.map (·.sql.toList) := by
    rw [Clause.active, List.map_map]
    exact List.map_subset _ (List.filter_subset_self _)
  generalize Clause.active context.lookup clauses = active at among
  by_cases none : active = []
  · simp [none, String.join, blank]
  · have some : active.map String.toList ≠ [] := by simpa using none
    have joined : style.strip (String.join (active.map enclose)).toList =
        (separator.intercalate active).toList := by
      simpa [List.flatMap_map] using stripped some among
    have visible : (separator.intercalate active).toList ≠ [] := by
      rw [String.toList_intercalate]
      exact (Text.tight_intercalate _ some fun part mem => tight part (among mem)).nonempty
    rw [joined, if_neg visible, if_neg none, gapAfter_eq, TrimStyle.enclose, before, after,
      String.ofList_toList]
    simp [String.append_assoc]

end

/-- The active clauses are written as a list behind a keyword: conditions joined by `AND`, and
assignments, which do not start with a comma themselves, by commas. -/
theorem render_clauses {clauses : List Clause} (plain : ∀ clause ∈ clauses, clause.Plain)
    (decided : ∀ clause ∈ clauses, ∃ holds,
      Expr.evaluateBool clause.test context.lookup = .ok holds) :
    (∃ applied, (whereClause (clauses.map Clause.conjunct)).render context =
      (.ok applied, context.append
        (listing context.sql "WHERE" " AND " (Clause.active context.lookup clauses)))) ∧
    ((∀ clause ∈ clauses, clause.sql.toList.head? ≠ some ',') →
      ∃ applied, (setClause (clauses.map Clause.assignment)).render context =
        (.ok applied, context.append
          (listing context.sql "SET" ", " (Clause.active context.lookup clauses)))) := by
  have tight : ∀ part ∈ clauses.map (·.sql.toList), Tight part :=
    List.forall_mem_map.2 fun clause mem => (plain clause mem).tight
  refine ⟨?_, fun started => ?_⟩
  · refine render_trim_clauses (fun clause mem => ?_) decided rfl rfl tight (by decide +kernel) ?_
    · simpa [List.infix_cons_iff, List.prefix_cons_iff] using (plain clause mem).unopened
    · intro parts nonempty among
      simpa using TrimStyle.strip_conjuncts nonempty fun part mem => tight part (among mem)
  · refine render_trim_clauses (fun clause mem => ?_) decided rfl rfl tight (by decide +kernel) ?_
    · have apart (front : List Char) : ['$', '{'] ≠ front ++ [','] := fun same => by
        simpa using congrArg List.getLast? same
      simpa [List.infix_cons_iff, List.prefix_cons_iff, List.infix_concat_iff,
        List.suffix_concat_iff, apart] using (plain clause mem).unopened
    · intro parts nonempty among
      have apart : ∀ part ∈ clauses.map (·.sql.toList), part.head? ≠ some ',' :=
        List.forall_mem_map.2 started
      simpa using TrimStyle.strip_assignments nonempty (fun part mem => tight part (among mem))
        fun part mem => apart part (among mem)

def changes : List Clause :=
  [⟨"missing != null", "gone = 1"⟩, ⟨"name != null", "and = name,"⟩, ⟨"age > 17", "age = 18 AND"⟩]

def named : Context :=
  { Context.initial (.map [("age", .int 31), ("name", .text "a")]) none with sql := "update t" }

theorem render_clauses_changes :
    (∀ clause ∈ changes, clause.Plain) ∧
    (∃ applied, (whereClause (changes.map Clause.conjunct)).render named =
      (.ok applied, named.append " WHERE and = name, AND age = 18 AND")) ∧
    (∃ applied, (setClause (changes.map Clause.assignment)).render named =
      (.ok applied, named.append " SET and = name,, age = 18 AND")) := by
  have plain : ∀ clause ∈ changes, clause.Plain := by decide +kernel
  have decided : ∀ clause ∈ changes, ∃ holds,
      Expr.evaluateBool clause.test named.lookup = .ok holds := by
    have each : ∀ clause ∈ changes, (Expr.evaluateBool clause.test named.lookup).isOk := by
      decide +kernel
    exact fun clause mem => exists_of_isOk (each clause mem)
  have conditions : listing named.sql "WHERE" " AND " (Clause.active named.lookup changes) =
      " WHERE and = name, AND age = 18 AND" := by
    decide +kernel
  have assignments : listing named.sql "SET" ", " (Clause.active named.lookup changes) =
      " SET and = name,, age = 18 AND" := by
    decide +kernel
  rw [← conditions, ← assignments]
  obtain ⟨whole, each⟩ := render_clauses plain decided
  exact ⟨plain, whole, each (by decide +kernel)⟩

end Node

end MappedSql
