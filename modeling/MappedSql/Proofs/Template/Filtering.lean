import MappedSql.Proofs.Template.Registration
import MappedSql.Proofs.Template.Rendering

namespace MappedSql

theorem Node.spliced_eq_ok {filter : Option Filter} {content shown : String}
    {before after : Context} : spliced filter content before = (.ok shown, after) ↔
      spliced none content before = (.ok shown, after) ∧
        ∀ check ∈ filter, check.pattern.spans shown = true := by
  cases filter with
  | none => simp
  | some check =>
    simp only [spliced, Render.bind_eq_ok]
    constructor
    · rintro ⟨value, between, evaluated, done⟩
      revert done
      generalize given : (if value.isNull then "" else value.display) = text
      split
      next spans =>
        rintro ⟨⟩
        exact ⟨⟨value, _, evaluated, by rw [given]; rfl⟩, by rintro _ ⟨⟩; exact spans⟩
      next => rintro ⟨⟩
    · rintro ⟨⟨value, between, evaluated, done⟩, spans⟩
      obtain ⟨rfl, rfl⟩ := Render.pure_eq_ok.1 done
      exact ⟨value, _, evaluated, by rw [if_pos (spans check rfl)]; rfl⟩

namespace Render

def Observation.Passes (filter : Option Filter) : Observation → Prop
  | evaluated _ => True
  | spliced own shown => ∀ check ∈ own.or filter, check.pattern.spans shown = true

variable {α β : Type} {filter : Option Filter}

structure Screens (filter : Option Filter) (guarded : Render α) (free : Observed α) : Prop where
  eq_ok : ∀ context after a, guarded context = (.ok a, after) ↔
    free.run context = (.ok a, after) ∧ ∀ event ∈ free.events context, event.Passes filter

namespace Screens

theorem silent (step : Render α) : Screens filter step (Observed.silent step) :=
  ⟨by simp [Observed.silent]⟩

theorem pure (a : α) : Screens filter (Pure.pure a) (Pure.pure a) :=
  silent _

theorem evaluating (source : String) (step : Render α) :
    Screens filter step (Observed.evaluating source step) :=
  ⟨by simp [Observed.evaluating, Observation.Passes]⟩

theorem bind {guarded : Render α} {free : Observed α} {next : α → Render β}
    {freeNext : α → Observed β} (first : Screens filter guarded free)
    (second : ∀ a, Screens filter (next a) (freeNext a)) :
    Screens filter (guarded >>= next) (free >>= freeNext) := by
  refine ⟨fun context after b => ?_⟩
  simp only [bind_eq_ok, first.eq_ok, (second _).eq_ok, Observed.run_bind, Observed.mem_events_bind]
  constructor
  · rintro ⟨a, between, ⟨ran, passed⟩, ranNext, passedNext⟩
    refine ⟨⟨a, between, ran, ranNext⟩, ?_⟩
    rintro event (mem | ⟨_, _, again, mem⟩)
    · exact passed event mem
    -- the free run is a function, so what it went on with is what the guarded one went on with
    · obtain ⟨⟨⟩, rfl⟩ := Prod.mk.inj (again.symm.trans ran)
      exact passedNext event mem
  · rintro ⟨⟨a, between, ran, ranNext⟩, passed⟩
    exact ⟨a, between, ⟨ran, fun event mem => passed event (.inl mem)⟩, ranNext,
      fun event mem => passed event (.inr ⟨a, between, ran, mem⟩)⟩

theorem splicing (own : Option Filter) (content : String) :
    Screens filter (Node.spliced (own.or filter) content) (Observed.splicing own none content) := by
  refine ⟨fun context after shown => ?_⟩
  rw [Node.spliced_eq_ok]
  refine and_congr_right fun ran => ?_
  simp only [Observed.splicing] at ran ⊢
  simp [ran, Observation.Passes]

theorem replaceWith {handler : String → Render String} {free : String → Observed String}
    (each : ∀ content, Screens filter (handler content) (free content)) (pieces : List Piece) :
    Screens filter (Piece.replaceWith handler pieces) (Piece.replaceWith free pieces) := by
  induction pieces with
  | nil => exact pure ""
  | cons piece rest ih =>
    cases piece with
    | plain text => exact ih.bind fun tail => pure _
    | token content => exact (each _).bind fun replaced => ih.bind fun tail => pure _

theorem trimming (style : TrimStyle) {guarded : Render Bool} {free : Observed Bool}
    (inside : Screens filter guarded free) :
    Screens filter (style.render guarded) (Observed.trimming style free) := by
  refine ⟨fun context after applied => ?_⟩
  simp only [Observed.trimming, TrimStyle.render, bind_eq_ok, Prod.exists, isolated_eq_ok,
    inside.eq_ok]
  constructor
  · rintro ⟨result, body, middle, ⟨inner, ⟨ran, passed⟩, left⟩, written⟩
    exact ⟨⟨result, body, middle, ⟨inner, ran, left⟩, written⟩, passed⟩
  · rintro ⟨⟨result, body, middle, ⟨inner, ran, left⟩, written⟩, passed⟩
    exact ⟨result, body, middle, ⟨inner, ⟨ran, passed⟩, left⟩, written⟩

variable {guarded : Render Bool} {free : Observed Bool}

theorem round (inside : Screens filter guarded free) (loop : Loop) (entry : Value × Value) :
    Screens filter (loop.round guarded entry) (Observed.round loop free entry) := by
  refine ⟨fun context after fragment => ?_⟩
  simp only [Observed.round, Loop.round_eq_ok, inside.eq_ok]
  constructor
  · rintro ⟨result, inner, ⟨ran, passed⟩, written⟩
    exact ⟨⟨result, inner, ran, written⟩, passed⟩
  · rintro ⟨⟨result, inner, ran, written⟩, passed⟩
    exact ⟨result, inner, ⟨ran, passed⟩, written⟩

theorem rounds (inside : Screens filter guarded free) (loop : Loop)
    (entries : List (Value × Value)) :
    Screens filter (loop.rounds guarded entries) (Observed.rounds loop free entries) := by
  induction entries with
  | nil => exact pure []
  | cons entry rest ih =>
    exact (inside.round loop entry).bind fun fragment => ih.bind fun others => pure _

theorem restoring (loop : Loop) {body : Render (List String)} {freeBody : Observed (List String)}
    (screens : Screens filter body freeBody) :
    Screens filter (loop.restoring body) (Observed.restoring loop freeBody) := by
  refine ⟨fun context after fragments => ?_⟩
  simp only [Observed.restoring, Loop.restoring_eq_ok, screens.eq_ok]
  constructor
  · rintro ⟨inner, ⟨ran, passed⟩, restored⟩
    exact ⟨⟨inner, ran, restored⟩, passed⟩
  · rintro ⟨⟨inner, ran, restored⟩, passed⟩
    exact ⟨inner, ⟨ran, passed⟩, restored⟩

theorem looping (inside : Screens filter guarded free) (loop : Loop) :
    Screens filter (loop.render guarded) (Observed.looping loop free) := by
  refine (evaluating loop.collection loop.entries).bind fun found => ?_
  cases found with
  | none => exact pure true
  | some entries =>
    refine ((inside.rounds loop entries).restoring loop).bind fun fragments => ?_
    exact (silent _).bind fun _ => pure true

end Screens

end Render

namespace TemplateRules

def unfiltered (rules : TemplateRules) (variableTexts : Fields String) : Rendition where
  variableTexts := variableTexts
  nullable := rules.nullableLoops
  guard _ := none

end TemplateRules

namespace Node

open Render (Observed Screens)

variable (rules : TemplateRules) (variableTexts : Fields String)

theorem screens_text (raw : String) (own : Option Filter) :
    Screens rules.filter (rules.made variableTexts (text raw own)).render
      (tracedText (rules.unfiltered variableTexts) raw own) := by
  unfold tracedText
  rcases rules.made_text variableTexts raw own with ⟨made, same, becomes⟩ | ⟨made, same, becomes⟩
  · simp only [TemplateRules.unfiltered, same, becomes, render]
    refine .bind (.replaceWith (Screens.splicing own) _) fun rendered => ?_
    exact (Screens.silent _).bind fun _ => .pure true
  · simp only [TemplateRules.unfiltered, same, becomes]
    exact .silent _

mutual

theorem screens_traced : ∀ node : Node, Screens rules.filter (rules.made variableTexts node).render
    (node.traced (rules.unfiltered variableTexts))
  | static s => by rw [rules.made_static]; exact .silent _
  | text raw own => screens_text rules variableTexts raw own
  | mixed children => by
      rw [rules.made_mixed, render, traced]
      exact (screens_tracedAll children).bind fun _ => .pure true
  | cond source contents => by
      rw [rules.made_cond, render, traced]
      refine (Screens.evaluating source _).bind fun holds => ?_
      cases holds with
      | true => exact (screens_traced contents).bind fun _ => .pure true
      | false => exact .pure false
  | choose branches otherwise => by
      rw [rules.made_choose, render, traced]
      exact screens_tracedChoice branches (screens_tracedOtherwise otherwise)
  | trim style contents => by
      rw [rules.made_trim, render, traced]
      exact (screens_traced contents).trimming style
  | forEach loop contents => by
      rw [rules.made_forEach, render, traced]
      exact (screens_traced contents).looping _
  | bind name source => by rw [rules.made_bind]; exact .evaluating source _

theorem screens_tracedAll : ∀ nodes : List Node,
    Screens rules.filter (renderAll (nodes.map (rules.made variableTexts)))
      (tracedAll (rules.unfiltered variableTexts) nodes)
  | [] => by rw [tracedAll, List.map_nil, renderAll]; exact .pure ()
  | node :: rest => by
      rw [tracedAll, List.map_cons, renderAll]
      exact (screens_traced node).bind fun _ => screens_tracedAll rest

theorem screens_tracedOtherwise : ∀ otherwise : Option Node,
    Screens rules.filter (renderOtherwise (otherwise.map (rules.made variableTexts)))
      (tracedOtherwise (rules.unfiltered variableTexts) otherwise)
  | none => by rw [tracedOtherwise, Option.map_none, renderOtherwise]; exact .pure false
  | some contents => by
      rw [tracedOtherwise, Option.map_some, renderOtherwise]
      exact (screens_traced contents).bind fun _ => .pure true

theorem screens_tracedChoice : ∀ (branches : List (String × Node)) {last : Render Bool}
    {otherwise : Observed Bool}, Screens rules.filter last otherwise →
    Screens rules.filter
      (renderChoice last (branches.map (Prod.map id (rules.made variableTexts))))
      (tracedChoice (rules.unfiltered variableTexts) otherwise branches)
  | [], _, _, screens => by rw [tracedChoice, List.map_nil, renderChoice]; exact screens
  | (source, contents) :: rest, _, _, screens => by
      rw [tracedChoice, List.map_cons, Prod.map_apply, renderChoice]
      refine (Screens.evaluating source _).bind fun holds => ?_
      cases holds with
      | true => exact (screens_traced contents).bind fun _ => .pure true
      | false => exact screens_tracedChoice rest screens

end

end Node

namespace SqlSource

open Render (Observed Observation)

/-- Whatever is spliced into the SQL of a statement matches the filter of the text that it is
spliced into, or that of the configuration if this text has none. -/
theorem boundSql_screened {rules : TemplateRules} {template : Node} {type : ValueType}
    {variableTexts : Fields String} {setting : CompileSetting} {source : SqlSource}
    {parameter : Value} {bound : BoundSql}
    (created : rules.createSource template type variableTexts setting = .ok source)
    (bounded : source.boundSql parameter setting = .ok bound) :
    let free := template.traced (rules.unfiltered variableTexts)
    let initial := Context.initial parameter setting.databaseId
    (∃ applied after subject marked, free.run initial = (.ok applied, after) ∧
      MarkedSql.ofText subject (finishSql after.sql setting.shrinkWhitespace) = .ok marked ∧
      bound.sql = marked.sql ∧ bound.mappings = marked.mappings) ∧
    ∀ own shown, Observation.spliced own shown ∈ free.events initial →
      ∀ check ∈ own.or rules.filter, check.pattern.spans shown = true := by
  intro free initial
  obtain ⟨applied, after, rendered, subject, marked, marks, sql, mappings⟩ :=
    rendered_of_boundSql created bounded
  obtain ⟨ran, passed⟩ :=
    ((Node.screens_traced rules variableTexts template).eq_ok _ _ _).1 rendered
  exact ⟨⟨applied, after, subject, marked, ran, marks, sql, mappings⟩,
    fun own shown mem => passed (.spliced own shown) mem⟩

def letters : Filter where
  source := "[a-z]*"
  pattern := .repeated (.oneOf Char.isLower) 0 none true

def digits : Filter where
  source := "[0-9]+"
  pattern := .repeated (.oneOf Char.isDigit) 1 none true

def eachId : Loop where
  collection := "ids"
  item := some "id"
  opening := some " ("
  closing := some ")"
  separator := some ","

def splicing : Node :=
  .mixed [.text "select $\x7bcolumn\x7d from $\x7btable\x7d" none,
    .whereClause [.cond "ids != null" (.mixed [.static "id in",
      .forEach eachId (.text "$\x7bid\x7d" (some digits))])],
    .text " $\x7border\x7d" none]

def splicingRules : TemplateRules where
  filter := some letters

def onTable : CompileSetting :=
  ⟨.initial, none, false⟩

def namesOf : Value :=
  .map [("column", .text "name"), ("ids", .list [.int 7, .int 8])]

theorem boundSql_screened_splicing : ∃ source bound,
    splicingRules.createSource splicing .any [("table", "T1")] onTable = .ok source ∧
    source.boundSql namesOf onTable = .ok bound ∧
    bound.sql = "select name from T1 WHERE id in (7,8)" ∧
    ∀ own shown, Observation.spliced own shown ∈
        (splicing.traced (splicingRules.unfiltered [("table", "T1")])).events
          (Context.initial namesOf onTable.databaseId) →
      ∀ check ∈ own.or splicingRules.filter, check.pattern.spans shown = true := by
  have went : ((splicingRules.createSource splicing .any [("table", "T1")] onTable >>=
      (·.boundSql namesOf onTable)).toOption.any
        (·.sql == "select name from T1 WHERE id in (7,8)")) = true := by
    decide +kernel
  simp only [Option.any_eq_true, toOption_eq_some, bind_eq_ok, beq_iff_eq] at went
  obtain ⟨bound, ⟨source, created, bounded⟩, sql⟩ := went
  exact ⟨source, bound, created, bounded, sql, (boundSql_screened created bounded).2⟩

end SqlSource

end MappedSql
