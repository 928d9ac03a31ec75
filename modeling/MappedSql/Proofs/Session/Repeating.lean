import Mathlib.Algebra.GroupWithZero.Nat
import MappedSql.Interception.Scripted
import MappedSql.Proofs.Configuration
import MappedSql.Proofs.Execution.Calls
import MappedSql.Proofs.Execution.Repeating
import MappedSql.Proofs.Session.Proceeding
import MappedSql.Proofs.Session.Renewal

/-!
# Selects that are asked again

Between two calls that clear what a session keeps, its selects with equal keys are executed once at
most, and have the rows of that execution from then on, whatever other sessions do meanwhile
(`Desk.once_of_moves`). Interceptors that only proceed do not change this.
-/

namespace MappedSql

variable {σ : Type}

open Executor (Spares)

/-! ## Calls that keep and clear nothing -/

namespace Session

def Call.Clears (pipeline : Pipeline σ) : Call → Prop
  | .list id _ | .one id | .cursor id _ | .select id _ _ _ =>
      ∃ statement, pipeline.configuration.statement id = .ok statement ∧ statement.flushCache = true
  | .flush => False
  | .update _ | .commit _ | .rollback _ | .clearCache | .close => True

variable {α : Type} {pipeline : Pipeline σ}

instance (id : String) : Decidable (∃ statement,
    pipeline.configuration.statement id = .ok statement ∧ statement.flushCache = true) :=
  decidable_of_iff (∃ statement ∈ (pipeline.configuration.statement id).toOption,
    statement.flushCache = true) (by simp [toOption_eq_some])

instance : DecidablePred (Call.Clears pipeline)
  | .list id _ | .one id | .cursor id _ | .select id _ _ _ =>
      inferInstanceAs (Decidable (∃ statement,
        pipeline.configuration.statement id = .ok statement ∧ statement.flushCache = true))
  | .flush => inferInstanceAs (Decidable False)
  | .update _ | .commit _ | .rollback _ | .clearCache | .close => inferInstanceAs (Decidable True)

def Act.Spares (act : Act σ α) : Prop :=
  ∀ scene : SessionScene σ, scene.session.executor.Spares (act scene).2.session.executor

theorem Act.Spares.bind {β : Type} {act : Act σ α} {next : α → Act σ β} (first : Act.Spares act)
    (second : ∀ a, Act.Spares (next a)) : Act.Spares (act >>= next) :=
  Action.related_bind (fun before after : SessionScene σ =>
    before.session.executor.Spares after.session.executor) Executor.Spares.trans first second

theorem Act.Spares.of_frames {work : Work σ α} (frames : Work.Frames work) (context : String) :
    Act.Spares ((perform work).inContext context) := fun scene =>
  ⟨(frames (toScene scene)).localCache, (frames (toScene scene)).staging⟩

theorem spares_flush (plain : pipeline.Plain) : Act.Spares (flush pipeline) := by
  refine .of_frames ?_ _
  rw [Executor.flush, plain.call_eq]
  exact Executor.Local.frames_flush

theorem spares_cursor (plain : pipeline.Plain) {id : String} (bounds : RowBounds)
    (quiet : ¬Call.Clears pipeline (.cursor id bounds)) :
    Act.Spares (cursor pipeline id bounds) := by
  intro scene
  unfold cursor
  cases found : pipeline.configuration.statement id with
  | error e => exact ⟨rfl, rfl⟩
  | ok statement =>
      have unflushed : statement.flushCache = false := by
        cases flushes : statement.flushCache with
        | false => rfl
        | true => exact absurd ⟨statement, found, flushes⟩ quiet
      exact Act.Spares.of_frames
        (Executor.frames_queryCursor plain unflushed scene.parameter) _ scene

theorem spares_select (plain : pipeline.Plain) {id : String} (bounds : RowBounds) {τ : Type}
    (receive : Nat → Value → Action τ Bool) (receiver : τ)
    (quiet : ¬Call.Clears pipeline (.cursor id bounds)) :
    Act.Spares (select pipeline id bounds receive receiver) := by
  have opened : Act.Spares (cursor pipeline id bounds).attempt := spares_cursor plain bounds quiet
  refine opened.bind fun result => ?_
  split <;> exact fun _ => ⟨rfl, rfl⟩

/-! ## Selects that go through -/

/-- A select that went through, with the data source before and after it. One that asked for a
single row is among them also if there were more. -/
structure Selected (σ : Type) where
  statement : MappedStatement
  bounds : RowBounds
  key : CacheKey
  rows : List Value
  before : σ
  after : σ

def selected? (pipeline : Pipeline σ) (id : String) (bounds : RowBounds) (scene : SessionScene σ) :
    Option (Selected σ) :=
  match pipeline.configuration.statement id with
  | .error _ => none
  | .ok statement =>
      match Executor.keyFor pipeline statement scene.parameter bounds,
          list pipeline id bounds scene with
      | .ok key, (.ok rows, after) =>
          some ⟨statement, bounds, key, rows, scene.source, after.source⟩
      | _, _ => none

theorem selected?_of_failed {id : String} {bounds : RowBounds} {scene after : SessionScene σ}
    {e : Error} (failed : list pipeline id bounds scene = (.error e, after)) :
    selected? pipeline id bounds scene = none := by
  unfold selected?
  rw [failed]
  split
  · rfl
  · split
    · simp_all
    · rfl

theorem selected?_of_done {id : String} {bounds : RowBounds} {scene after : SessionScene σ}
    {statement : MappedStatement} {key : CacheKey} {rows : List Value}
    (found : pipeline.configuration.statement id = .ok statement)
    (keyed : Executor.keyFor pipeline statement scene.parameter bounds = .ok key)
    (done : list pipeline id bounds scene = (.ok rows, after)) :
    selected? pipeline id bounds scene =
      some ⟨statement, bounds, key, rows, scene.source, after.source⟩ := by
  simp only [selected?, found, keyed, done]

def Selected.Keyed (pipeline : Pipeline σ) (selected : Selected σ) : Prop :=
  ∃ id parameter, pipeline.configuration.statement id = .ok selected.statement ∧
    Executor.keyFor pipeline selected.statement parameter selected.bounds = .ok selected.key

theorem Selected.Keyed.statement_eq (filed : pipeline.configuration.Filed)
    {first second : Selected σ} (left : first.Keyed pipeline) (right : second.Keyed pipeline)
    (same : first.key.same second.key) : first.statement = second.statement := by
  obtain ⟨id, parameter, found, keyed⟩ := left
  obtain ⟨id', parameter', found', keyed'⟩ := right
  obtain ⟨bound, -, key⟩ := bind_eq_ok.1 keyed
  obtain ⟨bound', -, key'⟩ := bind_eq_ok.1 keyed'
  have ids := (Executor.parts_of_same key key' same).1
  rw [filed id _ found, filed id' _ found'] at ids
  rw [ids, found'] at found
  exact (Except.ok.inj found).symm

def Holds (pipeline : Pipeline σ) (selected : Selected σ) (session : Session) : Prop :=
  session.executor.Holds (pipeline.cacheOf selected.statement) selected.key selected.rows

def Selected.Maps (latest : σ → ResultSet) (selected : Selected σ) : Prop :=
  (latest selected.after).mapRows selected.statement.mapper selected.bounds = .ok selected.rows

def Call.selected? (pipeline : Pipeline σ) (call : Call) (scene : SessionScene σ) :
    Option (Selected σ) :=
  match call.asks? with
  | some (id, bounds) => Session.selected? pipeline id bounds scene
  | none => none

/-! ## One execution for many selects -/

namespace Selected

variable (meter : σ → Nat) (latest : σ → ResultSet)

def executions (selected : Selected σ) : Nat :=
  meter selected.after - meter selected.before

/-- The selects share one execution at most, and have its rows from then on. -/
structure Once (selects : List (Selected σ)) : Prop where
  once : (selects.map (executions meter)).sum ≤ 1
  maps : ∀ selected ∈ selects, 0 < selected.executions meter → selected.Maps latest
  agree : selects.Pairwise fun first later => 0 < first.executions meter → later.rows = first.rows

variable {meter latest} {selected : Selected σ} {rest : List (Selected σ)}

theorem executions_of_idle (idle : selected.after = selected.before) :
    selected.executions meter = 0 := by
  rw [executions, idle, Nat.sub_self]

theorem Once.cons_of_idle (idle : selected.after = selected.before)
    (others : Once meter latest rest) : Once meter latest (selected :: rest) := by
  have none : selected.executions meter = 0 := executions_of_idle idle
  refine ⟨?_, List.forall_mem_cons.2 ⟨fun executed => ?_, others.maps⟩,
    .cons (fun later _ executed => ?_) others.agree⟩
  · simpa [none] using others.once
  · omega
  · omega

theorem Once.cons_of_executed (counted : meter selected.after = meter selected.before + 1)
    (maps : selected.Maps latest)
    (idle : ∀ later ∈ rest, later.rows = selected.rows ∧ later.after = later.before) :
    Once meter latest (selected :: rest) := by
  have none : ∀ later ∈ rest, later.executions meter = 0 := fun later mem =>
    executions_of_idle (idle later mem).2
  have one : selected.executions meter = 1 := by
    rw [executions, counted, Nat.add_sub_cancel_left]
  refine ⟨?_, List.forall_mem_cons.2 ⟨fun _ => maps, fun later mem executed => ?_⟩,
    .cons (fun later mem _ => (idle later mem).1) ?_⟩
  · rw [List.map_cons, List.sum_cons, one, List.map_congr_left none]
    simp
  · exact absurd (none later mem) (Nat.pos_iff_ne_zero.1 executed)
  · exact List.pairwise_of_forall_mem_list fun first mem _ _ executed =>
      absurd (none first mem) (Nat.pos_iff_ne_zero.1 executed)

end Selected

section

variable (plain : pipeline.Plain) (scope : pipeline.configuration.settings.localScope = .session)

include plain scope

/-- A query for rows that does not clear keeps nothing, or is a select that gets its rows in one of
the ways there are. -/
theorem list_cases {id : String} (bounds : RowBounds)
    (quiet : ¬Call.Clears pipeline (.list id bounds)) (scene : SessionScene σ) :
    (selected? pipeline id bounds scene = none ∧
        scene.session.executor.Spares (list pipeline id bounds scene).2.session.executor) ∨
      ∃ selected bound, selected? pipeline id bounds scene = some selected ∧
        selected.Keyed pipeline ∧ selected.before = scene.source ∧
        selected.after = (list pipeline id bounds scene).2.source ∧
        Executor.Answers pipeline ⟨selected.statement, bound, selected.bounds⟩ selected.key
          (toScene scene) (toScene (list pipeline id bounds scene).2) selected.rows := by
  cases found : pipeline.configuration.statement id with
  | error e =>
      have failed := list_of_unknown found bounds scene
      rw [selected?_of_failed failed, failed]
      exact .inl ⟨rfl, rfl, rfl⟩
  | ok statement =>
      have unflushed : statement.flushCache = false := by
        cases flushes : statement.flushCache with
        | false => rfl
        | true => exact absurd ⟨statement, found, flushes⟩ quiet
      have asked : list pipeline id bounds scene =
          (perform (Executor.query pipeline statement scene.parameter bounds)).inContext
            s!"Error querying database for `{id}`" scene := by
        rw [list, found]
        rfl
      rw [perform_apply] at asked
      rcases Executor.answers_query bounds plain unflushed scope scene.parameter (toScene scene)
        with ⟨e, after, failed, spares⟩ | ⟨key, bound, rows, after, keyed, answered, answers⟩
      · rw [failed] at asked
        rw [selected?_of_failed asked, asked]
        exact .inl ⟨rfl, spares⟩
      · rw [answered] at asked
        rw [selected?_of_done found keyed asked, asked]
        exact .inr ⟨_, bound, rfl, ⟨id, scene.parameter, found, keyed⟩, rfl, rfl, answers⟩

theorem Call.act_cases {call : Call} (quiet : ¬call.Clears pipeline) (scene : SessionScene σ) :
    (call.selected? pipeline scene = none ∧
        scene.session.executor.Spares (call.act pipeline scene).2.session.executor) ∨
      ∃ selected bound, call.selected? pipeline scene = some selected ∧
        selected.Keyed pipeline ∧ selected.before = scene.source ∧
        selected.after = (call.act pipeline scene).2.source ∧
        Executor.Answers pipeline ⟨selected.statement, bound, selected.bounds⟩ selected.key
          (toScene scene) (toScene (call.act pipeline scene).2) selected.rows := by
  cases call with
  | list id bounds =>
      rw [act, bind_pure_after]
      exact list_cases plain scope bounds quiet scene
  | one id =>
      rw [act, bind_pure_after, one_after]
      exact list_cases plain scope .unbounded quiet scene
  | cursor id bounds =>
      rw [act, bind_pure_after]
      exact .inl ⟨rfl, spares_cursor plain bounds quiet scene⟩
  | select id bounds receive receiver =>
      rw [act, bind_pure_after]
      exact .inl ⟨rfl, spares_select plain bounds receive receiver quiet scene⟩
  | flush =>
      rw [act, bind_pure_after]
      exact .inl ⟨rfl, spares_flush plain scene⟩
  | update | commit | rollback | clearCache | close => exact absurd trivial quiet

theorem Call.holds_act {call : Call} (quiet : ¬call.Clears pipeline)
    (filed : pipeline.configuration.Filed) {first : Selected σ} (keyed : first.Keyed pipeline)
    (scene : SessionScene σ) (holds : scene.session.Holds pipeline first) :
    (call.act pipeline scene).2.session.Holds pipeline first ∧
      ∀ later ∈ call.selected? pipeline scene, first.key.same later.key →
        later.rows = first.rows ∧ later.after = later.before := by
  rcases Call.act_cases plain scope quiet scene with
    ⟨none, spares⟩ | ⟨later, bound, some, keyed', before, after, answers⟩
  · refine ⟨spares.holds holds, fun later mem => ?_⟩
    rw [none] at mem
    cases mem
  · have agree (same : first.key.same later.key) :
        pipeline.cacheOf later.statement = pipeline.cacheOf first.statement := by
      rw [keyed.statement_eq filed keyed' same]
    have holds : (toScene scene).executor.Holds _ _ _ := holds
    obtain ⟨kept, same⟩ := holds.answers answers agree
    refine ⟨kept, fun other mem equal => ?_⟩
    obtain rfl : later = other := Option.some.inj (some.symm.trans mem)
    rw [before, after]
    exact same equal

theorem Call.executed_act {call : Call} (quiet : ¬call.Clears pipeline) {meter : σ → Nat}
    {latest : σ → ResultSet} (meters : pipeline.source.Meters meter latest) {scene : SessionScene σ}
    {selected : Selected σ} (mem : selected ∈ call.selected? pipeline scene) :
    selected.Keyed pipeline ∧ (selected.after = selected.before ∨
      meter selected.after = meter selected.before + 1 ∧ selected.Maps latest ∧
        (call.act pipeline scene).2.session.Holds pipeline selected) := by
  rcases Call.act_cases plain scope quiet scene with
    ⟨none, -⟩ | ⟨own, bound, some, keyed, before, after, answers⟩
  · rw [none] at mem
    cases mem
  · obtain rfl : own = selected := Option.some.inj (some.symm.trans mem)
    refine ⟨keyed, ?_⟩
    rw [before, after]
    refine (answers.executed meters plain).imp_right fun executed => ?_
    refine ⟨executed.1, ?_, executed.2.2⟩
    rw [Selected.Maps, after]
    exact executed.2.1

end

end Session

namespace Desk

open Session (Selected)

/-! ## Runs of a desk -/

/-- The move clears what a session keeps, or lets go of the session. -/
def Move.Clears (pipeline : Pipeline σ) (name : String) : Move σ → Prop
  | .opens own _ _ _ _ | .drops own => own = name
  | .calls own _ call => own = name ∧ call.Clears pipeline
  | .elsewhere _ => False

def selected? (pipeline : Pipeline σ) (name : String) (desk : Desk σ) : Move σ → Option (Selected σ)
  | .calls own parameter call =>
      if own = name then
        (desk.sessions.lookup name).bind fun session =>
          call.selected? pipeline ⟨desk.source, desk.shared, session, parameter⟩
      else none
  | .opens _ _ _ _ _ | .drops _ | .elsewhere _ => none

def selections (pipeline : Pipeline σ) (name : String) (desk : Desk σ) :
    List (Move σ) → List (Selected σ)
  | [] => []
  | move :: rest =>
      (desk.selected? pipeline name move).toList ++
        (desk.play pipeline move).selections pipeline name rest

def Holds (pipeline : Pipeline σ) (name : String) (selected : Selected σ) (desk : Desk σ) : Prop :=
  ∀ session, desk.sessions.lookup name = some session → session.Holds pipeline selected

variable {pipeline : Pipeline σ} {name : String} {desk : Desk σ} {move : Move σ}

instance : DecidablePred (Move.Clears pipeline name)
  | .opens own _ _ _ _ | .drops own => inferInstanceAs (Decidable (own = name))
  | .calls own _ call => inferInstanceAs (Decidable (own = name ∧ call.Clears pipeline))
  | .elsewhere _ => inferInstanceAs (Decidable False)

theorem play_cases (desk : Desk σ) (quiet : ¬move.Clears pipeline name) :
    (desk.selected? pipeline name move = none ∧
        (desk.play pipeline move).sessions.lookup name = desk.sessions.lookup name) ∨
      ∃ session parameter, ∃ call : Session.Call, ¬call.Clears pipeline ∧
        desk.sessions.lookup name = some session ∧
        desk.selected? pipeline name move =
          call.selected? pipeline ⟨desk.source, desk.shared, session, parameter⟩ ∧
        (desk.play pipeline move).sessions.lookup name =
          some (call.act pipeline ⟨desk.source, desk.shared, session, parameter⟩).2.session := by
  -- a move that opens or drops the session itself would clear it
  cases move with
  | opens own kind transaction autocommit drains =>
      have differ : name ≠ own := fun same => quiet same.symm
      refine .inl ⟨rfl, ?_⟩
      rw [play, putSession]
      split <;> exact Named.lookup_put_of_ne _ _ differ
  | calls own parameter call =>
      by_cases same : own = name
      · subst same
        have quiet : ¬call.Clears pipeline := fun clears => quiet ⟨rfl, clears⟩
        rw [play, selected?, if_pos rfl]
        cases found : desk.sessions.lookup own with
        | none => exact .inl ⟨rfl, found⟩
        | some session =>
            exact .inr ⟨session, parameter, call, quiet, rfl, rfl, Named.lookup_put_self _ _ _⟩
      · refine .inl ⟨by rw [selected?, if_neg same], ?_⟩
        rw [play]
        split
        · exact Named.lookup_put_of_ne _ _ (Ne.symm same)
        · rfl
  | drops own =>
      have differ : name ≠ own := fun same => quiet same.symm
      refine .inl ⟨rfl, ?_⟩
      rw [play, dropSession]
      split
      · exact Named.lookup_remove_of_ne _ differ
      · rfl
  | elsewhere source => exact .inl ⟨rfl, rfl⟩

section

variable (plain : pipeline.Plain) (scope : pipeline.configuration.settings.localScope = .session)
  (filed : pipeline.configuration.Filed)

include plain scope filed

theorem holds_play (quiet : ¬move.Clears pipeline name) {first : Selected σ}
    (keyed : first.Keyed pipeline) (holds : desk.Holds pipeline name first) :
    (desk.play pipeline move).Holds pipeline name first ∧
      ∀ later ∈ desk.selected? pipeline name move, first.key.same later.key →
        later.rows = first.rows ∧ later.after = later.before := by
  rcases play_cases desk quiet with
    ⟨none, same⟩ | ⟨session, parameter, call, quiet, found, asked, left⟩
  · refine ⟨fun session present => holds session (same ▸ present), fun later mem => ?_⟩
    rw [none] at mem
    cases mem
  · obtain ⟨kept, agree⟩ := Session.Call.holds_act plain scope quiet filed keyed
      ⟨desk.source, desk.shared, session, parameter⟩ (holds session found)
    rw [asked]
    refine ⟨fun after present => ?_, agree⟩
    obtain rfl := Option.some.inj (left.symm.trans present)
    exact kept

theorem same_of_holds {moves : List (Move σ)} (quiet : ∀ move ∈ moves, ¬move.Clears pipeline name)
    {first : Selected σ} (keyed : first.Keyed pipeline) (holds : desk.Holds pipeline name first) :
    ∀ later ∈ desk.selections pipeline name moves, first.key.same later.key →
      later.rows = first.rows ∧ later.after = later.before := by
  induction moves generalizing desk with
  | nil => exact fun _ no => by cases no
  | cons move rest ih =>
      obtain ⟨quiet, others⟩ := List.forall_mem_cons.1 quiet
      obtain ⟨kept, now⟩ := holds_play plain scope filed quiet keyed holds
      intro later mem
      rcases List.mem_append.1 mem with here | there
      · exact now later (Option.mem_toList.1 here)
      · exact ih others kept later there

omit filed in
theorem executed_play (quiet : ¬move.Clears pipeline name) {meter : σ → Nat}
    {latest : σ → ResultSet} (meters : pipeline.source.Meters meter latest) {selected : Selected σ}
    (mem : selected ∈ desk.selected? pipeline name move) :
    selected.Keyed pipeline ∧ (selected.after = selected.before ∨
      meter selected.after = meter selected.before + 1 ∧ selected.Maps latest ∧
        (desk.play pipeline move).Holds pipeline name selected) := by
  rcases play_cases desk quiet with
    ⟨none, -⟩ | ⟨session, parameter, call, quiet, found, asked, left⟩
  · rw [none] at mem
    cases mem
  · rw [asked] at mem
    obtain ⟨keyed, executed⟩ := Session.Call.executed_act plain scope quiet meters mem
    refine ⟨keyed, executed.imp_right fun executed => ⟨executed.1, executed.2.1, ?_⟩⟩
    intro after present
    obtain rfl := Option.some.inj (left.symm.trans present)
    exact executed.2.2

theorem once_of_meters {moves : List (Move σ)} (quiet : ∀ move ∈ moves, ¬move.Clears pipeline name)
    {meter : σ → Nat} {latest : σ → ResultSet} (meters : pipeline.source.Meters meter latest)
    (key : CacheKey) :
    Selected.Once meter latest
      ((desk.selections pipeline name moves).filter fun selected => key.same selected.key) := by
  induction moves generalizing desk with
  | nil => exact ⟨Nat.zero_le 1, fun _ no => (by cases no), .nil⟩
  | cons move rest ih =>
      obtain ⟨quiet, others⟩ := List.forall_mem_cons.1 quiet
      have later : Selected.Once meter latest
          (((desk.play pipeline move).selections pipeline name rest).filter fun selected =>
            key.same selected.key) := ih others
      rw [selections, List.filter_append]
      cases asked : desk.selected? pipeline name move with
      | none => exact later
      | some selected =>
          obtain ⟨keyed, ways⟩ := executed_play plain scope quiet meters asked
          by_cases same : key.same selected.key
          · rw [Option.toList_some, List.filter_cons, if_pos same]
            -- selects are idle until one is executed, and the session holds the rows of that one
            rcases ways with idle | ⟨counted, maps, holds⟩
            · exact later.cons_of_idle idle
            · refine .cons_of_executed counted maps fun after mem => ?_
              obtain ⟨mem, equal⟩ := List.mem_filter.1 mem
              exact same_of_holds plain scope filed others keyed holds after mem
                (CacheKey.same_trans (CacheKey.same_symm same) equal)
          · rw [Option.toList_some, List.filter_cons, if_neg same]
            exact later

end

section

variable (unobtrusive : pipeline.Unobtrusive)

include unobtrusive

theorem selected?_bare (desk : Desk σ) (move : Move σ) :
    desk.selected? pipeline name move = desk.selected? pipeline.bare name move := by
  have same (id : String) (bounds : RowBounds) (scene : SessionScene σ) :
      Session.selected? pipeline id bounds scene =
        Session.selected? pipeline.bare id bounds scene := by
    unfold Session.selected?
    rw [Session.list_bare unobtrusive]
    rfl
  cases move with
  | calls own parameter call =>
      simp only [selected?, Session.Call.selected?, same]
  | opens | drops | elsewhere => rfl

theorem selections_bare (desk : Desk σ) (moves : List (Move σ)) :
    desk.selections pipeline name moves = desk.selections pipeline.bare name moves := by
  induction moves generalizing desk with
  | nil => rfl
  | cons move rest ih =>
      simp only [selections, selected?_bare unobtrusive, play_bare unobtrusive, ih]

end

theorem clears_bare : Move.Clears pipeline.bare name move ↔ move.Clears pipeline name := by
  cases move with
  | calls own parameter call => cases call <;> rfl
  | opens | drops | elsewhere => rfl

/-! ## Recorded runs -/

/-- A session that keeps rows has a query executed once at most between two calls that clear what it
keeps. The selects with the key of the query share the execution, and those that come after it have
its rows, whatever happens around the session meanwhile. -/
theorem once_of_moves {draft : ConfigurationDraft (Faulty Recording)}
    {pipeline : Pipeline (Faulty Recording)} (built : draft.build = .ok pipeline.configuration)
    (recorded : pipeline.source = Faulty.around Recording.source)
    (unobtrusive : pipeline.Unobtrusive)
    (scope : pipeline.configuration.settings.localScope = .session)
    (desk : Desk (Faulty Recording)) {name : String} {moves : List (Move (Faulty Recording))}
    (quiet : ∀ move ∈ moves, ¬move.Clears pipeline name) (key : CacheKey) :
    Selected.Once (Recording.queries ∘ Faulty.inner) (Recording.latest ∘ Faulty.inner)
      ((desk.selections pipeline name moves).filter fun selected => key.same selected.key) := by
  have filed : pipeline.configuration.Filed := ConfigurationDraft.filed_of_build built
  have meters := Faulty.meters_around Recording.meters
  rw [← recorded] at meters
  rw [selections_bare unobtrusive]
  exact once_of_meters pipeline.plain_bare scope filed
    (fun move mem => mt clears_bare.1 (quiet move mem)) meters key

def pair : Desk (Faulty Recording) where
  source := { inner := { script := { answers := [⟨"select", ["n"], [[.int 7]]⟩] } }, faults := [] }
  shared := [("c", .empty)]
  sessions :=
    [("a", .onTransaction .simple { autocommit := false } false),
      ("b", .onTransaction .reuse { autocommit := false } false)]

def sharing : List (Move (Faulty Recording)) :=
  [.calls "b" .null (.list "q" .unbounded), .calls "a" .null (.list "q" .unbounded),
    .calls "b" .null (.commit false), .calls "a" .null (.one "q"),
    .calls "b" (.map [("n", .int 1)]) (.update "u"), .calls "b" .null (.commit false),
    .calls "a" .null (.list "q" .unbounded)]

def alike (pipeline : Pipeline (Faulty Recording)) (key : CacheKey) :
    List (Selected (Faulty Recording)) :=
  (pair.selections pipeline "a" sharing).filter fun selected => key.same selected.key

def texts (rows : List Value) : List String :=
  rows.map Value.display

def shown (selects : List (Selected (Faulty Recording))) : List (List String × Nat) :=
  selects.map fun selected =>
    (texts selected.rows, selected.executions (Recording.queries ∘ Faulty.inner))

theorem once_of_moves_sharing :
    ∃ pipeline : Pipeline (Faulty Recording),
      ∃ first ∈ (pair.selections pipeline "a" sharing).head?,
        Selected.Once (Recording.queries ∘ Faulty.inner) (Recording.latest ∘ Faulty.inner)
          (alike pipeline first.key) ∧
        shown (alike pipeline first.key) =
          [(["\x7bn=7\x7d"], 1), (["\x7bn=7\x7d"], 0), (["\x7bn=7\x7d"], 0)] := by
  have ran : ∃ configuration ∈ (ConfigurationDraft.observed.withInterceptors
        ConfigurationDraft.observers).build.toOption,
      let pipeline : Pipeline (Faulty Recording) :=
        ⟨configuration, Faulty.around Recording.source, []⟩
      configuration.settings.localScope = .session ∧
        (∀ move ∈ sharing, ¬Move.Clears pipeline "a" move) ∧
        ∃ first ∈ (pair.selections pipeline "a" sharing).head?,
          shown (alike pipeline first.key) =
            [(["\x7bn=7\x7d"], 1), (["\x7bn=7\x7d"], 0), (["\x7bn=7\x7d"], 0)] := by
    decide +kernel
  obtain ⟨configuration, built, scope, quiet, first, mem, outcome⟩ := ran
  have built := toOption_eq_some.1 built
  have proceeds : ∀ interceptor ∈ ConfigurationDraft.observers, interceptor.ProceedsOnly := by
    simp [ConfigurationDraft.observers, Interceptor.proceedsOnly_passing]
  have unobtrusive := ConfigurationDraft.unobtrusive_of_build rfl proceeds built
    (Faulty.around Recording.source)
  exact ⟨_, first, mem, once_of_moves built rfl unobtrusive scope pair quiet first.key, outcome⟩

def replacing : Interceptor (Faulty Recording) where
  name := "replaces"
  signatures := [Method.query.signature]
  intercept := InterceptorScript.intercept (Faulty.around Recording.source) (fun _ _ => id)
    (fun _ _ => id) { replacement := some (.rows [.int 99]) }

theorem exists_replaced :
    ∃ pipeline : Pipeline (Faulty Recording),
      (ConfigurationDraft.observed.withInterceptor replacing).build = .ok pipeline.configuration ∧
      pipeline.source = Faulty.around Recording.source ∧
      pipeline.configuration.settings.localScope = .session ∧
      (∀ move ∈ sharing, ¬Move.Clears pipeline "a" move) ∧
      ∃ key, ¬Selected.Once (Recording.queries ∘ Faulty.inner) (Recording.latest ∘ Faulty.inner)
        (alike pipeline key) := by
  have ran : ∃ configuration ∈
        (ConfigurationDraft.observed.withInterceptor replacing).build.toOption,
      let pipeline : Pipeline (Faulty Recording) :=
        ⟨configuration, Faulty.around Recording.source, []⟩
      configuration.settings.localScope = .session ∧
        (∀ move ∈ sharing, ¬Move.Clears pipeline "a" move) ∧
        ∃ first ∈ (pair.selections pipeline "a" sharing).head?,
          ∃ selected ∈ alike pipeline first.key,
            0 < selected.executions (Recording.queries ∘ Faulty.inner) ∧
            (((Recording.latest ∘ Faulty.inner) selected.after).mapRows selected.statement.mapper
              selected.bounds).toOption.map texts ≠ some (texts selected.rows) := by
    decide +kernel
  obtain ⟨configuration, built, scope, quiet, first, -, selected, mem, executed, differs⟩ := ran
  refine ⟨⟨configuration, Faulty.around Recording.source, []⟩, toOption_eq_some.1 built, rfl, scope,
    quiet, first.key, fun once => differs ?_⟩
  have maps := once.maps selected mem executed
  rw [Selected.Maps] at maps
  rw [maps]
  rfl

end Desk

end MappedSql
