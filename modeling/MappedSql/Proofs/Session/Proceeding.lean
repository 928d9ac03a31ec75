import MappedSql.Database.Faults
import MappedSql.Database.Recording
import MappedSql.Proofs.Configuration
import MappedSql.Proofs.Execution.Proceeding
import MappedSql.Proofs.Session.Visits

namespace MappedSql

variable {σ α : Type}

namespace Session

theorem close_bare (pipeline : Pipeline σ) : close pipeline = close pipeline.bare := by
  simp only [close, Executor.close_bare pipeline]

variable {pipeline : Pipeline σ} (unobtrusive : pipeline.Unobtrusive)

include unobtrusive

theorem list_bare (id : String) (bounds : RowBounds) :
    list pipeline id bounds = list pipeline.bare id bounds := by
  simp only [list, Executor.query_bare unobtrusive, Pipeline.bare_statement]

theorem one_bare (id : String) : one pipeline id = one pipeline.bare id := by
  simp only [one, list_bare unobtrusive]

theorem cursor_bare (id : String) (bounds : RowBounds) :
    cursor pipeline id bounds = cursor pipeline.bare id bounds := by
  simp only [cursor, Executor.queryCursor_bare unobtrusive, Pipeline.bare_statement]

theorem select_bare {τ : Type} (id : String) (bounds : RowBounds)
    (receive : Nat → Value → Action τ Bool) (receiver : τ) :
    select pipeline id bounds receive receiver =
      select pipeline.bare id bounds receive receiver := by
  simp only [select, cursor_bare unobtrusive, Pipeline.bare_source]

theorem update_bare (id : String) : update pipeline id = update pipeline.bare id := by
  simp only [update, Executor.update_bare unobtrusive, Pipeline.bare_statement]

theorem flush_bare : flush pipeline = flush pipeline.bare := by
  simp only [flush, Executor.flush_bare unobtrusive]

theorem commit_bare (force : Bool) : commit pipeline force = commit pipeline.bare force := by
  simp only [commit, Executor.commit_bare unobtrusive]

theorem rollback_bare (force : Bool) : rollback pipeline force = rollback pipeline.bare force := by
  simp only [rollback, Executor.rollback_bare unobtrusive]

theorem Call.act_bare (call : Call) : call.act pipeline = call.act pipeline.bare := by
  cases call <;> simp only [act, list_bare unobtrusive, one_bare unobtrusive,
    cursor_bare unobtrusive, select_bare unobtrusive, update_bare unobtrusive,
    flush_bare unobtrusive, commit_bare unobtrusive, rollback_bare unobtrusive,
    close_bare pipeline]

theorem Call.ask_bare (call : Call) : call.ask pipeline = call.ask pipeline.bare := by
  cases call <;> simp only [ask, list_bare unobtrusive, one_bare unobtrusive,
    cursor_bare unobtrusive, select_bare unobtrusive, update_bare unobtrusive,
    flush_bare unobtrusive, commit_bare unobtrusive, rollback_bare unobtrusive,
    close_bare pipeline]

end Session

namespace Visit

variable {pipeline : Pipeline σ} (unobtrusive : pipeline.Unobtrusive)

include unobtrusive

theorem step_bare (visit : Visit σ) (move : Move) :
    visit.step pipeline move = visit.step pipeline.bare move := by
  cases move with
  | calls parameter call =>
      show visit.ask pipeline parameter call = visit.ask pipeline.bare parameter call
      simp only [ask, Session.Call.ask_bare unobtrusive]
  | next place => rfl
  | closes place => rfl
  | drops place => rfl

theorem replies_bare (visit : Visit σ) (moves : List Move) :
    visit.replies pipeline moves = visit.replies pipeline.bare moves := by
  induction moves generalizing visit with
  | nil => rfl
  | cons move rest ih => simp only [replies, step_bare unobtrusive, ih]

theorem after_bare (visit : Visit σ) (moves : List Move) :
    visit.after pipeline moves = visit.after pipeline.bare moves := by
  simp only [after, step_bare unobtrusive]

end Visit

namespace Desk

variable {pipeline : Pipeline σ} (unobtrusive : pipeline.Unobtrusive)

include unobtrusive

theorem play_bare (desk : Desk σ) (move : Move σ) :
    desk.play pipeline move = desk.play pipeline.bare move := by
  cases move with
  | opens name kind transaction autocommit drains =>
      simp only [play, putSession, closeSession, Session.close_bare pipeline]
  | calls name parameter call => simp only [play, Session.Call.act_bare unobtrusive]
  | drops name => simp only [play, dropSession, closeSession, Session.close_bare pipeline]
  | elsewhere source => rfl

end Desk

namespace ConfigurationDraft

variable {draft : ConfigurationDraft σ} {interceptors : List (Interceptor σ)}
  {configuration : Configuration σ}

def withInterceptors (draft : ConfigurationDraft σ) (interceptors : List (Interceptor σ)) :
    ConfigurationDraft σ :=
  interceptors.foldl withInterceptor draft

theorem build_of_refused (refused : draft.refusal.isSome) : draft.build ≠ .ok configuration := by
  obtain ⟨e, is⟩ := Option.isSome_iff_exists.1 refused
  unfold build
  rw [is]
  nofun

theorem refused_withInterceptors (refused : draft.refusal.isSome) :
    (draft.withInterceptors interceptors).refusal.isSome := by
  induction interceptors generalizing draft with
  | nil => exact refused
  | cons interceptor rest ih =>
      apply ih
      unfold withInterceptor take
      split
      · exact refused
      · simp

theorem interceptor_of_register {interceptor : Interceptor σ} {registration : Registration σ}
    (registered : interceptor.register = .ok registration) :
    registration.interceptor = interceptor := by
  obtain ⟨methods, -, made⟩ := bind_eq_ok.1 registered
  obtain rfl := pure_eq_ok.1 made
  rfl

theorem withInterceptors_of_build
    (built : (draft.withInterceptors interceptors).build = .ok configuration) :
    ∃ chain, (∀ registration ∈ chain, registration.interceptor ∈ interceptors) ∧
      draft.withInterceptors interceptors = { draft with chain := draft.chain ++ chain } := by
  induction interceptors generalizing draft with
  | nil => exact ⟨[], by simp, by simp [withInterceptors]⟩
  | cons interceptor rest ih =>
      have next : draft.withInterceptors (interceptor :: rest) =
        (draft.withInterceptor interceptor).withInterceptors rest := rfl
      rw [next] at built ⊢
      unfold withInterceptor take at built ⊢
      cases registered : interceptor.register with
      | error e =>
          -- a draft that refused once is never built
          rw [registered] at built
          exact absurd built (build_of_refused (refused_withInterceptors (by simp)))
      | ok registration =>
          rw [registered] at built
          obtain ⟨chain, known, same⟩ := ih built
          refine ⟨registration :: chain, List.forall_mem_cons.2 ⟨?_, fun other mem => ?_⟩,
            by simp [same]⟩
          · rw [interceptor_of_register registered]
            exact List.mem_cons_self
          · exact List.mem_cons_of_mem _ (known other mem)

theorem compileAll_chain (chain : Chain σ) (rules : TemplateRules)
    (drafts : List (String × StatementDraft)) :
    { draft with chain := chain }.compileAll rules drafts = draft.compileAll rules drafts := by
  induction drafts with
  | nil => rfl
  | cons first rest ih =>
      simp only [compileAll, ih]
      rfl

theorem build_chain (chain : Chain σ)
    (built : { draft with chain := chain }.build = .ok configuration) :
    draft.build = .ok { configuration with chain := draft.chain } ∧
      configuration.chain = chain := by
  unfold build at built
  split at built
  case h_1 => cases built
  case h_2 _ accepted =>
    obtain ⟨rules, made, built⟩ := bind_eq_ok.1 built
    obtain ⟨selected, chosen, built⟩ := bind_eq_ok.1 built
    obtain ⟨statements, compiled, built⟩ := bind_eq_ok.1 built
    obtain rfl := pure_eq_ok.1 built
    rw [compileAll_chain] at compiled
    have accepted : draft.refusal = none := accepted
    have ruled : draft.rules = .ok rules := made
    have selects : StatementDraft.select draft.statements draft.databaseId = .ok selected := chosen
    refine ⟨?_, rfl⟩
    unfold build
    rw [accepted]
    simp only [ruled, selects, compiled, bind, Except.bind, pure, Except.pure]

theorem unobtrusive_of_build (unchained : draft.chain = [])
    (proceeds : ∀ interceptor ∈ interceptors, interceptor.ProceedsOnly)
    (built : (draft.withInterceptors interceptors).build = .ok configuration)
    (source : DataSource σ) : Pipeline.Unobtrusive ⟨configuration, source, []⟩ := by
  obtain ⟨chain, known, same⟩ := withInterceptors_of_build built
  rw [same, unchained, List.nil_append] at built
  obtain ⟨-, rfl⟩ := build_chain chain built
  intro stage registration mem
  refine proceeds _ (known registration ?_)
  cases stage <;> simpa [Pipeline.chain] using mem

/-- Sessions do not notice interceptors that only proceed. With them and without them calls answer
and fail alike, and leave the same parameters, cursors, data source and shared caches. The orders in
which staged rows are written to these are part of a visit and of every opening at a desk, so what may
come about with the interceptors are the very runs that may come about without them. -/
theorem replies_of_proceedsOnly (unchained : draft.chain = [])
    (proceeds : ∀ interceptor ∈ interceptors, interceptor.ProceedsOnly)
    (built : (draft.withInterceptors interceptors).build = .ok configuration)
    (source : DataSource σ) :
    ∃ bare : Configuration σ, draft.build = .ok bare ∧ bare.chain = [] ∧
      (∀ (visit : Visit σ) (moves : List Visit.Move),
        visit.replies ⟨configuration, source, []⟩ moves = visit.replies ⟨bare, source, []⟩ moves ∧
        visit.after ⟨configuration, source, []⟩ moves = visit.after ⟨bare, source, []⟩ moves) ∧
      ∀ (desk : Desk σ) (moves : List (Desk.Move σ)),
        moves.foldl (Desk.play ⟨configuration, source, []⟩) desk =
          moves.foldl (Desk.play ⟨bare, source, []⟩) desk := by
  have unobtrusive := unobtrusive_of_build unchained proceeds built source
  obtain ⟨chain, -, same⟩ := withInterceptors_of_build built
  rw [same] at built
  obtain ⟨bareBuilt, -⟩ := build_chain _ built
  rw [unchained] at bareBuilt
  refine ⟨_, bareBuilt, rfl, fun visit moves => ⟨?_, ?_⟩, fun desk moves => ?_⟩
  · exact visit.replies_bare unobtrusive moves
  · exact visit.after_bare unobtrusive moves
  · exact congrArg (fun play => moves.foldl play desk)
      (funext fun desk => funext fun move => desk.play_bare unobtrusive move)

def observed : ConfigurationDraft (Faulty Recording) where
  caches := [("c", .empty)]
  statements :=
    [{ id := "q", template := .text "select n" none, cache := some "c" },
      { id := "u", command := .update, template := .text "raise #\x7bn\x7d" none }]

def observers : List (Interceptor (Faulty Recording)) :=
  [.passing "all" Method.all, .passing "some" [.update, .query, .prepare, .mapResults]]

def observedMoves : List Visit.Move :=
  [.calls .null (.list "q" .unbounded), .calls (.map [("n", .int 1)]) (.update "u"),
    .calls .null (.cursor "q" .unbounded), .next 0, .calls .null (.list "missing" .unbounded),
    .calls .null (.commit false), .calls .null .close]

def observedStart : Visit (Faulty Recording) :=
  .opened
    { inner := { script := { answers := [⟨"select", ["n"], [[.int 7]]⟩] } }
      faults := ["commit"] }
    [("c", .empty)] .reuse false none .asStaged

def observedOutcome : List (Option Bool) × List String :=
  match observed.build with
  | .ok bare =>
      let pipeline : Pipeline (Faulty Recording) :=
        ⟨bare, Faulty.around Recording.source, []⟩
      ((observedStart.replies pipeline observedMoves).map fun
          | ⟨.calls _ _, reply⟩ => some reply.1.isOk
          | _ => none,
        (observedStart.after pipeline observedMoves).source.inner.log.map (·.sql))
  | .error _ => ([], [])

theorem replies_of_proceedsOnly_observed :
    (∃ configuration bare : Configuration (Faulty Recording),
      (observed.withInterceptors observers).build = .ok configuration ∧
      observed.build = .ok bare ∧
      observedStart.replies ⟨configuration, Faulty.around Recording.source, []⟩ observedMoves =
        observedStart.replies ⟨bare, Faulty.around Recording.source, []⟩ observedMoves ∧
      observedStart.after ⟨configuration, Faulty.around Recording.source, []⟩ observedMoves =
        observedStart.after ⟨bare, Faulty.around Recording.source, []⟩ observedMoves) ∧
      observedOutcome =
        ([some true, some true, some true, none, some false, some false, some true],
          ["select n", "raise ?", "select n"]) := by
  have isOk : (observed.withInterceptors observers).build.isOk = true := by decide +kernel
  have ran : observedOutcome =
      ([some true, some true, some true, none, some false, some false, some true],
        ["select n", "raise ?", "select n"]) := by decide +kernel
  obtain ⟨configuration, built⟩ := exists_of_isOk isOk
  have proceeds : ∀ interceptor ∈ observers, interceptor.ProceedsOnly := by
    simp [observers, Interceptor.proceedsOnly_passing]
  obtain ⟨bare, bareBuilt, -, same, -⟩ := replies_of_proceedsOnly rfl proceeds built
    (Faulty.around Recording.source)
  obtain ⟨replies, after⟩ := same observedStart observedMoves
  exact ⟨⟨configuration, bare, built, bareBuilt, replies, after⟩, ran⟩

end ConfigurationDraft

end MappedSql
