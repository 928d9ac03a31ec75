import MappedSql.Proofs.Database.Register
import MappedSql.Proofs.Session.Performing

namespace MappedSql

variable {τ : Type}

def Event.around (method : Method) : Event → Bool
  | entered _ other | left _ other => other == method
  | _ => false

namespace Deed

variable {chain : Chain (Traced τ)}

theorem around_of_mem_events {method other : Method} {inner : List Deed} {event : Event}
    (mem : event ∈ events chain (.performs method inner)) (seen : event.around other = true) :
    other = method ∨ event ∈ eventsOf chain inner := by
  rw [events, List.mem_append, List.mem_append] at mem
  obtain (mem | mem) | mem := mem
  · obtain ⟨place, -, rfl⟩ := List.mem_map.1 mem
    exact .inl (eq_of_beq seen).symm
  · exact .inr mem
  · obtain ⟨place, -, rfl⟩ := List.mem_map.1 mem
    exact .inl (eq_of_beq seen).symm

theorem Fits.around_inner {parent : Option Method} {deeds : List Deed} (fits : Fits parent deeds) :
    ∀ event ∈ eventsOf chain deeds, ∀ method, event.around method = true →
      method.stage ≠ .executor := by
  induction fits with
  | nil => nofun
  | asks _ _ _ ih =>
      rw [eventsOf, events]
      rintro event mem method seen
      rcases List.mem_append.1 mem with mem | mem
      · obtain rfl := List.mem_singleton.1 mem
        cases seen
      · exact ih event mem method seen
  | leads _ leads _ _ inside ih =>
      rw [eventsOf, events, eventsOf]
      rintro event mem method seen
      rcases List.mem_append.1 mem with mem | mem
      · obtain rfl := List.mem_singleton.1 mem
        cases seen
      · rcases List.mem_append.1 mem with mem | mem
        · obtain rfl | mem := around_of_mem_events mem seen
          · exact Operation.stage_of_leadsTo leads
          · exact inside event mem method seen
        · exact ih event mem method seen
  | performs belongs _ _ inside ih =>
      rw [eventsOf]
      rintro event mem method seen
      rcases List.mem_append.1 mem with mem | mem
      · obtain rfl | mem := around_of_mem_events mem seen
        · exact Method.stage_of_under belongs
        · exact inside event mem method seen
      · exact ih event mem method seen

theorem Performs.around {method : Method} {deeds : List Deed} (performs : Performs method deeds) :
    ∀ event ∈ eventsOf chain deeds, ∀ other, event.around other = true → other.stage = .executor →
      other = method := by
  obtain ⟨inner, rfl, fits⟩ := performs
  intro event mem other seen executor
  rw [eventsOf, eventsOf, List.append_nil] at mem
  obtain rfl | mem := around_of_mem_events mem seen
  · rfl
  · exact absurd executor (fits.around_inner event mem other seen)

theorem Only.around {kind : Operation → Bool} {deeds : List Deed} (only : Only kind deeds) :
    ∀ event ∈ eventsOf chain deeds, ∀ method, event.around method = false := by
  intro event mem method
  obtain ⟨operation, answered, rfl, -⟩ := only.events chain event mem
  rfl

end Deed

def Session.Call.method : Session.Call → Option Method
  | list _ _ | one _ => some .query
  | cursor _ _ | select _ _ _ _ => some .queryCursor
  | update _ => some .update
  | flush => some .flush
  | commit _ => some .commit
  | rollback _ => some .rollback
  | clearCache | close => none

def Visit.Move.method : Visit.Move → Option Method
  | calls _ call => call.method
  | next _ | closes _ | drops _ => none

variable {σ : Type} {configuration : Configuration σ} {chain : Chain (Traced τ)}

def Session.Call.Shows (call : Session.Call) (events : List Event) : Prop :=
  ∀ event ∈ events, ∀ method, event.around method = true → method.stage = .executor →
    call.method = some method

namespace Session.Call

variable {call : Call} {deeds : List Deed} {method : Method}

theorem shows_of_performs (named : call.method = some method)
    (performs : Deed.Performs method deeds) : call.Shows (Deed.eventsOf chain deeds) := by
  intro event mem other seen executor
  rw [performs.around event mem other seen executor]
  exact named

theorem shows_of_knowing {id : String} (named : call.method = some method)
    (knowing : Knowing configuration id deeds (Deed.Performs method deeds)) :
    call.Shows (Deed.eventsOf chain deeds) := by
  obtain performs | rfl := knowing.elim
  · exact shows_of_performs named performs
  · nofun

theorem Does.shows (does : call.Does configuration deeds) :
    call.Shows (Deed.eventsOf chain deeds) := by
  -- a select performs the query first and then reads, and a close performs nothing
  cases call with
  | list id bounds => exact shows_of_knowing rfl does
  | one id => exact shows_of_knowing rfl does
  | cursor id bounds => exact shows_of_knowing rfl does
  | select id bounds receive receiver =>
      obtain ⟨opening, reading, rfl, performs, reads⟩ | rfl := Knowing.elim does
      · rw [Deed.eventsOf_append]
        refine List.forall_mem_append.2 ⟨shows_of_performs rfl performs, fun event mem method seen => ?_⟩
        exact nomatch (reads.around event mem method).symm.trans seen
      · nofun
  | update id => exact shows_of_knowing rfl does
  | flush => exact shows_of_performs rfl does
  | commit force => exact shows_of_performs rfl does
  | rollback force => exact shows_of_performs rfl does
  | clearCache =>
      obtain rfl : deeds = [] := does
      nofun
  | close => exact fun event mem method seen executor =>
      (Deed.Fits.around_inner does event mem method seen executor).elim

end Session.Call

namespace Visit

theorem Move.Does.shows {move : Move} {deeds : List Deed} (does : move.Does configuration deeds) :
    ∀ event ∈ Deed.eventsOf chain deeds, ∀ method, event.around method = true →
      method.stage = .executor → move.method = some method := by
  cases move with
  | calls parameter call => exact Session.Call.Does.shows does
  | next place => exact fun event mem method seen =>
      nomatch (Deed.Only.around does event mem method).symm.trans seen
  | closes place => exact fun event mem method seen =>
      nomatch (Deed.Only.around does event mem method).symm.trans seen
  | drops place => exact fun event mem method seen =>
      nomatch (Deed.Only.around does event mem method).symm.trans seen

/-- A run over a data source that keeps a trace. Each move has its deeds, and whatever interceptors
watch it by proceeding, the replies are the same, and the trace is that of the deeds with the
interceptors around the methods that they declare. Of the executor's methods they see the one that the
move is named for. -/
theorem weaves (source : DataSource τ) (configuration : Configuration (Traced τ)) (visit : Visit τ)
    (moves : List Move) :
    ∃ (replies : List (Σ move : Move, move.Reply)) (after : Visit τ) (deeds : List (List Deed)),
      List.Forall₂ (fun move deeds => move.Does configuration deeds) moves deeds ∧
      ∀ chain : Chain (Traced τ),
        (∀ registration ∈ chain, registration.interceptor.ProceedsOnly) → ∀ trace,
          (visit.traced trace).replies (Pipeline.traced source configuration chain.noted) moves =
            replies ∧
          (visit.traced trace).after (Pipeline.traced source configuration chain.noted) moves =
            after.traced (trace ++ deeds.flatMap (Deed.eventsOf chain)) ∧
          List.Forall₂
            (fun move deeds => ∀ event ∈ Deed.eventsOf chain deeds, ∀ method,
              event.around method = true → method.stage = .executor → move.method = some method)
            moves deeds := by
  induction moves generalizing visit with
  | nil =>
      refine ⟨[], visit, [], .nil, fun chain _ trace => ⟨rfl, ?_, .nil⟩⟩
      rw [List.flatMap_nil, List.append_nil]
      rfl
  | cons move rest ih =>
      obtain ⟨reply, middle, done, does, -, steps⟩ :=
        visit.accomplishes_step source configuration move
      obtain ⟨replies, after, deeds, doing, runs⟩ := ih middle
      refine ⟨⟨move, reply⟩ :: replies, after, done :: deeds, .cons does doing,
        fun chain proceeds trace => ?_⟩
      have went := steps chain proceeds trace
      obtain ⟨replied, ended, shows⟩ := runs chain proceeds (trace ++ Deed.eventsOf chain done)
      refine ⟨?_, ?_, .cons does.shows shows⟩
      · rw [Visit.replies, went, replied]
      · rw [List.flatMap_cons, ← List.append_assoc, ← ended, Visit.after, List.foldl_cons, went]
        rfl

def watched : Configuration (Traced Recording) :=
  (Pipeline.over (Traced.around Recording.source)
    [Register.statementOf "q" .select (.static ⟨"select n", []⟩) none,
      Register.statementOf "u" .update (.static ⟨"raise n", []⟩) none]).configuration

def nested : Chain (Traced Recording) :=
  [⟨.passing "inner" [.update], [.update]⟩,
    ⟨.passing "outer" [.update, .prepare], [.update, .prepare]⟩]

def seen : Event → Option (Bool × Nat × Method)
  | .entered place method => some (true, place, method)
  | .left place method => some (false, place, method)
  | .asked _ _ => none

theorem weaves_nested :
    ∃ deeds : List (List Deed),
      List.Forall₂ (fun (move : Move) deeds => move.Does watched deeds) [.calls .null (.update "u")]
        deeds ∧
      (deeds.flatMap (Deed.eventsOf nested)).filterMap seen =
        [(true, 1, .update), (true, 0, .update), (true, 1, .prepare), (false, 1, .prepare),
          (false, 0, .update), (false, 1, .update)] := by
  let start : Visit Recording := opened {} [] .simple false none .asStaged
  have ran : ((start.traced []).after (Pipeline.traced Recording.source watched nested.noted)
      [.calls .null (.update "u")]).source.trace.filterMap seen =
        [(true, 1, .update), (true, 0, .update), (true, 1, .prepare), (false, 1, .prepare),
          (false, 0, .update), (false, 1, .update)] := by decide +kernel
  obtain ⟨replies, after, deeds, does, runs⟩ :=
    weaves Recording.source watched start [.calls .null (.update "u")]
  have proceeds : ∀ registration ∈ nested, registration.interceptor.ProceedsOnly := by
    simp [nested, Interceptor.proceedsOnly_passing]
  obtain ⟨-, ended, -⟩ := runs nested proceeds []
  rw [ended] at ran
  exact ⟨deeds, does, ran⟩

def watching : Interceptor (Traced Recording) :=
  .passing "watching" [.keyedQuery, .flush]

def watchedMoves : List Move :=
  [.calls .null (.list "q" .unbounded), .calls .null (.update "u"), .calls .null (.commit false)]

def watchedStart : Visit (Traced Recording) :=
  opened ⟨{}, []⟩ [] .batch false none .asStaged

/-- The run goes through, both statements are executed, and the interceptor is not run. -/
theorem keyedQuery_flush_unseen :
    ∃ registration, watching.register = .ok registration ∧
      registration.methods = [.keyedQuery, .flush] ∧ watching.ProceedsOnly ∧
      let pipeline := Pipeline.traced Recording.source watched (Chain.noted [registration])
      let after := watchedStart.after pipeline watchedMoves
      after.source.inner.log.map (·.sql) = ["select n", "raise n"] ∧
        after.source.trace.all (fun event => !event.around .keyedQuery && !event.around .flush) = true ∧
        (watchedStart.replies pipeline watchedMoves).all (fun
          | ⟨.calls _ _, reply⟩ => reply.1.isOk
          | _ => false) = true := by
  refine ⟨⟨watching, [.keyedQuery, .flush]⟩, rfl, rfl, Interceptor.proceedsOnly_passing _ _, ?_⟩
  decide +kernel

end Visit

end MappedSql
