import Mathlib.Data.List.Induction
import MappedSql.Proofs.Database.Register
import MappedSql.Proofs.Session.Performing
import MappedSql.Proofs.Session.Renewal

/-!
# The protocol of transactions

What a session asks its data source for, over a whole run. At most one connection is opened, and none is
opened and no statement prepared once the session was closed. Without autocommit a session commits only
when it is asked to and either forced or changed since it was last settled, and its connection is closed
right behind a rollback; with autocommit it neither commits nor rolls back (`Visit.keeps_protocol`).
-/

namespace MappedSql

open MappedSql.Action (Leaves)

variable {τ σ α : Type}

namespace Session

def Call.raises (configuration : Configuration σ) : Call → Bool
  | update id => (configuration.statement id).isOk
  | _ => false

def Call.settles : Call → Bool
  | commit _ | rollback _ => true
  | _ => false

abbrev dirtiness (scene : SessionScene σ) : Bool :=
  scene.session.dirty

section

variable (pipeline : Pipeline σ)

theorem dirtiness_perform (work : Work σ α) : Action.Leaves dirtiness (perform work) :=
  Leaves.within fun _ => rfl

theorem dirtiness_list (id : String) (bounds : RowBounds) :
    Action.Leaves dirtiness (list pipeline id bounds) :=
  (Leaves.lift _).bind fun _ => Leaves.get.bind fun _ => (dirtiness_perform _).inContext _

theorem dirtiness_one (id : String) : Action.Leaves dirtiness (one pipeline id) := by
  refine (dirtiness_list pipeline id .unbounded).bind fun rows => ?_
  split
  · exact Leaves.pure _
  · exact Leaves.pure _
  · exact Leaves.lift _

theorem dirtiness_cursor (id : String) (bounds : RowBounds) :
    Action.Leaves dirtiness (cursor pipeline id bounds) :=
  (Leaves.lift _).bind fun _ => Leaves.get.bind fun _ => (dirtiness_perform _).inContext _

theorem dirtiness_select {ρ : Type} (id : String) (bounds : RowBounds)
    (receive : Nat → Value → Action ρ Bool) (receiver : ρ) :
    Action.Leaves dirtiness (select pipeline id bounds receive receiver) := by
  refine (dirtiness_cursor pipeline id bounds).attempt.bind fun opened => ?_
  cases opened with
  | error e => exact Leaves.pure _
  | ok cursor => exact Leaves.within fun _ => rfl

theorem dirty_of_settling {act : Act σ Unit} (leaves : Action.Leaves dirtiness act)
    (scene : SessionScene σ)
    (dirty : ((act >>= fun _ => setDirty false) scene).2.session.dirty = true) :
    scene.session.dirty = true ∧ ((act >>= fun _ => setDirty false) scene).1.isOk = false := by
  have same := leaves scene
  rw [Action.bind_apply] at dirty ⊢
  rcases went : act scene with ⟨e | a, after⟩
  · rw [went] at dirty same
    exact ⟨same.symm.trans dirty, rfl⟩
  · rw [went] at dirty
    cases dirty

theorem dirty_of_commit (force : Bool) (scene : SessionScene σ)
    (dirty : (commit pipeline force scene).2.session.dirty = true) :
    scene.session.dirty = true ∧ (commit pipeline force scene).1.isOk = false := by
  have leaves := (dirtiness_perform (Executor.commit pipeline
    (scene.session.required force))).inContext "Error committing transaction"
  exact dirty_of_settling leaves scene dirty

theorem dirty_of_rollback (force : Bool) (scene : SessionScene σ)
    (dirty : (rollback pipeline force scene).2.session.dirty = true) :
    scene.session.dirty = true ∧ (rollback pipeline force scene).1.isOk = false := by
  have leaves := (dirtiness_perform (Executor.rollback pipeline
    (scene.session.required force))).inContext "Error rolling back transaction"
  exact dirty_of_settling leaves scene dirty

theorem dirty_of_close (scene : SessionScene σ)
    (dirty : (close pipeline scene).2.session.dirty = true) : scene.session.dirty = true := by
  rw [close, Action.bind_apply, Action.get_apply] at dirty
  dsimp only at dirty
  by_cases closed : scene.session.isClosed = true
  · rw [if_pos closed] at dirty
    exact dirty
  · rw [if_neg closed] at dirty
    exact (dirty_of_settling (dirtiness_perform _) scene dirty).1

theorem dirty_ask (call : Call) (scene : SessionScene σ)
    (dirty : (call.ask pipeline scene).2.session.dirty = true) :
    call.raises pipeline.configuration = true ∨
      scene.session.dirty = true ∧ (call.settles && (call.ask pipeline scene).1.isOk) = false := by
  have left {α β : Type} {act : Act σ α} {reply : α → β} (leaves : Action.Leaves dirtiness act)
      (dirty : ((act >>= fun a => pure (reply a) : Act σ β) scene).2.session.dirty = true) :
      scene.session.dirty = true := by
    rw [bind_pure_after] at dirty
    exact (leaves scene).symm.trans dirty
  -- only an update raises the mark; a commit, a rollback or a close that goes through takes it down
  cases call with
  | list id bounds => exact .inr ⟨left (dirtiness_list pipeline id bounds) dirty, rfl⟩
  | one id => exact .inr ⟨left (dirtiness_one pipeline id) dirty, rfl⟩
  | cursor id bounds => exact .inr ⟨left (dirtiness_cursor pipeline id bounds) dirty, rfl⟩
  | select id bounds receive receiver =>
      exact .inr ⟨left (dirtiness_select pipeline id bounds receive receiver) dirty, rfl⟩
  | update id =>
      cases found : pipeline.configuration.statement id with
      | ok statement => exact .inl (congrArg Except.isOk found)
      | error e =>
          have unknown : (Call.ask pipeline (.update id) scene).2 = scene := by
            refine (bind_pure_after _ _ scene).trans ?_
            rw [update, found]
            rfl
          rw [unknown] at dirty
          exact .inr ⟨dirty, rfl⟩
  | flush => exact .inr ⟨left ((dirtiness_perform _).inContext _) dirty, rfl⟩
  | commit force =>
      rw [Call.ask, bind_pure_after] at dirty
      rw [Call.ask, bind_pure_isOk]
      exact .inr (dirty_of_commit pipeline force scene dirty)
  | rollback force =>
      rw [Call.ask, bind_pure_after] at dirty
      rw [Call.ask, bind_pure_isOk]
      exact .inr (dirty_of_rollback pipeline force scene dirty)
  | clearCache => exact .inr ⟨left (dirtiness_perform _) dirty, rfl⟩
  | close =>
      rw [Call.ask, bind_pure_after] at dirty
      exact .inr ⟨dirty_of_close pipeline scene dirty, rfl⟩

end

end Session

namespace Deed

variable {deeds : List Deed}

theorem Fits.without_commit {parent : Option Method} (fits : Fits parent deeds)
    (other : parent ≠ some .commit) : Event.Without Operation.isCommit (asked τ deeds) := by
  refine fits.without fun operation place is belongs => ?_
  obtain rfl := Operation.place_of_commit is belongs
  exact ⟨other.symm, fun _ same => Option.some.inj same ▸ rfl⟩

theorem Performs.without_commit {method : Method} (performs : Performs method deeds)
    (other : method ≠ .commit) : Event.Without Operation.isCommit (asked τ deeds) := by
  obtain ⟨inner, rfl, fits⟩ := performs
  rw [asked_performs]
  exact List.forall_mem_append.2 ⟨fits.without_commit fun same => other (Option.some.inj same), nofun⟩

theorem Only.without_commit (only : Only Operation.reads deeds) :
    Event.Without Operation.isCommit (asked τ deeds) := by
  refine only.without fun operation is => ?_
  cases operation <;> first | rfl | cases is

end Deed

theorem Session.Call.Does.without_commit {configuration : Configuration σ} {call : Session.Call}
    {deeds : List Deed} (does : call.Does configuration deeds) (other : ∀ force, call ≠ .commit force) :
    Event.Without Operation.isCommit (Deed.asked τ deeds) := by
  have known {id : String} {method : Method} (differs : method ≠ .commit)
      (knowing : Knowing configuration id deeds (Deed.Performs method deeds)) :
      Event.Without Operation.isCommit (Deed.asked τ deeds) := by
    obtain performs | rfl := knowing.elim
    · exact performs.without_commit differs
    · nofun
  cases call with
  | list | one => exact known (by decide) does
  | cursor => exact known (by decide) does
  | select =>
      obtain ⟨opening, reading, rfl, performs, reads⟩ | rfl := Knowing.elim does
      · rw [Deed.asked_append]
        exact List.forall_mem_append.2
          ⟨performs.without_commit (by decide), reads.without_commit⟩
      · nofun
  | update => exact known (by decide) does
  | flush => exact Deed.Performs.without_commit does (by decide)
  | commit force => exact absurd rfl (other force)
  | rollback => exact Deed.Performs.without_commit does (by decide)
  | clearCache =>
      obtain rfl : deeds = [] := does
      nofun
  | close => exact Deed.Fits.without_commit does nofun

namespace Visit

variable {source : DataSource τ}

def hold (visit : Visit τ) : τ × Transaction :=
  (visit.source, visit.session.executor.transaction)

theorem Move.Handles.carries_or_ends {before after : Visit τ} {deeds : List Deed} {move : Move}
    (handles : move.Handles source before deeds after) :
    Transaction.Carries source before.hold deeds after.hold ∧
        after.session.executor.closed = before.session.executor.closed ∨
      (∃ parameter, move = .calls parameter .close) ∧ ∃ left : SessionScene τ, ∃ parameter,
        Session.Within (Scene.Ends source) (before.scene parameter) deeds left ∧
          after.source = left.source ∧ after.session = left.session := by
  have reads (asking : Asking source Operation.reads before.source deeds after.source ∧
      after.session = before.session) :
      Transaction.Carries source before.hold deeds after.hold ∧
        after.session.executor.closed = before.session.executor.closed := by
    obtain ⟨asked, session⟩ := asking
    rw [hold, hold, session]
    exact ⟨.of_reads _ asked, rfl⟩
  cases move with
  | calls parameter call =>
      obtain ⟨left, handled, database, session⟩ := handles
      have carried (carries : Session.Carries source (before.scene parameter) deeds left) :
          Transaction.Carries source before.hold deeds after.hold ∧
            after.session.executor.closed = before.session.executor.closed := by
        rw [hold, hold, database, session]
        exact carries
      cases call with
      | close => exact .inr ⟨⟨parameter, rfl⟩, left, parameter, handled, database, session⟩
      | commit force => exact .inl (carried handled.1)
      | list | one | cursor | select | update | flush | rollback | clearCache =>
          exact .inl (carried handled)
  | next | closes | drops => exact .inl (reads handles)

structure Orderly (source : DataSource τ) (autocommit : Bool) (visit : Visit τ)
    (trace : List Event) : Prop where
  mode : visit.session.executor.transaction.autocommit = autocommit
  sound : Transaction.Sound source visit.hold
  closed : visit.session.executor.transaction.closed = visit.session.executor.closed
  most : trace.countP Event.opens ≤ 1
  held : visit.session.executor.transaction.closed = false →
    trace.countP Event.opens = visit.session.executor.transaction.connection.isSome.toNat
  calm : autocommit = true → Event.Without Operation.settles trace
  settled : autocommit = false → Event.ClosesSettled trace

namespace Orderly

variable {autocommit : Bool} {before after : Visit τ} {trace : List Event} {deeds : List Deed}

theorem opened (state : τ) (shared : SharedCaches) (kind : ExecutorKind) (timeout : Option Nat)
    (drains : Drains) :
    Orderly source autocommit (opened state shared kind autocommit timeout drains) [] where
  mode := rfl
  sound := nofun
  closed := rfl
  most := Nat.zero_le _
  held := fun _ => rfl
  calm := fun _ => nofun
  settled := fun _ => .of_without nofun

theorem carries (orderly : Orderly source autocommit before trace) (keeps : source.KeepsModes)
    (carries : Transaction.Carries source before.hold deeds after.hold)
    (closed : after.session.executor.closed = before.session.executor.closed) :
    Orderly source autocommit after (trace ++ Deed.asked τ deeds) where
  mode := carries.autocommit.trans orderly.mode
  sound := carries.sound keeps orderly.sound
  closed := carries.closed.trans (orderly.closed.trans closed.symm)
  most := by
    rw [List.countP_append]
    -- a closed transaction connects no more, and the trace of an open one counts its connection
    cases gone : before.session.executor.transaction.closed with
    | true =>
        rw [(carries.barred gone).connects.countP_opens]
        exact orderly.most
    | false =>
        rw [orderly.held gone, Nat.add_comm]
        exact Nat.le_trans (Nat.le_of_eq carries.opens) (Bool.toNat_le _)
  held := fun gone => by
    rw [List.countP_append, orderly.held (carries.closed.symm.trans gone), Nat.add_comm]
    exact carries.opens
  calm := fun automatic => List.forall_mem_append.2 ⟨orderly.calm automatic,
    carries.calm keeps orderly.sound (orderly.mode.trans automatic)⟩
  settled := fun manual => (orderly.settled manual).append (.of_without carries.stays)

theorem ends (orderly : Orderly source autocommit before trace) (keeps : source.KeepsModes)
    {left : SessionScene τ} {parameter : Value}
    (ends : Session.Within (Scene.Ends source) (before.scene parameter) deeds left)
    (database : after.source = left.source) (session : after.session = left.session) :
    Orderly source autocommit after (trace ++ Deed.asked τ deeds) ∧
      after.session.executor.transaction.closed = true := by
  obtain ⟨shut, gone⟩ := ends.closed orderly.closed
  have nothing : Event.Without Operation.isConnect (Deed.asked τ deeds) := by
    refine ends.fits.without fun operation place is belongs => ?_
    have serves := Operation.place_of_connect is belongs
    simp only [serving, List.contains_iff_mem, List.mem_cons, List.not_mem_nil, or_false] at serves
    rcases serves with rfl | rfl | rfl | rfl <;>
      exact ⟨nofun, fun _ same => Option.some.inj same ▸ rfl⟩
  have same : after.session.executor.transaction = left.session.executor.transaction :=
    congrArg (fun session : Session => session.executor.transaction) session
  refine ⟨?_, (congrArg Transaction.closed same).trans shut⟩
  exact
    { mode := (congrArg Transaction.autocommit same).trans (ends.autocommit.trans orderly.mode)
      sound := by
        rw [hold, database, session]
        exact ends.sound keeps orderly.sound
      closed := by
        rw [session]
        exact shut.trans gone.symm
      most := by
        rw [List.countP_append, nothing.countP_opens]
        exact orderly.most
      held := fun isOpen => absurd ((congrArg Transaction.closed same).trans shut)
        (by simp [isOpen])
      calm := fun automatic => List.forall_mem_append.2 ⟨orderly.calm automatic,
        ends.calm keeps orderly.sound (orderly.mode.trans automatic)⟩
      settled := fun manual => (orderly.settled manual).append
        (ends.settled keeps orderly.sound (orderly.mode.trans manual)) }

end Orderly

structure Move.Adds (move : Move) (before : Visit τ) (events : List Event) (after : Visit τ) :
    Prop where
  barred : before.session.executor.transaction.closed = true →
    Event.Without Operation.begins events ∧ after.session.executor.transaction.closed = true
  closes : (∃ parameter, move = .calls parameter .close) →
    after.session.executor.transaction.closed = true
  commits : Event.Without Operation.isCommit events ∨ ∃ parameter force,
    move = .calls parameter (.commit force) ∧ (force = true ∨ before.session.dirty = true)

theorem Move.Does.commits {configuration : Configuration σ} {before after : Visit τ} {move : Move}
    {deeds : List Deed} (does : move.Does configuration deeds)
    (handles : move.Handles source before deeds after) :
    Event.Without Operation.isCommit (Deed.asked τ deeds) ∨ ∃ parameter force,
      move = .calls parameter (.commit force) ∧ (force = true ∨ before.session.dirty = true) := by
  cases move with
  | calls parameter call =>
      by_cases commits : ∃ force, call = .commit force
      · obtain ⟨force, rfl⟩ := commits
        obtain ⟨left, ⟨-, optional⟩, -⟩ := handles
        cases required : before.session.required force with
        | false => exact .inl (optional required)
        | true =>
            refine .inr ⟨parameter, force, rfl, ?_⟩
            rw [Session.required, Bool.or_eq_true, Bool.and_eq_true] at required
            exact required.symm.imp_right And.right
      · exact .inl (Session.Call.Does.without_commit does fun force same => commits ⟨force, same⟩)
  | next | closes | drops => exact .inl (Deed.Only.without_commit does)

section

variable {autocommit : Bool} {visit : Visit τ} {trace : List Event} (keeps : source.KeepsModes)
  (configuration : Configuration (Traced τ))

include keeps

theorem orderly_step (orderly : Orderly source autocommit visit trace) (move : Move) :
    ∃ (after : Visit τ) (events : List Event),
      ((visit.traced trace).step (Pipeline.traced source configuration []) move).2 =
        after.traced (trace ++ events) ∧
      Orderly source autocommit after (trace ++ events) ∧ move.Adds visit events after := by
  obtain ⟨reply, after, deeds, does, handles, same⟩ := visit.accomplishes_step source configuration move
  refine ⟨after, Deed.asked τ deeds, congrArg Prod.snd (same [] nofun trace), ?_⟩
  obtain ⟨carries, closed⟩ | ⟨-, left, parameter, ends, database, session⟩ := handles.carries_or_ends
  · refine ⟨orderly.carries keeps carries closed, fun gone => ?_, ?_, does.commits handles⟩
    · exact ⟨carries.barred gone, carries.closed.trans gone⟩
    · rintro ⟨parameter, rfl⟩
      obtain ⟨left, ends, database, session⟩ := handles
      exact (orderly.ends keeps ends database session).2
  · obtain ⟨still, shut⟩ := orderly.ends keeps ends database session
    exact ⟨still, fun gone => ⟨ends.barred gone, shut⟩, fun _ => shut, does.commits handles⟩

theorem orderly_after (orderly : Orderly source autocommit visit trace) (moves : List Move) :
    ∃ (after : Visit τ) (events : List Event),
      (visit.traced trace).after (Pipeline.traced source configuration []) moves =
        after.traced (trace ++ events) ∧
      Orderly source autocommit after (trace ++ events) ∧
      (visit.session.executor.transaction.closed = true → Event.Without Operation.begins events) := by
  induction moves generalizing visit trace with
  | nil =>
      refine ⟨visit, [], ?_, ?_, fun _ => nofun⟩
      · rw [List.append_nil]
        rfl
      · rw [List.append_nil]
        exact orderly
  | cons move rest ih =>
      obtain ⟨middle, events, went, still, adds⟩ := orderly_step keeps configuration orderly move
      obtain ⟨after, more, ran, last, barred⟩ := ih still
      refine ⟨after, events ++ more, ?_, ?_, fun gone => ?_⟩
      · rw [Visit.after, List.foldl_cons, went, ← List.append_assoc]
        exact ran
      · rw [← List.append_assoc]
        exact last
      · obtain ⟨nothing, shut⟩ := adds.barred gone
        exact List.forall_mem_append.2 ⟨nothing, barred shut⟩

end

def Move.raises (configuration : Configuration σ) : Move → Bool
  | calls _ call => call.raises configuration
  | next _ | closes _ | drops _ => false

def settled : (Σ move : Move, move.Reply) → Bool
  | ⟨.calls _ call, reply⟩ => call.settles && reply.1.isOk
  | _ => false

/-- An update was raised, and neither a commit nor a rollback went through since. -/
def Unsettled (configuration : Configuration σ) (past : List (Σ move : Move, move.Reply)) : Prop :=
  ∃ earlier update later, past = earlier ++ update :: later ∧
    update.1.raises configuration = true ∧ ∀ known ∈ later, settled known = false

theorem Unsettled.snoc {configuration : Configuration σ} {past : List (Σ move : Move, move.Reply)}
    {last : Σ move : Move, move.Reply} (unsettled : Unsettled configuration past)
    (open' : settled last = false) : Unsettled configuration (past ++ [last]) := by
  obtain ⟨earlier, update, later, rfl, raises, none⟩ := unsettled
  refine ⟨earlier, update, later ++ [last], by simp, raises, ?_⟩
  exact List.forall_mem_append.2 ⟨none, List.forall_mem_singleton.2 open'⟩

section

variable (pipeline : Pipeline σ) (visit : Visit σ)

theorem dirty_step (move : Move) (dirty : (visit.step pipeline move).2.session.dirty = true) :
    move.raises pipeline.configuration = true ∨
      visit.session.dirty = true ∧ settled ⟨move, (visit.step pipeline move).1⟩ = false := by
  have still {α : Type} (place : Nat) (act : Action (σ × Cursor) α)
      (dirty : (visit.onCursor place act).2.session.dirty = true) : visit.session.dirty = true := by
    cases found : visit.cursors[place]? with
    | none =>
        rw [onCursor_of_none found] at dirty
        exact dirty
    | some cursor =>
        rw [onCursor_of_some found] at dirty
        exact dirty
  cases move with
  | calls parameter call =>
      have asked := Session.dirty_ask pipeline call (visit.scene parameter)
      rcases went : call.ask pipeline (visit.scene parameter) with ⟨e | ⟨reply, handed⟩, left⟩
      · rw [went] at asked
        rw [ask_of_error went] at dirty ⊢
        exact asked dirty
      · rw [went] at asked
        rw [ask_of_ok went] at dirty ⊢
        exact asked dirty
  | next place => exact .inr ⟨still place _ dirty, rfl⟩
  | closes place => exact .inr ⟨still place _ dirty, rfl⟩
  | drops place =>
      refine .inr ⟨?_, rfl⟩
      rw [step, letGo] at dirty
      cases found : visit.cursors[place]? with
      | none =>
          rw [found] at dirty
          exact dirty
      | some cursor =>
          rw [found] at dirty
          exact dirty

variable {visit}

theorem unsettled_of_dirty (clean : visit.session.dirty = false) (moves : List Move)
    (dirty : (visit.after pipeline moves).session.dirty = true) :
    Unsettled pipeline.configuration (visit.replies pipeline moves) := by
  -- by the last move: it raised the update, or the session was dirty before and it did not settle
  induction moves using List.reverseRec with
  | nil => exact absurd (clean.symm.trans dirty) Bool.false_ne_true
  | append_singleton moves move ih =>
      rw [after_snoc] at dirty
      rw [replies_snoc]
      obtain raises | ⟨before, open'⟩ := dirty_step pipeline _ move dirty
      · exact ⟨_, _, [], rfl, raises, nofun⟩
      · exact (ih before).snoc open'

end

/-- The protocol of transactions, over every run of a session and whatever fails. The trace of a run
opens one connection at most, and begins nothing behind a close. Without autocommit what a move adds to
it has a commit only if the move is a commit that is forced, or is asked for while an update is not
settled, and connections are closed right behind a rollback. With autocommit nothing is settled. -/
theorem keeps_protocol (source : DataSource τ) (keeps : source.KeepsModes)
    (configuration : Configuration (Traced τ)) (state : τ) (shared : SharedCaches)
    (kind : ExecutorKind) (autocommit : Bool) (timeout : Option Nat) (drains : Drains)
    (moves : List Move) :
    let start : Visit (Traced τ) := opened ⟨state, []⟩ shared kind autocommit timeout drains
    let pipeline := Pipeline.traced source configuration []
    let trace (moves : List Move) := (start.after pipeline moves).source.trace
    (trace moves).countP Event.opens ≤ 1 ∧
    (∀ earlier parameter later, moves = earlier ++ .calls parameter .close :: later →
      ∃ events, trace moves = trace (earlier ++ [.calls parameter .close]) ++ events ∧
        Event.Without Operation.begins events) ∧
    (autocommit = false →
      (∀ earlier move later, moves = earlier ++ move :: later →
        ∃ events, trace (earlier ++ [move]) = trace earlier ++ events ∧
          (Event.Without Operation.isCommit events ∨ ∃ parameter force,
            move = .calls parameter (.commit force) ∧
              (force = true ∨ Unsettled configuration (start.replies pipeline earlier)))) ∧
      Event.ClosesSettled (trace moves)) ∧
    (autocommit = true → Event.Without Operation.settles (trace moves)) := by
  intro start pipeline trace
  have orderly (moves : List Move) : ∃ after : Visit τ,
      start.after pipeline moves = after.traced (trace moves) ∧
        Orderly source autocommit after (trace moves) := by
    obtain ⟨after, events, ran, still, -⟩ := orderly_after keeps configuration
      (.opened state shared kind timeout drains) moves
    have whole : trace moves = [] ++ events := congrArg (fun visit => visit.source.trace) ran
    rw [whole]
    exact ⟨after, ran, still⟩
  -- one move adds to the trace; what it adds is told by the state before it
  have stepped (earlier : List Move) (move : Move) :
      ∃ (before after : Visit τ) (events : List Event),
        start.after pipeline earlier = before.traced (trace earlier) ∧
        start.after pipeline (earlier ++ [move]) = after.traced (trace earlier ++ events) ∧
        Orderly source autocommit after (trace earlier ++ events) ∧
        move.Adds before events after := by
    obtain ⟨before, ran, still⟩ := orderly earlier
    obtain ⟨after, events, went, left, adds⟩ := orderly_step keeps configuration still move
    refine ⟨before, after, events, ran, ?_, left, adds⟩
    rw [after_snoc, ran]
    exact went
  have traceOf {moves : List Move} {visit : Visit τ} {whole : List Event}
      (ran : start.after pipeline moves = visit.traced whole) : trace moves = whole :=
    congrArg (fun visit => visit.source.trace) ran
  obtain ⟨_, _, held⟩ := orderly moves
  refine ⟨held.most, ?_, fun manual => ⟨?_, held.settled manual⟩, held.calm⟩
  · rintro earlier parameter later rfl
    obtain ⟨_, closed, events, _, ran, left, adds⟩ := stepped earlier (.calls parameter .close)
    obtain ⟨after, more, went, -, barred⟩ := orderly_after keeps configuration left later
    refine ⟨more, ?_, barred (adds.closes ⟨parameter, rfl⟩)⟩
    rw [traceOf ran]
    have whole : start.after pipeline (earlier ++ .calls parameter .close :: later) =
        after.traced (trace earlier ++ events ++ more) := by
      rw [← went, ← ran, List.append_cons, Visit.after, Visit.after, Visit.after, List.foldl_append]
    exact traceOf whole
  · rintro earlier move later -
    obtain ⟨before, after, events, ran, went, -, adds⟩ := stepped earlier move
    refine ⟨events, traceOf went, adds.commits.imp_right ?_⟩
    rintro ⟨parameter, force, rfl, forced | dirty⟩
    · exact ⟨parameter, force, rfl, .inl forced⟩
    · refine ⟨parameter, force, rfl, .inr (unsettled_of_dirty pipeline rfl earlier ?_)⟩
      rw [ran]
      exact dirty

def changing : List Move :=
  [.calls .null (.update "u"), .calls .null (.commit false), .calls .null (.update "u"),
    .calls .null .close, .calls .null (.list "q" .unbounded)]

def changed : Configuration (Traced (Faulty Recording)) :=
  (Pipeline.over (Traced.around (Faulty.around Recording.source))
    [Register.statementOf "q" .select (.static ⟨"select n", []⟩) none,
      Register.statementOf "u" .update (.static ⟨"raise n", []⟩) none]).configuration

def changes : List Event :=
  ((opened ⟨{ inner := {}, faults := ["rollback"] }, []⟩ [] .batch false none .asStaged).after
    (Pipeline.traced (Faulty.around Recording.source) changed []) changing).source.trace

theorem keeps_protocol_changing :
    (changes.any (Event.asks Operation.isCommit) = true ∧
      changes.any (Event.asks Operation.isCloseConnection) = true) ∧
    changes.countP Event.opens ≤ 1 ∧ Event.ClosesSettled changes := by
  obtain ⟨most, -, manual, -⟩ := keeps_protocol (Faulty.around Recording.source)
    (Faulty.keepsModes Recording.keepsModes) changed { inner := {}, faults := ["rollback"] } [] .batch
    false none .asStaged changing
  exact ⟨by decide +kernel, most, (manual rfl).2⟩

end Visit

end MappedSql
