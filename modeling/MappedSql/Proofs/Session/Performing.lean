import MappedSql.Proofs.Execution.Performing
import MappedSql.Proofs.Session.Publication
import MappedSql.Proofs.Session.Visits

namespace MappedSql

open MappedSql.Action (Accomplishes)

variable {τ ρ α β : Type}

def SessionScene.traced (scene : SessionScene τ) (trace : List Event) : SessionScene (Traced τ) :=
  ⟨⟨scene.source, trace⟩, scene.shared, scene.session, scene.parameter⟩

def Deed.Performs (method : Method) (deeds : List Deed) : Prop :=
  ∃ inner, deeds = [.performs method inner] ∧ Fits (some method) inner

namespace Session

section

variable (source : DataSource τ)

def put : (τ × Cursor) × ρ → List Event → (Traced τ × Cursor) × ρ :=
  besides (besides Traced.mk)

def Retrieves (before : (τ × Cursor) × ρ) (deeds : List Deed) (after : (τ × Cursor) × ρ) : Prop :=
  Cursor.Retrieves source before.1 deeds after.1

theorem composes_retrieves : Composes (Retrieves (ρ := ρ) source) where
  nil := fun state => (Cursor.composes_retrieves source).nil state.1
  append := (Cursor.composes_retrieves source).append

theorem reading_receiveRows (receive : Nat → Value → Action ρ Bool) (number steps : Nat) :
    Accomplishes put (Retrieves source) fun _ : Chain (Traced τ) =>
      receiveRows (Traced.around source) receive number steps := by
  have composes : Composes (Retrieves (ρ := ρ) source) := composes_retrieves source
  induction steps generalizing number with
  | zero => exact .ofResult composes (.ok ())
  | succ steps ih =>
      refine (Accomplishes.onFirst (Cursor.reading_next source)).bind composes fun
        | none => .ofResult composes (.ok ())
        | some row => ?_
      refine Accomplishes.bind composes ?_ fun enough => ?_
      · exact .idle (Action.within Prod.snd (fun state after => (state.1, after)) (receive number row))
          (fun _ _ => rfl) fun state => composes.nil state
      · cases enough with
        | true => exact .ofResult composes (.ok ())
        | false => exact ih (number + 1)

theorem reading_stream (receive : Nat → Value → Action ρ Bool) (limit : Nat) :
    Accomplishes put (Retrieves source) fun _ : Chain (Traced τ) =>
      stream (Traced.around source) receive limit := by
  have composes : Composes (Retrieves (ρ := ρ) source) := composes_retrieves source
  refine (reading_receiveRows source receive 1 (limit + 1)).attempt.bind composes fun
    | .ok () => Accomplishes.onFirst (Cursor.reading_close source)
    | .error e => ?_
  exact (Accomplishes.onFirst (Cursor.reading_close source).quietly).bind composes fun _ =>
    .ofResult composes (.error e)

end

variable (source : DataSource τ) (configuration : Configuration (Traced τ))

def Within (told : Scene τ → List Deed → Scene τ → Prop) (before : SessionScene τ)
    (deeds : List Deed) (after : SessionScene τ) : Prop :=
  told (toScene before) deeds (toScene after)

section

variable {told : Scene τ → List Deed → Scene τ → Prop}

theorem accomplishes_perform {act : Chain (Traced τ) → Work (Traced τ) α}
    (accomplishes : Accomplishes Scene.traced told act) :
    Accomplishes SessionScene.traced (Within told) fun chain => perform (act chain) :=
  accomplishes.within toScene
    (fun scene after =>
      { source := after.source
        shared := after.shared
        session := { scene.session with executor := after.executor }
        parameter := after.parameter })
    (fun _ _ => rfl) (fun _ _ _ _ => rfl) id

theorem accomplishes_setDirty_before {act : Chain (Traced τ) → Act (Traced τ) α} (dirty : Bool)
    (accomplishes : Accomplishes SessionScene.traced (Within told) act) :
    Accomplishes SessionScene.traced (Within told) fun chain => setDirty dirty >>= fun _ => act chain := by
  intro scene
  exact accomplishes { scene with session := { scene.session with dirty := dirty } }

theorem accomplishes_setDirty_behind {act : Chain (Traced τ) → Act (Traced τ) α} (dirty : Bool)
    {tells : SessionScene τ → List Deed → SessionScene τ → Prop}
    (blind : ∀ before deeds after, tells before deeds after →
      tells before deeds { after with session := { after.session with dirty := dirty } })
    (accomplishes : Accomplishes SessionScene.traced tells act) :
    Accomplishes SessionScene.traced tells fun chain => act chain >>= fun _ => setDirty dirty := by
  intro scene
  obtain ⟨result, after, deeds, known, same⟩ := accomplishes scene
  cases result with
  | error e =>
      refine ⟨.error e, after, deeds, known, fun chain proceeds trace => ?_⟩
      refine (Action.bind_apply _ _ _).trans ?_
      rw [same chain proceeds]
  | ok a =>
      refine ⟨.ok (), _, deeds, blind _ _ _ known, fun chain proceeds trace => ?_⟩
      refine (Action.bind_apply _ _ _).trans ?_
      rw [same chain proceeds]
      rfl

end

def OnStatement (id : String) (told : SessionScene τ → List Deed → SessionScene τ → Prop)
    (before : SessionScene τ) (deeds : List Deed) (after : SessionScene τ) : Prop :=
  match configuration.statement id with
  | .ok _ => told before deeds after
  | .error _ => deeds = [] ∧ after = before

theorem accomplishes_onStatement {id : String}
    {told : SessionScene τ → List Deed → SessionScene τ → Prop}
    {act : Chain (Traced τ) → MappedStatement → Act (Traced τ) α}
    (accomplishes : ∀ statement, Accomplishes SessionScene.traced told fun chain =>
      act chain statement) :
    Accomplishes SessionScene.traced (OnStatement configuration id told) fun chain =>
      Action.ofResult (configuration.statement id) >>= act chain := by
  unfold OnStatement
  cases configuration.statement id with
  | ok statement => exact accomplishes statement
  | error e => exact .idle (Action.ofResult (.error e)) (fun _ _ => rfl) fun _ => ⟨rfl, rfl⟩

theorem performs_list (id : String) (bounds : RowBounds) :
    Accomplishes SessionScene.traced
      (OnStatement configuration id (Within (Executor.Performs source .query))) fun chain =>
        list (Pipeline.traced source configuration chain) id bounds := by
  refine accomplishes_onStatement configuration fun statement => ?_
  refine Accomplishes.get_bind (fun _ _ _ => rfl) fun scene => ?_
  exact (accomplishes_perform (Executor.performs_query source configuration statement
    scene.parameter bounds)).inContext _

theorem performs_one (id : String) :
    Accomplishes SessionScene.traced
      (OnStatement configuration id (Within (Executor.Performs source .query))) fun chain =>
        one (Pipeline.traced source configuration chain) id := by
  refine (performs_list source configuration id .unbounded).answering fun rows => ?_
  rcases rows with _ | ⟨row, _ | _⟩
  · exact ⟨.ok none, rfl⟩
  · exact ⟨.ok (some row), rfl⟩
  · exact ⟨.error _, rfl⟩

theorem performs_cursor (id : String) (bounds : RowBounds) :
    Accomplishes SessionScene.traced
      (OnStatement configuration id (Within (Executor.Performs source .queryCursor))) fun chain =>
        cursor (Pipeline.traced source configuration chain) id bounds := by
  refine accomplishes_onStatement configuration fun statement => ?_
  refine Accomplishes.get_bind (fun _ _ _ => rfl) fun scene => ?_
  exact (accomplishes_perform (Executor.performs_queryCursor source configuration statement
    scene.parameter bounds)).inContext _

theorem performs_update (id : String) :
    Accomplishes SessionScene.traced
      (OnStatement configuration id (Within (Executor.Performs source .update))) fun chain =>
        update (Pipeline.traced source configuration chain) id := by
  refine accomplishes_onStatement configuration fun statement => ?_
  exact accomplishes_setDirty_before true
    ((accomplishes_perform (Executor.performs_update source configuration statement)).inContext _)

theorem performs_flush :
    Accomplishes SessionScene.traced (Within (Executor.Performs source .flush)) fun chain =>
      flush (Pipeline.traced source configuration chain) :=
  (accomplishes_perform (Executor.performs_flush source configuration)).inContext _

theorem performs_commit (force : Bool) :
    Accomplishes SessionScene.traced
      (fun before deeds after => Within (Executor.Performs source .commit) before deeds after ∧
        (before.session.required force = false →
          Event.Without Operation.isCommit (Deed.asked τ deeds)))
      fun chain => commit (Pipeline.traced source configuration chain) force := by
  have committed (required : Bool) := (accomplishes_perform
    (Executor.performs_commit source configuration required)).inContext
      "Error committing transaction"
  refine Accomplishes.get_bind_of (fun scene before deeds after =>
    Within (Executor.Performs source .commit) before deeds after ∧
      (scene.session.required force = false →
        Event.Without Operation.isCommit (Deed.asked τ deeds))) (fun _ _ _ => rfl) fun scene => ?_
  exact accomplishes_setDirty_behind false (fun _ _ _ => id) (committed (scene.session.required force))

theorem performs_rollback (force : Bool) :
    Accomplishes SessionScene.traced (Within (Executor.Performs source .rollback)) fun chain =>
      rollback (Pipeline.traced source configuration chain) force := by
  have rolledBack (required : Bool) := (accomplishes_perform
    (Executor.performs_rollback source configuration required)).inContext
      "Error rolling back transaction"
  exact Accomplishes.get_bind (fun _ _ _ => rfl) fun scene =>
    accomplishes_setDirty_behind false (fun _ _ _ => id) (rolledBack (scene.session.required force))

theorem ends_close :
    Accomplishes SessionScene.traced (Within (Scene.Ends source)) fun chain =>
      close (Pipeline.traced source configuration chain) := by
  have ends (required : Bool) :=
    accomplishes_perform (Executor.ends_close source configuration required)
  intro scene
  cases closed : scene.session.isClosed with
  | true =>
      refine ⟨.ok (), scene, [], Scene.Ends.of_closed closed, fun chain _ trace => ?_⟩
      show close (Pipeline.traced source configuration chain.noted) (scene.traced trace) = _
      rw [close, Action.bind_apply, Action.get_apply, Deed.eventsOf, List.append_nil]
      dsimp only [SessionScene.traced]
      rw [if_pos closed]
      rfl
  | false =>
      obtain ⟨result, after, deeds, known, same⟩ := accomplishes_setDirty_behind false
        (fun _ _ _ => id) (ends (scene.session.required false)) scene
      refine ⟨result, after, deeds, known, fun chain proceeds trace => ?_⟩
      show close (Pipeline.traced source configuration chain.noted) (scene.traced trace) = _
      rw [← same chain proceeds, close, Action.bind_apply, Action.get_apply]
      dsimp only [SessionScene.traced]
      rw [if_neg (by simp [closed])]

def Selects (before : SessionScene τ) (deeds : List Deed) (after : SessionScene τ) : Prop :=
  ∃ middle opening reading, deeds = opening ++ reading ∧
    Within (Executor.Performs source .queryCursor) before opening middle ∧
    Asking source Operation.reads middle.source reading after.source ∧
    after.session = middle.session

theorem selects_select (id : String) (bounds : RowBounds) (receive : Nat → Value → Action ρ Bool)
    (receiver : ρ) :
    Accomplishes SessionScene.traced (OnStatement configuration id (Selects source)) fun chain =>
        select (Pipeline.traced source configuration chain) id bounds receive receiver := by
  intro scene
  obtain ⟨result, middle, opening, known, opens⟩ :=
    performs_cursor source configuration id bounds scene
  unfold OnStatement at known ⊢
  cases found : configuration.statement id with
  | error e =>
      refine ⟨.ok (.error e, receiver), scene, [], ⟨rfl, rfl⟩, fun chain _ trace => ?_⟩
      have failed : cursor (Pipeline.traced source configuration chain.noted) id bounds
          (scene.traced trace) = (.error e, scene.traced trace) := by
        have same : (Pipeline.traced source configuration chain.noted).configuration.statement id =
            configuration.statement id := rfl
        rw [cursor, same, found]
        rfl
      refine (Action.bind_apply _ _ _).trans ?_
      rw [Action.attempt, failed, Deed.eventsOf, List.append_nil]
      rfl
  | ok statement =>
      rw [found] at known
      cases result with
      | error e =>
          refine ⟨.ok (.error e, receiver), middle, opening,
            ⟨middle, opening, [], (List.append_nil _).symm, known, .quiet fun _ => rfl, rfl⟩,
            fun chain proceeds trace => ?_⟩
          have failed : cursor (Pipeline.traced source configuration chain.noted) id bounds
            (scene.traced trace) = _ := opens chain proceeds trace
          refine (Action.bind_apply _ _ _).trans ?_
          rw [Action.attempt, failed]
          rfl
      | ok opened =>
          -- a cursor was handed out, and its rows are read behind the deeds that opened it
          obtain ⟨went, ⟨⟨database, rest⟩, received⟩, reading, asked, streams⟩ := reading_stream source
            receive opened.bounds.limit ((middle.source, opened), receiver)
          refine ⟨.ok (went, received), { middle with source := database }, opening ++ reading,
            ⟨middle, opening, reading, rfl, known, asked, rfl⟩, fun chain proceeds trace => ?_⟩
          have handed : cursor (Pipeline.traced source configuration chain.noted) id bounds
            (scene.traced trace) = _ := opens chain proceeds trace
          have streamed : stream (Traced.around source) receive opened.bounds.limit
            ((⟨middle.source, trace ++ Deed.eventsOf chain opening⟩, opened), receiver) = _ :=
              streams chain proceeds (trace ++ Deed.eventsOf chain opening)
          refine (Action.bind_apply _ _ _).trans ?_
          rw [Action.attempt, handed, Deed.eventsOf_append, ← List.append_assoc]
          dsimp only
          unfold onSource Action.within
          dsimp only [SessionScene.traced, Action.run]
          have around : (Pipeline.traced source configuration chain.noted).source =
              Traced.around source := rfl
          rw [around, streamed]
          rfl

def Knowing {σ : Type} (configuration : Configuration σ) (id : String) (deeds : List Deed)
    (known : Prop) : Prop :=
  match configuration.statement id with
  | .ok _ => known
  | .error _ => deeds = []

theorem Knowing.elim {σ : Type} {configuration : Configuration σ} {id : String} {deeds : List Deed}
    {known : Prop} (knowing : Knowing configuration id deeds known) : known ∨ deeds = [] := by
  unfold Knowing at knowing
  cases found : configuration.statement id with
  | ok statement =>
      rw [found] at knowing
      exact .inl knowing
  | error e =>
      rw [found] at knowing
      exact .inr knowing

def Call.Does {σ : Type} (configuration : Configuration σ) (deeds : List Deed) : Call → Prop
  | list id _ | one id => Knowing configuration id deeds (Deed.Performs .query deeds)
  | cursor id _ => Knowing configuration id deeds (Deed.Performs .queryCursor deeds)
  | select id _ _ _ => Knowing configuration id deeds
      (∃ opening reading, deeds = opening ++ reading ∧ Deed.Performs .queryCursor opening ∧
        Deed.Only Operation.reads reading)
  | update id => Knowing configuration id deeds (Deed.Performs .update deeds)
  | flush => Deed.Performs .flush deeds
  | commit _ => Deed.Performs .commit deeds
  | rollback _ => Deed.Performs .rollback deeds
  | clearCache => deeds = []
  | close => Deed.Fits none deeds

def Carries (before : SessionScene τ) (deeds : List Deed) (after : SessionScene τ) : Prop :=
  Transaction.Carries source (before.source, before.session.executor.transaction) deeds
    (after.source, after.session.executor.transaction) ∧
  after.session.executor.closed = before.session.executor.closed

def Call.Handles (before : SessionScene τ) (deeds : List Deed) (after : SessionScene τ) : Call → Prop
  | commit force => Session.Carries source before deeds after ∧
      (before.session.required force = false → Event.Without Operation.isCommit (Deed.asked τ deeds))
  | close => Within (Scene.Ends source) before deeds after
  | _ => Session.Carries source before deeds after

section

variable {source configuration} {before after : SessionScene τ} {deeds : List Deed}

theorem performs_of_over {method : Method}
    (performs : Within (Executor.Performs source method) before deeds after) :
    Deed.Performs method deeds ∧ Session.Carries source before deeds after := by
  obtain ⟨inner, rfl, inside⟩ := performs
  exact ⟨⟨inner, rfl, inside.fits⟩, inside.carries.performs method, inside.closed⟩

theorem OnStatement.does {id : String} {known : Prop}
    {told : SessionScene τ → List Deed → SessionScene τ → Prop}
    (on : OnStatement configuration id told before deeds after)
    (gives : told before deeds after → known ∧ Session.Carries source before deeds after) :
    Knowing configuration id deeds known ∧ Session.Carries source before deeds after := by
  unfold OnStatement at on
  unfold Knowing
  cases found : configuration.statement id with
  | ok statement =>
      rw [found] at on
      exact gives on
  | error e =>
      rw [found] at on
      obtain ⟨rfl, rfl⟩ := on
      exact ⟨rfl, .quiet _ fun _ => rfl, rfl⟩

theorem Selects.does (selects : Selects source before deeds after) :
    (∃ opening reading, deeds = opening ++ reading ∧ Deed.Performs .queryCursor opening ∧
      Deed.Only Operation.reads reading) ∧ Session.Carries source before deeds after := by
  obtain ⟨middle, opening, reading, rfl, performs, asking, session⟩ := selects
  obtain ⟨performed, carries, closed⟩ := performs_of_over performs
  refine ⟨⟨opening, reading, rfl, performed, asking.kind⟩, ?_⟩
  have read := Transaction.Carries.of_reads middle.session.executor.transaction asking
  rw [Session.Carries, session]
  exact ⟨carries.append read, closed⟩

end

theorem accomplishes_ask (call : Call) :
    Accomplishes SessionScene.traced
      (fun before deeds after =>
        call.Does configuration deeds ∧ call.Handles source before deeds after)
      fun chain => call.ask (Pipeline.traced source configuration chain) := by
  have answers {α β : Type} (b : β) (a : α) : ∃ result : Except Error (α × β),
      (Pure.pure (a, b) : Act (Traced τ) (α × β)) = Action.ofResult result := ⟨.ok (a, b), rfl⟩
  cases call with
  | list id bounds =>
      exact ((performs_list source configuration id bounds).answering (answers [])).mono
        fun known => known.does performs_of_over
  | one id =>
      exact ((performs_one source configuration id).answering (answers [])).mono
        fun known => known.does performs_of_over
  | cursor id bounds =>
      exact ((performs_cursor source configuration id bounds).answering
        fun cursor => ⟨.ok ((), [cursor]), rfl⟩).mono fun known => known.does performs_of_over
  | select id bounds receive receiver =>
      exact ((selects_select source configuration id bounds receive receiver).answering
        (answers [])).mono fun known => known.does Selects.does
  | update id =>
      exact ((performs_update source configuration id).answering (answers [])).mono
        fun known => known.does performs_of_over
  | flush =>
      exact ((performs_flush source configuration).answering (answers [])).mono
        performs_of_over
  | commit force =>
      refine ((performs_commit source configuration force).answering (answers [])).mono ?_
      rintro before deeds after ⟨performs, optional⟩
      obtain ⟨performed, carries⟩ := performs_of_over performs
      exact ⟨performed, carries, optional⟩
  | rollback force =>
      exact ((performs_rollback source configuration force).answering (answers [])).mono
        performs_of_over
  | clearCache =>
      -- clearing touches the local cache alone, and nothing if the executor is closed
      have cleared : Accomplishes SessionScene.traced
          (fun before deeds after => deeds = [] ∧ Session.Carries source before deeds after)
          fun _ : Chain (Traced τ) => clearCache := by
        refine .idle clearCache (fun _ _ => rfl) fun scene => ⟨rfl, ?_⟩
        have cleared : (clearCache scene).2.session.executor = if scene.session.executor.closed
            then scene.session.executor else { scene.session.executor with localCache := [] } := rfl
        rw [Session.Carries, cleared]
        split <;> exact ⟨.quiet _ fun _ => rfl, rfl⟩
      exact cleared.answering (answers [])
  | close =>
      exact ((ends_close source configuration).answering (answers [])).mono
        fun ends => ⟨ends.fits, ends⟩

end Session

namespace Visit

def traced (visit : Visit τ) (trace : List Event) : Visit (Traced τ) :=
  ⟨⟨visit.source, trace⟩, visit.shared, visit.session, visit.cursors⟩

/-- What a move does: a call what it does, and cursors only read. -/
def Move.Does {σ : Type} (configuration : Configuration σ) (deeds : List Deed) : Move → Prop
  | calls _ call => call.Does configuration deeds
  | next _ | closes _ | drops _ => Deed.Only Operation.reads deeds

variable (source : DataSource τ) (configuration : Configuration (Traced τ))

def Move.Handles (before : Visit τ) (deeds : List Deed) (after : Visit τ) : Move → Prop
  | calls parameter call => ∃ left : SessionScene τ,
      call.Handles source (before.scene parameter) deeds left ∧
      after.source = left.source ∧ after.session = left.session
  | next _ | closes _ | drops _ => Asking source Operation.reads before.source deeds after.source ∧
      after.session = before.session

theorem accomplishes_onCursor (visit : Visit τ) (place : Nat)
    {act : Action (Traced τ × Cursor) α} (reading : Cursor.ReadsOnly source act) :
    ∃ (reply : Option (Except Error α)) (after : Visit τ) (deeds : List Deed),
      (Asking source Operation.reads visit.source deeds after.source ∧
        after.session = visit.session) ∧
      ∀ chain : Chain (Traced τ),
        (∀ registration ∈ chain, registration.interceptor.ProceedsOnly) → ∀ trace,
          (visit.traced trace).onCursor place act =
            (reply, after.traced (trace ++ Deed.eventsOf chain deeds)) := by
  cases found : visit.cursors[place]? with
  | none =>
      refine ⟨none, visit, [], ⟨.quiet fun _ => rfl, rfl⟩, fun chain _ trace => ?_⟩
      have unfound : (visit.traced trace).cursors[place]? = none := found
      rw [Deed.eventsOf, List.append_nil]
      exact onCursor_of_none unfound act
  | some cursor =>
      obtain ⟨result, ⟨database, left⟩, deeds, asking, same⟩ := reading (visit.source, cursor)
      refine ⟨some result, { visit with source := database, cursors := visit.cursors.set place left },
        deeds, ⟨asking, rfl⟩, fun chain proceeds trace => ?_⟩
      have went : act (⟨visit.source, trace⟩, cursor) = _ := same chain proceeds trace
      have known : (visit.traced trace).cursors[place]? = some cursor := found
      refine (onCursor_of_some known act).trans ?_
      dsimp only [traced]
      rw [went]
      rfl

theorem accomplishes_letGo (pipeline : Pipeline (Traced τ))
    (around : pipeline.source = Traced.around source) (visit : Visit τ) (place : Nat) :
    ∃ (after : Visit τ) (deeds : List Deed),
      (Asking source Operation.reads visit.source deeds after.source ∧
        after.session = visit.session) ∧
      ∀ chain : Chain (Traced τ),
        (∀ registration ∈ chain, registration.interceptor.ProceedsOnly) → ∀ trace,
          (visit.traced trace).letGo (pipeline.under chain.noted) place =
            after.traced (trace ++ Deed.eventsOf chain deeds) := by
  cases found : visit.cursors[place]? with
  | none =>
      refine ⟨visit, [], ⟨.quiet fun _ => rfl, rfl⟩, fun chain _ trace => ?_⟩
      have unfound : (visit.traced trace).cursors[place]? = none := found
      rw [Deed.eventsOf, List.append_nil, letGo, unfound]
  | some cursor =>
      obtain ⟨result, ⟨database, left⟩, deeds, asking, same⟩ :=
        Cursor.reading_close source (visit.source, cursor)
      refine ⟨{ visit with source := database, cursors := visit.cursors.eraseIdx place }, deeds,
        ⟨asking, rfl⟩, fun chain proceeds trace => ?_⟩
      have went : Cursor.close (Traced.around source) (⟨visit.source, trace⟩, cursor) = _ :=
        same chain proceeds trace
      have known : (visit.traced trace).cursors[place]? = some cursor := found
      rw [letGo, known]
      dsimp only [Cursor.drop, traced, Pipeline.under]
      rw [around, went]
      rfl

theorem accomplishes_step (visit : Visit τ) (move : Move) :
    ∃ (reply : move.Reply) (after : Visit τ) (deeds : List Deed),
      move.Does configuration deeds ∧ move.Handles source visit deeds after ∧
      ∀ chain : Chain (Traced τ),
        (∀ registration ∈ chain, registration.interceptor.ProceedsOnly) → ∀ trace,
          (visit.traced trace).step (Pipeline.traced source configuration chain.noted) move =
            (reply, after.traced (trace ++ Deed.eventsOf chain deeds)) := by
  cases move with
  | calls parameter call =>
      obtain ⟨result, left, deeds, ⟨does, handles⟩, same⟩ :=
        Session.accomplishes_ask source configuration call (visit.scene parameter)
      cases result with
      | error e =>
          refine ⟨(.error e, left.parameter), visit.leave left [], deeds, does, ⟨left, handles, rfl, rfl⟩,
            fun chain proceeds trace => ?_⟩
          have failed : call.ask (Pipeline.traced source configuration chain.noted)
            ((visit.traced trace).scene parameter) = _ := same chain proceeds trace
          exact ask_of_error failed
      | ok answer =>
          obtain ⟨reply, handed⟩ := answer
          refine ⟨(.ok reply, left.parameter), visit.leave left handed, deeds, does,
            ⟨left, handles, rfl, rfl⟩, fun chain proceeds trace => ?_⟩
          have went : call.ask (Pipeline.traced source configuration chain.noted)
            ((visit.traced trace).scene parameter) = _ := same chain proceeds trace
          exact ask_of_ok went
  | next place =>
      obtain ⟨reply, after, deeds, reads, same⟩ :=
        accomplishes_onCursor source visit place (Cursor.reading_next source)
      exact ⟨reply, after, deeds, reads.1.kind, reads, same⟩
  | closes place =>
      obtain ⟨reply, after, deeds, reads, same⟩ :=
        accomplishes_onCursor source visit place (Cursor.reading_close source)
      exact ⟨reply, after, deeds, reads.1.kind, reads, same⟩
  | drops place =>
      obtain ⟨after, deeds, reads, same⟩ := accomplishes_letGo source
        ⟨configuration, Traced.around source, []⟩ rfl visit place
      refine ⟨(), after, deeds, reads.1.kind, reads, fun chain proceeds trace => ?_⟩
      exact congrArg (Prod.mk ()) (same chain proceeds trace)

end Visit

end MappedSql
