import MappedSql.Proofs.Execution.Ownership

namespace MappedSql

variable {σ α β : Type}

open Standing (baseOf viewOf updatesOf)
open Work (Ensures)

variable {picture : Picture σ} {pipeline : Pipeline σ} {strategy : Strategy}
  {links : List (String × StatementId)} {runs : String → Prop}

namespace Work.Ensures

theorem onSource {pre : Scene σ → Prop} {act : Action σ α} {post : α → Scene σ → Prop}
    {fails : Scene σ → Prop}
    (holds : ∀ scene, pre scene →
      scene.Step picture runs (scene.withSource (act scene.source).2) ∧
        (∀ a, (act scene.source).1 = .ok a → post a (scene.withSource (act scene.source).2)) ∧
        (∀ e, (act scene.source).1 = .error e → fails (scene.withSource (act scene.source).2))) :
    Ensures picture runs pre (Work.onSource act) post fails :=
  holds

theorem spends {act : Action σ α} {sql : String} {st : StatementId} (mem : (sql, st) ∈ links)
    (law : ∀ state, picture.Spends st state (act state).2) :
    Ensures picture runs (Scene.Owns picture pipeline strategy links) (Work.onSource act)
      (fun _ => Scene.Owns picture pipeline strategy links)
      (Scene.Owns picture pipeline strategy links) := by
  apply onSource
  intro scene owns
  have still := owns.spends (law scene.source)
  refine ⟨owns.step_keeps (law scene.source).keeps ?_ runs, fun _ _ => still, fun _ _ => still⟩
  rintro _ rfl
  exact ⟨sql, mem⟩

theorem executes {act : Action σ α} {sql : String} {st : StatementId} (mem : (sql, st) ∈ links)
    (law : ∀ state prepared, picture.prepared state st = some prepared →
      picture.isOpen state prepared.connection → pipeline.Fits sql prepared.request →
      picture.Runs runs st prepared state (act state).2) :
    Ensures picture runs (Scene.Owns picture pipeline strategy links) (Work.onSource act)
      (fun _ => Scene.Owns picture pipeline strategy links)
      (Scene.Owns picture pipeline strategy links) := by
  apply onSource
  intro scene owns
  obtain ⟨prepared, found, own, isOpen, fits⟩ := owns.statement mem
  have ran := law scene.source prepared found isOpen fits
  exact ⟨owns.step_runs mem found ran, fun _ _ => owns.runs found ran,
    fun _ _ => owns.runs found ran⟩

end Work.Ensures

theorem DataSource.finishStatement_after (source : DataSource σ) (st : StatementId) (state : σ) :
    (source.finishStatement st state).2 =
      source.dropStatement st (source.closeStatement st state).2 :=
  rfl

theorem DataSource.Isolates.finish {source : DataSource σ} (isolates : source.Isolates picture)
    (st : StatementId) (state : σ) :
    picture.Keeps (· = st) state (source.finishStatement st state).2 := by
  rw [DataSource.finishStatement_after]
  exact (isolates.closeStatement state st).trans (isolates.dropStatement _ st)

theorem DataSource.Isolates.finishRows {source : DataSource σ} (isolates : source.Isolates picture)
    (rows : RowsId) (state : σ) :
    picture.Keeps (fun _ => False) state (source.finishRows rows state).2 := by
  have left : (source.finishRows rows state).2 =
      source.dropRows rows (source.closeRows rows state).2 := rfl
  rw [left]
  exact (isolates.closeRows state rows).trans (isolates.dropRows _ rows)

section

variable {source : DataSource σ} {state : σ} {transaction : Transaction}

theorem obtain_of_closed (ended : transaction.closed = true) :
    Transaction.obtain source (state, transaction) =
      (.error (.of (.closed "transaction already closed")), (state, transaction)) := by
  obtain ⟨autocommit, timeout, connection, closed⟩ := transaction
  cases ended
  rfl

theorem obtain_of_connected (isOpen : transaction.closed = false) {c : ConnectionId}
    (own : transaction.connection = some c) :
    Transaction.obtain source (state, transaction) = (.ok c, (state, transaction)) := by
  obtain ⟨autocommit, timeout, connection, closed⟩ := transaction
  cases isOpen
  cases own
  rfl

theorem obtain_of_none (isOpen : transaction.closed = false) (own : transaction.connection = none) :
    Transaction.obtain source (state, transaction) =
      (do
        let connection ← (source.connect transaction.autocommit).onFirst
        modify fun (state, transaction) =>
          (state, { transaction with connection := some connection })
        return connection : Action (σ × Transaction) ConnectionId) (state, transaction) := by
  obtain ⟨autocommit, timeout, connection, closed⟩ := transaction
  cases isOpen
  cases own
  rfl

theorem connect_onFirst (autocommit : Bool) :
    (source.connect autocommit).onFirst (state, transaction) =
      ((source.connect autocommit state).1, ((source.connect autocommit state).2, transaction)) :=
  rfl

theorem obtain_of_refused (isOpen : transaction.closed = false) (own : transaction.connection = none)
    {e : Error} {after : σ}
    (refused : source.connect transaction.autocommit state = (.error e, after)) :
    Transaction.obtain source (state, transaction) = (.error e, (after, transaction)) := by
  rw [obtain_of_none isOpen own, Action.bind_apply, connect_onFirst, refused]

theorem obtain_of_opened (isOpen : transaction.closed = false) (own : transaction.connection = none)
    {c : ConnectionId} {after : σ}
    (opened : source.connect transaction.autocommit state = (.ok c, after)) :
    Transaction.obtain source (state, transaction) =
      (.ok c, (after, { transaction with connection := some c })) := by
  rw [obtain_of_none isOpen own, Action.bind_apply, connect_onFirst, opened]
  rfl

end

variable (regular : pipeline.Regular picture)

include regular

theorem ensures_finish (sql : String) (st : StatementId) :
    Ensures picture runs (Scene.Owns picture pipeline strategy ((sql, st) :: links))
      (Work.onSource (pipeline.source.finishStatement st))
      (fun _ => Scene.Owns picture pipeline strategy links)
      (Scene.Owns picture pipeline strategy links) := by
  apply Work.Ensures.onSource
  intro scene owns
  have closed := regular.isolates.finish st scene.source
  have left := owns.keeps closed (List.sublist_cons_self _ _) owns.apart
  refine ⟨owns.step_keeps closed ?_ runs, fun _ _ => left, fun _ _ => left⟩
  rintro _ rfl
  exact ⟨sql, List.mem_cons_self⟩

theorem ensures_obtain :
    Ensures picture runs (Scene.Owns picture pipeline strategy links)
      (Work.onTransaction (Transaction.obtain pipeline.source))
      (fun c scene => scene.Owns picture pipeline strategy links ∧ scene.connection = some c)
      (Scene.Owns picture pipeline strategy links) := by
  intro scene owns
  have left : Work.onTransaction (Transaction.obtain pipeline.source) scene =
      ((Transaction.obtain pipeline.source (scene.source, scene.executor.transaction)).1,
        { scene with
          source := (Transaction.obtain pipeline.source
            (scene.source, scene.executor.transaction)).2.1
          executor := { scene.executor with
            transaction := (Transaction.obtain pipeline.source
              (scene.source, scene.executor.transaction)).2.2 } }) := rfl
  rw [left]
  cases ended : scene.executor.transaction.closed with
  | true =>
      rw [obtain_of_closed ended]
      exact ⟨.refl runs scene, by rintro _ ⟨⟩, fun _ _ => owns⟩
  | false =>
      cases own : scene.executor.transaction.connection with
      | some c =>
          rw [obtain_of_connected ended own]
          refine ⟨.refl runs scene, ?_, by rintro _ ⟨⟩⟩
          rintro _ ⟨⟩
          exact ⟨owns, own⟩
      | none =>
          -- nothing is linked without a connection, so the new one finds nothing to keep
          have unlinked : links = [] := by
            rcases links with _ | ⟨link, rest⟩
            · rfl
            · obtain ⟨prepared, -, other, -⟩ := owns.linked link List.mem_cons_self
              rw [Scene.connection, own] at other
              cases other
          have keeps := regular.isolates.connect scene.source
          have connected := regular.isolates.connected scene.source
          rw [← owns.manual] at keeps connected
          rcases went : pipeline.source.connect scene.executor.transaction.autocommit scene.source with
            ⟨e | c, after⟩ <;> rw [went] at keeps connected
          · rw [obtain_of_refused ended own went]
            exact ⟨owns.step_keeps keeps (fun _ no => no.elim) runs, by rintro _ ⟨⟩, fun _ _ =>
              owns.keeps keeps (List.Sublist.refl _) fun _ _ _ => id⟩
          · obtain ⟨fresh, isOpen, idle⟩ := connected c rfl
            rw [obtain_of_opened ended own went]
            have before : scene.standing picture = none := by
              rw [Scene.standing, Scene.connection, own]
              rfl
            refine ⟨⟨⟨⟨fun c' open' _ => keeps.isOpen c' open', fun c' open' _ =>
              keeps.standing c' open', fun st prepared found _ _ =>
                keeps.statements st prepared id found⟩, ?_⟩, keeps.committed, ?_⟩, ?_,
              by rintro _ ⟨⟩⟩
            · rintro _ ⟨⟩
              exact .inr fresh
            · rw [before]
              change picture.Advances runs _ none (picture.standing after c)
              rw [idle]
              exact .refl _ _ _
            · rintro _ ⟨⟩
              refine ⟨⟨owns.strategy, owns.manual, ?_, ?_, owns.distinct⟩, rfl⟩
              · rintro _ ⟨⟩
                exact isOpen
              · rw [unlinked]
                rintro link ⟨⟩

variable {handler : Handler} (invokes : pipeline.Invokes handler)

include invokes

theorem ensures_prepareInTransaction :
    Ensures picture runs (Scene.Owns picture pipeline strategy links)
      (handler.prepareInTransaction pipeline)
      (fun st => Scene.Owns picture pipeline strategy ((handler.bound.sql, st) :: links))
      (Scene.Owns picture pipeline strategy links) := by
  unfold Handler.prepareInTransaction Handler.prepare
  apply Ensures.bind Ensures.executor
  intro executor
  apply Ensures.bind ((ensures_obtain regular).weaken (fun _ pre => pre.1) (fun _ _ => id) fun _ => id)
  intro c
  rw [regular.plain.call_eq]
  apply Ensures.inContext
  apply Ensures.onSource
  rintro scene ⟨owns, own⟩
  have keeps := regular.isolates.prepare scene.source c (handler.preparedSql pipeline)
    (handler.prepareOptions pipeline executor.transaction.timeout)
  have still := owns.keeps keeps (List.Sublist.refl _) fun _ _ _ => id
  refine ⟨owns.step_keeps keeps (fun _ no => no.elim) runs, fun st done => ?_, fun _ _ => still⟩
  obtain ⟨fresh, present⟩ := regular.isolates.preparedOf scene.source c _ _ st done
  refine ⟨still.strategy, still.manual, still.isOpen, ?_, ?_⟩
  · intro link mem
    rcases List.mem_cons.1 mem with rfl | mem
    · exact ⟨_, present, own, invokes.fits⟩
    · exact still.linked link mem
  · rw [List.map_cons, List.nodup_cons]
    refine ⟨?_, owns.distinct⟩
    intro mem
    obtain ⟨link, present', same⟩ := List.mem_map.1 mem
    obtain ⟨prepared, found, -⟩ := owns.linked link present'
    rw [same, fresh] at found
    cases found

omit regular invokes in
theorem Pipeline.Fits.sql {request : Request} (fits : pipeline.Fits handler.bound.sql request) :
    request.sql = handler.preparedSql pipeline := by
  obtain ⟨other, -, text, same, -⟩ := fits
  rw [same, Handler.preparedSql, Handler.preparedSql, text]

theorem Pipeline.Fits.placed {sql : String} {request : Request} (fits : pipeline.Fits sql request)
    (same : request.sql = handler.preparedSql pipeline) {position : Nat}
    (found : request.placed position ≠ none) : position ∈ handler.positions := by
  obtain ⟨other, invokes', -, same', placed⟩ := fits
  rw [regular.steady handler other invokes invokes' (same.symm.trans same')]
  exact placed position found

theorem Pipeline.Fits.place {sql : String} {request : Request} (fits : pipeline.Fits sql request)
    (same : request.sql = handler.preparedSql pipeline) {position : Nat}
    (inside : position ∈ handler.positions) (value : Value) :
    pipeline.Fits sql (request.place position value) := by
  obtain ⟨other, invokes', text, same', placed⟩ := fits
  refine ⟨other, invokes', text, same', fun position' found => ?_⟩
  by_cases at_ : position' = position
  · rw [at_, ← regular.steady handler other invokes invokes' (same.symm.trans same')]
    exact inside
  · apply placed position'
    simpa [Request.place, Function.update_of_ne at_] using found

structure Scene.Holds (picture : Picture σ) (pipeline : Pipeline σ) (strategy : Strategy)
    (links : List (String × StatementId)) (st : StatementId) (request : Request) (scene : Scene σ) :
    Prop where
  owns : scene.Owns picture pipeline strategy links
  placed : ∃ c, picture.prepared scene.source st = some ⟨c, request⟩

variable {st : StatementId} (mem : (handler.bound.sql, st) ∈ links)

include mem

theorem ensures_bindOne {mapping : ParameterMapping} {value : Value}
    (converted : handler.bound.converted mapping = .ok value) {position : Nat}
    (inside : position ∈ handler.positions) (request : Request) :
    Ensures picture runs (Scene.Holds picture pipeline strategy links st request)
      (handler.bindOne pipeline st position mapping)
      (fun _ => Scene.Holds picture pipeline strategy links st (request.place position value))
      (Scene.Owns picture pipeline strategy links) := by
  rintro scene ⟨owns, c, found⟩
  obtain ⟨context, bound⟩ := @Handler.bindOne_of_converted σ pipeline handler mapping value converted
    st position scene
  have keeps := regular.isolates.setParameter scene.source st position value
  have step := owns.step_keeps keeps (fun _ same => ⟨handler.bound.sql, same ▸ mem⟩) runs
  rw [bound]
  cases went : (pipeline.source.setParameter st position value scene.source).1 with
  | error e =>
      have present := regular.isolates.refused scene.source st position value _ e found went
      exact ⟨step, by rintro _ ⟨⟩, fun _ _ => owns.sets found keeps present fun _ _ => id⟩
  | ok =>
      have present := regular.isolates.placed scene.source st position value _ found went
      have same : request.sql = handler.preparedSql pipeline := by
        obtain ⟨prepared, found', -, -, fits⟩ := owns.statement mem
        rw [found, Option.some.injEq] at found'
        subst found'
        exact fits.sql
      refine ⟨step, fun _ _ => ⟨?_, c, present⟩, by rintro _ ⟨⟩⟩
      exact owns.sets found keeps present fun sql _ fits =>
        fits.place regular invokes same inside value

theorem ensures_bindFrom (mappings : List ParameterMapping) (position : Nat)
    (inside : ∀ n ∈ BoundSql.sentFrom position mappings, n ∈ handler.positions)
    (request : Request) :
    Ensures picture runs (Scene.Holds picture pipeline strategy links st request)
      (handler.bindFrom pipeline st position mappings)
      (fun _ scene => scene.Holds picture pipeline strategy links st
          (request.placeAll (handler.bound.placedFrom position mappings)) ∧
        (handler.bound.placedFrom position mappings).map Prod.fst =
          BoundSql.sentFrom position mappings)
      (Scene.Owns picture pipeline strategy links) := by
  induction mappings generalizing position request with
  | nil => exact Ensures.pure () fun _ holds => ⟨holds, rfl⟩
  | cons mapping rest ih =>
      unfold Handler.bindFrom BoundSql.placedFrom BoundSql.sentFrom
      unfold BoundSql.sentFrom at inside
      cases sends : mapping.direction != .output with
      | false =>
          rw [sends] at inside
          exact ih (position + 1) inside request
      | true =>
          rw [sends] at inside
          simp only [if_true, List.mem_cons, forall_eq_or_imp] at inside ⊢
          cases converted : handler.bound.converted mapping with
          | error e =>
              rintro scene ⟨owns, -⟩
              obtain ⟨e', failed⟩ := @Handler.bindOne_of_refused σ pipeline handler mapping e converted
                st position scene
              rw [Action.bind_apply, failed]
              exact ⟨.refl runs scene, by rintro _ ⟨⟩, fun _ _ => owns⟩
          | ok value =>
              apply Ensures.bind (ensures_bindOne regular invokes mem converted inside.1 request)
              intro _
              apply (ih (position + 1) inside.2 (request.place position value)).weaken (fun _ => id) _
                fun _ => id
              rintro _ scene ⟨holds, same⟩
              exact ⟨holds, by rw [List.map_cons, same]⟩

omit mem in
theorem Pipeline.Fits.filled {request : Request} (fits : pipeline.Fits handler.bound.sql request)
    (complete : handler.placed.map Prod.fst = handler.positions) :
    request.placeAll handler.placed = handler.request pipeline := by
  apply Request.placeAll_congr fits.sql
  intro position missing
  by_contra found
  rw [complete] at missing
  exact missing (fits.placed regular invokes fits.sql found)

omit invokes in
theorem ensures_registerFrom (mappings : List ParameterMapping) (position : Nat) :
    Ensures picture runs (Scene.Owns picture pipeline strategy links)
      (handler.registerFrom pipeline st position mappings)
      (fun _ => Scene.Owns picture pipeline strategy links)
      (Scene.Owns picture pipeline strategy links) := by
  induction mappings generalizing position with
  | nil => exact Ensures.pure () fun _ => id
  | cons mapping rest ih =>
      unfold Handler.registerFrom
      split
      · apply Ensures.bind (Ensures.ofResult (fun _ _ _ => id) fun _ => id)
        intro type
        apply Ensures.bind (Ensures.spends mem fun state =>
          regular.isolates.registerOutput state st position (some type))
        intro _
        exact ih (position + 1)
      · exact ih (position + 1)

theorem ensures_setParameters
    (placed : handler.placed = handler.bound.placedFrom 1 handler.bound.mappings)
    (positions : handler.positions = BoundSql.sentFrom 1 handler.bound.mappings) :
    Ensures picture runs (Scene.Owns picture pipeline strategy links)
      (handler.setParameters pipeline st)
      (fun _ => Scene.Holds picture pipeline strategy links st (handler.request pipeline))
      (Scene.Owns picture pipeline strategy links) := by
  intro scene owns
  obtain ⟨prepared, found, -, -, fits⟩ := owns.statement mem
  have inside : ∀ n ∈ BoundSql.sentFrom 1 handler.bound.mappings, n ∈ handler.positions := by
    rw [positions]
    exact fun _ => id
  have bound : Ensures picture runs
      (Scene.Holds picture pipeline strategy links st prepared.request) _ _ _ :=
    ensures_bindFrom regular invokes mem handler.bound.mappings 1 inside prepared.request
  rw [Handler.setParameters, regular.plain.call_eq]
  apply bound.weaken (fun _ => id) _ (fun _ => id) scene ⟨owns, _, found⟩
  rintro _ after ⟨holds, complete⟩
  rw [← placed] at holds complete
  rw [← fits.filled regular invokes (complete.trans positions.symm)]
  exact holds

theorem ensures_parameterize :
    Ensures picture runs (Scene.Owns picture pipeline strategy links)
      (handler.parameterize pipeline st)
      (fun _ => Scene.Holds picture pipeline strategy links st (handler.request pipeline))
      (Scene.Owns picture pipeline strategy links) := by
  rw [Handler.parameterize, regular.plain.call_eq]
  unfold Handler.supply
  cases kind : handler.statement.kind with
  | plain =>
      apply Ensures.pure ()
      intro scene owns
      obtain ⟨prepared, found, -, -, fits⟩ := owns.statement mem
      have unplaced : handler.placed = [] := by simp only [Handler.placed, kind]
      have complete : handler.placed.map Prod.fst = handler.positions := by
        simp only [unplaced, Handler.positions, kind, List.map_nil]
      have same := fits.filled regular invokes complete
      rw [unplaced] at same
      exact ⟨owns, prepared.connection, found.trans (by rw [← same]; rfl)⟩
  | prepared =>
      exact ensures_setParameters regular invokes mem (by simp only [Handler.placed, kind])
        (by simp only [Handler.positions, kind])
  | callable =>
      apply Ensures.bind (ensures_registerFrom regular mem handler.bound.mappings 1)
      intro _
      exact ensures_setParameters regular invokes mem (by simp only [Handler.placed, kind])
        (by simp only [Handler.positions, kind])

omit regular invokes mem

theorem ensures_setParameter {never : Scene σ → Prop} (value : Value) :
    Ensures picture runs (Scene.Owns picture pipeline strategy links) (Work.setParameter value)
      (fun _ => Scene.Owns picture pipeline strategy links) never :=
  fun _ owns => ⟨.of_same (by rfl) (by rfl) runs,
    fun _ _ => ⟨owns.strategy, owns.manual, owns.isOpen, owns.linked, owns.distinct⟩, by rintro _ ⟨⟩⟩

theorem ensures_setStrategy {never : Scene σ → Prop} (next : Strategy) :
    Ensures picture runs (Scene.Owns picture pipeline strategy links) (Work.setStrategy next)
      (fun _ => Scene.Owns picture pipeline next links) never :=
  fun _ owns => ⟨.of_same (by rfl) (by rfl) runs,
    fun _ _ => ⟨rfl, owns.manual, owns.isOpen, owns.linked, owns.distinct⟩, by rintro _ ⟨⟩⟩

include regular mem

theorem ensures_addBatch :
    Ensures picture runs (Scene.Owns picture pipeline strategy links)
      (Handler.addBatch pipeline st) (fun _ => Scene.Owns picture pipeline strategy links)
      (Scene.Owns picture pipeline strategy links) := by
  rw [Handler.addBatch, regular.plain.call_eq]
  exact Ensures.spends mem fun state => regular.isolates.addBatch state st

theorem ensures_readFrom (mappings : List ParameterMapping) (position : Nat) :
    Ensures picture runs (Scene.Owns picture pipeline strategy links)
      (Handler.readFrom pipeline st position mappings)
      (fun _ => Scene.Owns picture pipeline strategy links)
      (Scene.Owns picture pipeline strategy links) := by
  induction mappings generalizing position with
  | nil => exact Ensures.pure () fun _ => id
  | cons mapping rest ih =>
      unfold Handler.readFrom
      split
      · apply Ensures.bind (Ensures.spends mem fun state =>
          regular.isolates.output state st position)
        intro value
        apply Ensures.bind Ensures.parameter
        intro current
        apply Ensures.bind (Ensures.ofResult (fun _ _ _ => id) fun _ => id)
        intro changed
        apply Ensures.bind (ensures_setParameter changed)
        intro _
        exact ih (position + 1)
      · exact ih (position + 1)

theorem ensures_assignKeys :
    Ensures picture runs (Scene.Owns picture pipeline strategy links)
      (handler.assignKeys pipeline st) (fun _ => Scene.Owns picture pipeline strategy links)
      (Scene.Owns picture pipeline strategy links) := by
  unfold Handler.assignKeys
  split
  · apply Ensures.bind (Ensures.spends mem fun state => regular.isolates.generatedKeys state st)
    intro keys
    apply Ensures.bind Ensures.parameter
    intro current
    apply Ensures.bind (ensures_setParameter _)
    intro _
    exact Ensures.ofResult (fun _ _ _ => id) fun _ => id
  · exact Ensures.pure () fun _ => id

theorem ensures_update :
    Ensures picture (· = handler.preparedSql pipeline)
      (Scene.Owns picture pipeline strategy links) (handler.update pipeline st)
      (fun _ => Scene.Owns picture pipeline strategy links)
      (Scene.Owns picture pipeline strategy links) := by
  rw [Handler.update, regular.plain.call_eq]
  have ran : Ensures picture (· = handler.preparedSql pipeline)
      (Scene.Owns picture pipeline strategy links) (Work.onSource (pipeline.source.update st)) _ _ :=
    Ensures.executes mem fun state prepared found isOpen fits => by
      rw [← fits.sql]
      exact regular.isolates.update state st prepared found isOpen
  apply Ensures.bind ran
  intro count
  apply Ensures.bind (ensures_assignKeys regular mem)
  intro _
  split
  · rw [Handler.readOutputs, regular.plain.call_eq]
    apply Ensures.bind (ensures_readFrom regular mem handler.bound.mappings 1)
    intro _
    exact Ensures.pure count fun _ => id
  · exact Ensures.pure count fun _ => id

def Scene.Answered (picture : Picture σ) (pipeline : Pipeline σ) (handler : Handler)
    (rows : List Value) (scene : Scene σ) : Prop :=
  ∃ standing, scene.standing picture = some standing ∧
    pipeline.answer standing.view handler = .ok rows

omit regular mem in
theorem Scene.Step.standing {before after : Scene σ}
    (step : before.Step picture (fun _ => False) after) {standing : Standing}
    (begun : before.standing picture = some standing) :
    ∃ standing', after.standing picture = some standing' ∧ standing'.view = standing.view := by
  have advances := step.advances
  rw [begun] at advances
  cases left : after.standing picture with
  | none => cases advances.begun left
  | some standing' =>
      rw [left] at advances
      exact ⟨standing', rfl, funext fun request => advances.view request fun _ no => no.elim⟩

omit regular mem in
theorem Scene.Answered.step {before after : Scene σ} {rows : List Value}
    (answered : before.Answered picture pipeline handler rows)
    (step : before.Step picture (fun _ => False) after) :
    after.Answered picture pipeline handler rows := by
  obtain ⟨standing, begun, answer⟩ := answered
  obtain ⟨standing', left, same⟩ := step.standing begun
  exact ⟨standing', left, by rw [same]; exact answer⟩

theorem ensures_query :
    Ensures picture (fun _ => False)
      (Scene.Holds picture pipeline strategy links st (handler.request pipeline))
      (handler.query pipeline st)
      (fun rows scene => scene.Owns picture pipeline strategy links ∧
        scene.Answered picture pipeline handler rows)
      (Scene.Owns picture pipeline strategy links) := by
  rw [Handler.query, regular.plain.call_eq]
  have queried : Ensures picture (fun _ => False)
      (Scene.Holds picture pipeline strategy links st (handler.request pipeline))
      (Work.onSource (pipeline.source.query st))
      (fun results scene => scene.Owns picture pipeline strategy links ∧
        ∃ standing, scene.standing picture = some standing ∧
          results = standing.view (handler.request pipeline))
      (Scene.Owns picture pipeline strategy links) := by
    apply Ensures.onSource
    rintro scene ⟨owns, c, found⟩
    obtain ⟨prepared, found', own, isOpen, -⟩ := owns.statement mem
    rw [found, Option.some.injEq] at found'
    subst found'
    have ran := regular.isolates.query scene.source st _ found isOpen
    have still := owns.runs found ran
    refine ⟨owns.step_runs mem found ran, fun results done => ⟨still, ?_⟩, fun _ _ => still⟩
    obtain ⟨begun, rfl⟩ := regular.isolates.answer scene.source st _ results found isOpen done
    have after : (scene.withSource (pipeline.source.query st scene.source).2).standing picture =
        picture.standing (pipeline.source.query st scene.source).2 c := by
      have own' : (scene.withSource (pipeline.source.query st scene.source).2).connection = some c :=
        own
      rw [Scene.standing, own']
      rfl
    rw [after]
    have view := ran.own.view (handler.request pipeline) fun _ no => no.elim
    cases left : picture.standing (pipeline.source.query st scene.source).2 c with
    | none => exact absurd left begun
    | some standing =>
        rw [left] at view
        exact ⟨standing, rfl, view.symm⟩
  apply Ensures.bind queried
  intro results
  rw [Handler.mapResults, regular.plain.call_eq]
  apply Ensures.ofResult
  · rintro rows scene mapped ⟨owns, standing, begun, rfl⟩
    exact ⟨owns, standing, begun, mapped⟩
  · exact fun _ holds => holds.1

omit regular mem in
theorem attachStatement_of_created {source : DataSource σ} {cursor : Cursor}
    (created : cursor.state = .created) (state : σ) :
    Cursor.attachStatement source st (state, cursor) =
      (.ok (), (state, { cursor with statement := some st })) := by
  obtain ⟨rows, statement, mapper, bounds, stage, skipped, yielded⟩ := cursor
  cases created
  rfl

omit mem in
theorem ensures_queryCursor :
    Ensures picture runs (Scene.Owns picture pipeline strategy ((handler.bound.sql, st) :: links))
      (handler.queryCursor pipeline st)
      (fun cursor scene =>
        scene.Owns picture pipeline strategy ((handler.bound.sql, st) :: links) ∧
          cursor.statement = some st)
      (Scene.Owns picture pipeline strategy links) := by
  rw [Handler.queryCursor, regular.plain.call_eq]
  unfold Handler.openCursor
  have opened : Ensures picture runs
      (Scene.Owns picture pipeline strategy ((handler.bound.sql, st) :: links))
      (do
        let rows ← Work.onSource (pipeline.source.openRows st)
        handler.mapCursor pipeline rows)
      (fun cursor scene =>
        scene.Owns picture pipeline strategy ((handler.bound.sql, st) :: links) ∧
          cursor.state = .created)
      (Scene.Owns picture pipeline strategy ((handler.bound.sql, st) :: links)) := by
    have ran : Ensures picture (fun _ => False)
        (Scene.Owns picture pipeline strategy ((handler.bound.sql, st) :: links))
        (Work.onSource (pipeline.source.openRows st)) _ _ :=
      Ensures.executes List.mem_cons_self fun state prepared found isOpen _ =>
        regular.isolates.openRows state st prepared found isOpen
    apply Ensures.bind (ran.mono fun _ no => no.elim)
    intro rows
    rw [Handler.mapCursor, regular.plain.call_eq]
    exact Ensures.pure _ fun _ owns => ⟨owns, rfl⟩
  apply Ensures.bind opened.attempt
  intro result
  cases result with
  | ok cursor =>
      have attached : Ensures picture runs
          (fun scene => scene.Owns picture pipeline strategy ((handler.bound.sql, st) :: links) ∧
            cursor.state = .created)
          (Work.onSource (Action.beside cursor (Cursor.attachStatement pipeline.source st)))
          (fun attached scene =>
            scene.Owns picture pipeline strategy ((handler.bound.sql, st) :: links) ∧
              attached.2.statement = some st)
          (Scene.Owns picture pipeline strategy links) := by
        rintro scene ⟨owns, created⟩
        have left : Work.onSource (Action.beside cursor
            (Cursor.attachStatement pipeline.source st)) scene =
              (.ok (.ok (), { cursor with statement := some st }), scene) := by
          simp only [Work.onSource, Action.within, Action.beside, attachStatement_of_created created]
        rw [left]
        refine ⟨.refl runs scene, ?_, by rintro _ ⟨⟩⟩
        rintro _ ⟨⟩
        exact ⟨owns, rfl⟩
      apply Ensures.bind (attached.weaken (fun _ holds => holds.1 cursor rfl) (fun _ _ => id) fun _ => id)
      intro attached
      exact Ensures.pure _ fun _ => id
  | error e =>
      apply Ensures.bind ((ensures_finish regular handler.bound.sql st).quietly.weaken
        (fun _ holds => holds.2 e rfl) (fun _ _ => id) fun _ => id)
      intro _
      exact Ensures.throw e fun _ => id

end MappedSql
