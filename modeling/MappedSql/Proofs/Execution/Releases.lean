import MappedSql.Proofs.Execution.Accounts

namespace MappedSql

open MappedSql.Action (Leaves Meets)

variable {σ α β : Type} {ledger : σ → Ledger} {strategy : Strategy} {statements rows : List Nat}

namespace Strategy

section

variable {held : List (String × StatementId)}

theorem lookup_of_mem (keyed : (held.map Prod.fst).Nodup) {sql : String} {st : StatementId}
    (mem : (sql, st) ∈ held) : held.lookup sql = some st := by
  induction held with
  | nil => cases mem
  | cons entry rest ih =>
      obtain ⟨own, other⟩ := entry
      rw [List.map_cons, List.nodup_cons] at keyed
      rw [List.lookup_cons]
      by_cases same : sql = own
      · subst same
        simp only [beq_self_eq_true]
        cases mem with
        | head => rfl
        | tail _ later => exact absurd (List.mem_map.2 ⟨_, later, rfl⟩) keyed.1
      · have apart : (sql == own) = false := by simpa using same
        simp only [apart]
        cases mem with
        | head => exact absurd rfl same
        | tail _ later => exact ih keyed.2 later

theorem keyed_filter (keyed : (held.map Prod.fst).Nodup) (sql : String) :
    ((held.filter (·.1 != sql)).map Prod.fst).Nodup :=
  keyed.sublist (List.filter_sublist.map _)

theorem keyed_cons (keyed : (held.map Prod.fst).Nodup) (sql : String) (st : StatementId) :
    (((sql, st) :: held.filter (·.1 != sql)).map Prod.fst).Nodup := by
  rw [List.map_cons, List.nodup_cons]
  refine ⟨fun mem => ?_, keyed_filter keyed sql⟩
  obtain ⟨entry, found, same⟩ := List.mem_map.1 mem
  simp only [List.mem_filter, bne_iff_ne] at found
  exact found.2 same

theorem mem_of_kept {sql : String} {id : Nat} (keyed : (held.map Prod.fst).Nodup)
    (mem : id ∈ held.map Prod.snd) :
    held.lookup sql = some id ∨ id ∈ (held.filter (·.1 != sql)).map Prod.snd := by
  obtain ⟨⟨own, st⟩, found, rfl⟩ := List.mem_map.1 mem
  by_cases same : own = sql
  · subst same
    exact .inl (lookup_of_mem keyed found)
  · refine .inr (List.mem_map.2 ⟨(own, st), ?_, rfl⟩)
    simp [found, same]

end

variable {pipeline : Pipeline σ} (handler : Handler) (keeps : pipeline.source.Keeps ledger)

include keeps

theorem meets_withStatement (st : StatementId) {use : Work σ α}
    (leaves : Leaves (Scene.books ledger) use) :
    Meets (Scene.Charged ledger strategy (st :: statements) rows) (withStatement pipeline st use)
      (fun _ => Scene.Charged ledger strategy statements rows)
      (Scene.Charged ledger strategy statements rows) := by
  apply (Work.stays leaves).attempt_either.bind
  intro result
  apply (keeps.meets_finishStatement st).attempt_either.bind
  intro closed
  apply (Work.stays (Leaves.lift _)).bind
  intro answer
  apply (Work.stays (Leaves.lift _)).bind
  intro _
  exact Meets.pure fun _ => id

section

variable (plain : pipeline.Plain)

include plain

theorem meets_updateOnce :
    Meets (Scene.Charged ledger strategy statements rows) (updateOnce pipeline handler)
      (fun _ => Scene.Charged ledger strategy statements rows)
      (Scene.Charged ledger strategy statements rows) := by
  apply (handler.meets_prepareInTransaction keeps plain).bind
  intro st
  apply meets_withStatement keeps
  exact (handler.leaves_parameterize keeps plain st).bind fun _ => handler.leaves_update keeps plain st

theorem meets_queryOnce :
    Meets (Scene.Charged ledger strategy statements rows) (queryOnce pipeline handler)
      (fun _ => Scene.Charged ledger strategy statements rows)
      (Scene.Charged ledger strategy statements rows) := by
  apply (handler.meets_prepareInTransaction keeps plain).bind
  intro st
  apply meets_withStatement keeps
  exact (handler.leaves_parameterize keeps plain st).bind fun _ => handler.leaves_query keeps plain st

theorem meets_openOnce :
    Meets (Scene.Charged ledger strategy statements rows) (openOnce pipeline handler)
      (fun cursor scene => cursor.isOpen ∧ scene.Charged ledger strategy
        (cursor.statement.toList ++ statements) (cursor.rows.toList ++ rows))
      (Scene.Charged ledger strategy statements rows) := by
  apply (handler.meets_prepareInTransaction keeps plain).bind
  intro st
  apply (Work.stays (handler.leaves_parameterize keeps plain st)).attempt_either.bind
  intro result
  cases result with
  | ok _ => exact handler.meets_queryCursor keeps plain st
  | error e =>
      apply (keeps.meets_discard st).bind
      intro _
      exact Meets.throw fun _ => id

end

section

variable {held : List (String × StatementId)} {others : List Nat}

theorem charged_without (keyed : (held.map Prod.fst).Nodup) {sql : String} {scene : Scene σ}
    (charged : scene.Charged ledger strategy (held.map Prod.snd ++ others) rows)
    (closed : ∀ st, held.lookup sql = some st → pipeline.source.isClosed scene.source st) :
    scene.Charged ledger strategy ((held.filter (·.1 != sql)).map Prod.snd ++ others) rows := by
  refine ⟨charged.strategy, charged.isOpen, charged.accounts.connection,
    ⟨charged.accounts.statement.balanced, fun id live => ?_⟩, charged.accounts.rows⟩
  cases List.mem_append.1 (charged.accounts.statement.owned id live) with
  | inr other => exact List.mem_append_right _ other
  | inl own =>
      cases mem_of_kept keyed own with
      | inl found => exact absurd live (keeps.isClosed _ _ (closed id found))
      | inr left => exact List.mem_append_left _ left

theorem meets_hold (sql : String) (st : StatementId) {owned : List Nat} {never : Scene σ → Prop} :
    Meets (Scene.Charged ledger (.reuse held) owned rows) (hold pipeline sql st)
      (fun _ => Scene.Charged ledger (.reuse ((sql, st) :: held.filter (·.1 != sql))) owned rows)
      never := by
  apply Work.meets_executor
  intro executor way
  rw [way]
  dsimp only [Strategy.held]
  split
  next before _ =>
    have dropped : Meets (Scene.Charged ledger (.reuse held) owned rows)
        (Work.onSource (modify (pipeline.source.dropStatement before)))
        (fun _ => Scene.Charged ledger (.reuse held) owned rows) never :=
      Meets.modify fun _ charged =>
        charged.told (Work.leaves_onSource (Leaves.modify (keeps.dropStatement before)) _)
    exact dropped.bind fun _ => Work.meets_setStrategy _
  next => exact Work.meets_setStrategy _

def Reusing (ledger : σ → Ledger) (others rows : List Nat) (scene : Scene σ) : Prop :=
  ∃ held : List (String × StatementId), (held.map Prod.fst).Nodup ∧
    scene.Charged ledger (.reuse held) (held.map Prod.snd ++ others) rows

def Keeping (ledger : σ → Ledger) (others rows : List Nat) (sql : String) (st : StatementId)
    (scene : Scene σ) : Prop :=
  ∃ held : List (String × StatementId), held.lookup sql = some st ∧ (held.map Prod.fst).Nodup ∧
    scene.Charged ledger (.reuse held) (held.map Prod.snd ++ others) rows

omit keeps in
theorem Keeping.told {sql : String} {st : StatementId} {before after : Scene σ}
    (same : after.books ledger = before.books ledger)
    (keeping : Keeping ledger others rows sql st before) :
    Keeping ledger others rows sql st after := by
  obtain ⟨held, kept, keyed, charged⟩ := keeping
  exact ⟨held, kept, keyed, charged.told same⟩

omit keeps in
theorem Keeping.reusing {sql : String} {st : StatementId} {scene : Scene σ}
    (keeping : Keeping ledger others rows sql st scene) : Reusing ledger others rows scene := by
  obtain ⟨held, -, keyed, charged⟩ := keeping
  exact ⟨held, keyed, charged⟩

omit keeps in
theorem meets_use {sql : String} {st : StatementId} {use : Work σ α}
    (leaves : Leaves (Scene.books ledger) use) :
    Meets (Keeping ledger others rows sql st) use (fun _ => Reusing ledger others rows)
      (Reusing ledger others rows) :=
  (Meets.of_leaves leaves fun _ _ => Keeping.told).weaken (fun _ => id) (fun _ _ => Keeping.reusing)
    fun _ => Keeping.reusing

variable (plain : pipeline.Plain)

include plain

theorem meets_handOut (st : StatementId) :
    Meets (Keeping ledger others rows handler.bound.sql st)
      (do
        handler.parameterize pipeline st
        return st)
      (Keeping ledger others rows handler.bound.sql) (Reusing ledger others rows) := by
  have parameterized : Meets (Keeping ledger others rows handler.bound.sql st)
      (handler.parameterize pipeline st) (fun _ => Keeping ledger others rows handler.bound.sql st)
      (Keeping ledger others rows handler.bound.sql st) :=
    Meets.of_leaves (handler.leaves_parameterize keeps plain st) fun _ _ => Keeping.told
  refine (parameterized.weaken (fun _ => id) (fun _ _ => id)
    fun _ => Keeping.reusing).bind fun _ => ?_
  exact Meets.pure fun _ => id

theorem meets_renew {held : List (String × StatementId)} (keyed : (held.map Prod.fst).Nodup) :
    Meets (Scene.Charged ledger (.reuse held)
        ((held.filter (·.1 != handler.bound.sql)).map Prod.snd ++ others) rows)
      (do
        let statement ← handler.prepareInTransaction pipeline
        hold pipeline handler.bound.sql statement
        handler.parameterize pipeline statement
        return statement)
      (Keeping ledger others rows handler.bound.sql) (Reusing ledger others rows) := by
  have fewer (scene : Scene σ) (charged : scene.Charged ledger (.reuse held)
      ((held.filter (·.1 != handler.bound.sql)).map Prod.snd ++ others) rows) :
      Reusing ledger others rows scene := by
    refine ⟨held, keyed, charged.mono (fun id mem => ?_) fun _ => id⟩
    cases List.mem_append.1 mem with
    | inl kept => exact List.mem_append_left _ ((List.filter_sublist.map _).subset kept)
    | inr other => exact List.mem_append_right _ other
  have prepared := (handler.meets_prepareInTransaction keeps plain).weaken (fun _ => id)
    (fun _ _ => id) fewer
  apply prepared.bind
  intro st
  have begun : Meets (Scene.Charged ledger (.reuse held)
        (st :: ((held.filter (·.1 != handler.bound.sql)).map Prod.snd ++ others)) rows)
      (hold pipeline handler.bound.sql st)
      (fun _ => Keeping ledger others rows handler.bound.sql st) (Reusing ledger others rows) :=
    (meets_hold keeps handler.bound.sql st).weaken (fun _ => id)
      (fun _ _ charged => ⟨_, by simp, keyed_cons keyed handler.bound.sql st, charged⟩) fun _ => id
  apply begun.bind
  intro _
  exact meets_handOut handler keeps plain st

theorem meets_obtainHeld :
    Meets (Reusing ledger others rows) (obtainHeld pipeline handler)
      (Keeping ledger others rows handler.bound.sql) (Reusing ledger others rows) := by
  rintro scene ⟨held, keyed, charged⟩
  unfold obtainHeld
  rw [Action.bind_apply, Work.executor_apply]
  dsimp only
  rw [Action.bind_apply, Action.get_apply]
  dsimp only
  rw [charged.strategy, Strategy.held]
  cases found : (held.lookup handler.bound.sql).filter
      fun id => !pipeline.source.isClosed scene.source id with
  | some st =>
      have kept : held.lookup handler.bound.sql = some st := (Option.filter_eq_some_iff.1 found).1
      exact meets_handOut handler keeps plain st scene ⟨held, kept, keyed, charged⟩
  | none =>
      apply meets_renew handler keeps plain keyed scene
      apply charged_without keeps keyed charged
      intro st kept
      rw [kept] at found
      simpa using found

theorem meets_updateHeld :
    Meets (Reusing ledger others rows) (updateHeld pipeline handler)
      (fun _ => Reusing ledger others rows) (Reusing ledger others rows) := by
  apply (meets_obtainHeld handler keeps plain).bind
  intro st
  exact meets_use (handler.leaves_update keeps plain st)

theorem meets_queryHeld :
    Meets (Reusing ledger others rows) (queryHeld pipeline handler)
      (fun _ => Reusing ledger others rows) (Reusing ledger others rows) := by
  apply (meets_obtainHeld handler keeps plain).bind
  intro st
  exact meets_use (handler.leaves_query keeps plain st)

theorem meets_openHeld :
    Meets (Reusing ledger others rows) (openHeld pipeline handler)
      (fun cursor scene => cursor.isOpen ∧ Reusing ledger (cursor.statement.toList ++ others)
        (cursor.rows.toList ++ rows) scene)
      (Reusing ledger others rows) := by
  apply (meets_obtainHeld handler keeps plain).bind
  intro st
  apply Meets.whichever
  intro held
  apply Meets.given
  intro kept
  apply Meets.given
  intro keyed
  apply Work.meets_executor
  intro executor way
  rw [way, Strategy.held]
  -- the statement is no longer held by its SQL, and goes to the cursor
  have released : Meets (Scene.Charged ledger (.reuse held) (held.map Prod.snd ++ others) rows)
      (Work.setStrategy (.reuse (held.filter (·.1 != handler.bound.sql))))
      (fun _ => Scene.Charged ledger (.reuse (held.filter (·.1 != handler.bound.sql)))
        (st :: ((held.filter (·.1 != handler.bound.sql)).map Prod.snd ++ others)) rows)
      (Reusing ledger others rows) := by
    apply (Work.meets_setStrategy _).weaken (fun _ => id) _ fun _ => id
    intro _ scene charged
    refine charged.mono (fun id mem => ?_) fun _ => id
    cases List.mem_append.1 mem with
    | inr other => simp [other]
    | inl own =>
        cases mem_of_kept keyed own with
        | inl found =>
            rw [kept] at found
            exact Option.some.inj found ▸ List.mem_cons_self
        | inr left => exact List.mem_cons_of_mem _ (List.mem_append_left _ left)
  apply released.bind
  intro _
  apply (handler.meets_queryCursor keeps plain st).weaken (fun _ => id)
  · rintro cursor scene ⟨isOpen, charged⟩
    refine ⟨isOpen, _, keyed_filter keyed handler.bound.sql, charged.mono (fun id mem => ?_) fun _ => id⟩
    simp only [List.mem_append] at mem ⊢
    exact or_left_comm.1 mem
  · intro scene charged
    exact ⟨_, keyed_filter keyed handler.bound.sql, charged⟩

omit handler plain in
theorem meets_closeHeld (held : List (String × StatementId)) {never : Scene σ → Prop} :
    Meets (Scene.Charged ledger strategy (held.map Prod.snd ++ others) rows)
      (closeHeld pipeline held) (fun _ => Scene.Charged ledger strategy others rows) never := by
  induction held with
  | nil => exact Meets.pure fun _ => id
  | cons entry rest ih => exact (keeps.meets_discard entry.2).bind fun _ => ih

end

section

variable {others : List Nat}

theorem meets_discardAll (pending : List PendingBatch) (transaction : Transaction) :
    Meets (fun state => (ledger state).Accounts transaction
        (pending.map PendingBatch.statement ++ others) rows)
      (PendingBatch.discardAll pipeline.source pending)
      (fun _ state => (ledger state).Accounts transaction others rows)
      (fun state => (ledger state).Accounts transaction others rows) := by
  induction pending with
  | nil => exact Meets.pure fun _ => id
  | cons batch rest ih =>
      apply (Meets.quietly (keeps.meets_finish batch.statement transaction)).bind
      intro _
      exact ih

theorem leaves_execute (batch : PendingBatch) :
    Leaves ledger (batch.execute pipeline.source) := by
  apply (keeps.executeBatch _).bind
  intro counts
  split
  · apply (keeps.generatedKeys _).bind
    intro keys
    exact (Leaves.lift _).bind fun _ => Leaves.pure _
  · exact Leaves.pure _

theorem meets_executeAll (done : Nat) (pending : List PendingBatch) (transaction : Transaction) :
    Meets (fun state => (ledger state).Accounts transaction
        (pending.map PendingBatch.statement ++ others) rows)
      (PendingBatch.executeAll pipeline.source done pending)
      (fun _ state => (ledger state).Accounts transaction others rows)
      (fun state => (ledger state).Accounts transaction others rows) := by
  induction pending generalizing done with
  | nil => exact Meets.pure fun _ => id
  | cons batch rest ih =>
      have executed : Meets
          (fun state => (ledger state).Accounts transaction
            ((batch :: rest).map PendingBatch.statement ++ others) rows)
          (batch.execute pipeline.source)
          (fun _ state => (ledger state).Accounts transaction
            ((batch :: rest).map PendingBatch.statement ++ others) rows)
          (fun state => (ledger state).Accounts transaction
            ((batch :: rest).map PendingBatch.statement ++ others) rows) :=
        Meets.of_leaves (leaves_execute keeps batch) fun _ _ same accounts => same ▸ accounts
      apply executed.attempt_either.bind
      intro result
      apply (Meets.quietly (keeps.meets_finish batch.statement transaction)).bind
      intro _
      cases result with
      | ok result => exact (ih (done + 1)).bind fun _ => Meets.pure fun _ => id
      | error e => exact (meets_discardAll keeps rest transaction).bind fun _ => Meets.throw fun _ => id

def Batching (ledger : σ → Ledger) (others rows : List Nat) (scene : Scene σ) : Prop :=
  ∃ (pending : List PendingBatch) (current : Option (String × String)),
    scene.Charged ledger (.batch pending current)
      (pending.map PendingBatch.statement ++ others) rows

theorem meets_flushPending (givingUp : Bool) :
    Meets (Batching ledger others rows) (flushPending pipeline givingUp)
      (fun _ => Scene.Charged ledger (.batch [] none) others rows)
      (Scene.Charged ledger (.batch [] none) others rows) := by
  apply Meets.whichever
  intro pending
  apply Meets.whichever
  intro current
  apply Work.meets_executor
  intro executor way
  rw [way, Strategy.pending]
  apply (Work.meets_setStrategy _).bind
  intro _
  cases givingUp with
  | true =>
      exact (Work.meets_onSource (meets_discardAll keeps pending)).bind fun _ => Meets.pure fun _ => id
  | false => exact Work.meets_onSource (meets_executeAll keeps 0 pending)

omit keeps in
theorem batching_nil {scene : Scene σ}
    (charged : scene.Charged ledger (.batch [] none) others rows) :
    Batching ledger others rows scene :=
  ⟨[], none, charged⟩

variable (plain : pipeline.Plain)

include plain

theorem meets_startBatch (pending : List PendingBatch) (current : Option (String × String))
    (target : String × String) :
    Meets
      (Scene.Charged ledger (.batch pending current)
        (pending.map PendingBatch.statement ++ others) rows)
      (startBatch pipeline handler pending target)
      (fun _ => Batching ledger others rows) (Batching ledger others rows) := by
  have prepared := (handler.meets_prepareInTransaction keeps plain).weaken (fun _ => id)
    (fun _ _ => id) fun (scene : Scene σ) (charged : scene.Charged ledger (.batch pending current)
      (pending.map PendingBatch.statement ++ others) rows) => show Batching ledger others rows scene from
        ⟨pending, current, charged⟩
  apply prepared.bind
  intro st
  have queued := (handler.leaves_parameterize keeps plain st).bind fun _ =>
    Handler.leaves_addBatch keeps plain st
  apply (Work.stays queued).attempt_either.bind
  intro result
  cases result with
  | error e =>
      apply (keeps.meets_discard st).bind
      intro _
      exact Meets.throw fun _ charged => ⟨pending, current, charged⟩
  | ok _ =>
      intro scene charged
      refine ⟨fun _ _ => ⟨_, _, rfl, charged.isOpen, ?_⟩, fun _ no => by cases no⟩
      apply charged.accounts.mono (fun id mem => ?_) fun _ => id
      simp only [List.map_append, List.map_cons, List.map_nil, List.mem_append, List.mem_cons] at mem ⊢
      rcases mem with here | queued | other
      · exact .inl (.inr (.inl here))
      · exact .inl (.inl queued)
      · exact .inr other

theorem meets_appendUpdate (earlier : List PendingBatch) (last : PendingBatch)
    (current : Option (String × String)) (target : String × String) :
    Meets
      (Scene.Charged ledger (.batch (earlier ++ [last]) current)
        ((earlier ++ [last]).map PendingBatch.statement ++ others) rows)
      (appendUpdate pipeline handler earlier last target)
      (fun _ => Batching ledger others rows) (Batching ledger others rows) := by
  have stays {act : Work σ Unit} (leaves : Leaves (Scene.books ledger) act) :
      Meets (Scene.Charged ledger (.batch (earlier ++ [last]) current)
        ((earlier ++ [last]).map PendingBatch.statement ++ others) rows) act
        (fun _ => Scene.Charged ledger (.batch (earlier ++ [last]) current)
          ((earlier ++ [last]).map PendingBatch.statement ++ others) rows)
        (Batching ledger others rows) :=
    (Work.stays leaves).weaken (fun _ => id) (fun _ _ => id) fun _ charged => ⟨_, _, charged⟩
  apply (stays (handler.leaves_parameterize keeps plain last.statement)).bind
  intro _
  apply (stays (Handler.leaves_addBatch keeps plain last.statement)).bind
  intro _ scene charged
  have kept : (ledger scene.source).Accounts scene.executor.transaction
      ((earlier ++ [last.addParameter scene.parameter]).map PendingBatch.statement ++ others) rows := by
    simpa [PendingBatch.addParameter] using charged.accounts
  exact ⟨fun _ _ => ⟨_, _, rfl, charged.isOpen, kept⟩, fun _ no => by cases no⟩

theorem meets_queueUpdate :
    Meets (Batching ledger others rows) (queueUpdate pipeline handler)
      (fun _ => Batching ledger others rows) (Batching ledger others rows) := by
  apply Meets.whichever
  intro pending
  apply Meets.whichever
  intro current
  apply Work.meets_executor
  intro executor way
  dsimp only
  rw [way, Strategy.pending, Strategy.current]
  cases newest : pending.getLast? with
  | none =>
      have none : pending = [] := List.getLast?_eq_none_iff.1 newest
      subst none
      exact (meets_startBatch handler keeps plain [] current _).bind fun _ => Meets.pure fun _ => id
  | some last =>
      obtain ⟨earlier, rfl⟩ := List.getLast?_eq_some_iff.1 newest
      dsimp only
      split
      · rw [List.dropLast_concat]
        exact (meets_appendUpdate handler keeps plain earlier last current _).bind fun _ =>
          Meets.pure fun _ => id
      · exact (meets_startBatch handler keeps plain _ current _).bind fun _ => Meets.pure fun _ => id

end

def owned : Strategy → List StatementId
  | .simple => []
  | .reuse held => held.map Prod.snd
  | .batch pending _ => pending.map PendingBatch.statement

def Keyed : Strategy → Prop
  | .reuse held => (held.map Prod.fst).Nodup
  | _ => True

end Strategy

def Scene.Works (ledger : σ → Ledger) (others rows : List Nat) (scene : Scene σ) : Prop :=
  ∃ strategy : Strategy, strategy.Keyed ∧
    scene.Charged ledger strategy (strategy.owned ++ others) rows

def Scene.Idles (ledger : σ → Ledger) (others rows : List Nat) (scene : Scene σ) : Prop :=
  ∃ strategy : Strategy, strategy.Keyed ∧ strategy.owned = [] ∧
    scene.Charged ledger strategy others rows

theorem Scene.Idles.works {others : List Nat} {scene : Scene σ}
    (idles : scene.Idles ledger others rows) : scene.Works ledger others rows := by
  obtain ⟨strategy, keyed, none, charged⟩ := idles
  refine ⟨strategy, keyed, ?_⟩
  rw [none]
  exact charged

theorem Scene.Idles.told {others : List Nat} {before after : Scene σ}
    (same : after.books ledger = before.books ledger)
    (idles : before.Idles ledger others rows) : after.Idles ledger others rows := by
  obtain ⟨strategy, keyed, none, charged⟩ := idles
  exact ⟨strategy, keyed, none, charged.told same⟩

theorem Scene.Works.told {others : List Nat} {before after : Scene σ}
    (same : after.books ledger = before.books ledger)
    (works : before.Works ledger others rows) : after.Works ledger others rows := by
  obtain ⟨strategy, keyed, charged⟩ := works
  exact ⟨strategy, keyed, charged.told same⟩

namespace Strategy

variable {pipeline : Pipeline σ} {others : List Nat} {scene : Scene σ}

theorem works_simple (charged : scene.Charged ledger .simple others rows) :
    scene.Works ledger others rows :=
  ⟨.simple, trivial, charged⟩

theorem works_reusing (reusing : Reusing ledger others rows scene) :
    scene.Works ledger others rows := by
  obtain ⟨held, keyed, charged⟩ := reusing
  exact ⟨.reuse held, keyed, charged⟩

theorem works_batching (batching : Batching ledger others rows scene) :
    scene.Works ledger others rows := by
  obtain ⟨pending, current, charged⟩ := batching
  exact ⟨.batch pending current, trivial, charged⟩

theorem meets_works {simple : Work σ α} {reuse : List (String × StatementId) → Work σ α}
    {batch : List PendingBatch → Option (String × String) → Work σ α} {post : α → Scene σ → Prop}
    {fails : Scene σ → Prop}
    (simply : Meets (Scene.Charged ledger .simple others rows) simple post fails)
    (reusing : ∀ held, (held.map Prod.fst).Nodup →
      Meets (Scene.Charged ledger (.reuse held) (held.map Prod.snd ++ others) rows) (reuse held)
        post fails)
    (batching : ∀ pending current,
      Meets (Scene.Charged ledger (.batch pending current)
        (pending.map PendingBatch.statement ++ others) rows) (batch pending current) post fails) :
    Meets (Scene.Works ledger others rows)
      (do
        match (← Work.executor).strategy with
        | .simple => simple
        | .reuse held => reuse held
        | .batch pending current => batch pending current) post fails := by
  rintro scene ⟨strategy, keyed, charged⟩
  rw [Action.bind_apply, Work.executor_apply]
  dsimp only
  rw [charged.strategy]
  cases strategy with
  | simple => exact simply scene charged
  | reuse held => exact reusing held keyed scene charged
  | batch pending current => exact batching pending current scene charged

variable (keeps : pipeline.source.Keeps ledger)

include keeps

theorem meets_flush (givingUp : Bool) :
    Meets (Scene.Works ledger others rows) (flush pipeline givingUp)
      (fun _ => Scene.Idles ledger others rows) (Scene.Idles ledger others rows) := by
  apply meets_works
  · exact Meets.pure fun _ charged => ⟨.simple, trivial, rfl, charged⟩
  · intro held keyed
    apply (Work.meets_setStrategy _).bind
    intro _
    apply (meets_closeHeld keeps held).bind
    intro _
    exact Meets.pure fun _ charged => ⟨.reuse [], List.nodup_nil, rfl, charged⟩
  · intro pending current
    exact (meets_flushPending keeps givingUp).weaken (fun _ charged => ⟨pending, current, charged⟩)
      (fun _ _ charged => ⟨.batch [] none, trivial, rfl, charged⟩)
      fun _ charged => ⟨.batch [] none, trivial, rfl, charged⟩

variable (handler : Handler) (plain : pipeline.Plain)

include plain

theorem meets_update (statement : MappedStatement) :
    Meets (Scene.Works ledger others rows) (update pipeline statement)
      (fun _ => Scene.Works ledger others rows) (Scene.Works ledger others rows) := by
  have built : Leaves (Scene.books ledger) (Handler.forParameter pipeline statement) :=
    (Leaves.read _).bind fun _ => (Leaves.lift _).bind fun _ => Leaves.pure _
  apply (Meets.of_leaves built fun _ _ => Scene.Works.told).bind
  intro handler
  apply meets_works
  · exact (meets_updateOnce handler keeps plain).weaken (fun _ => id) (fun _ _ => works_simple)
      fun _ => works_simple
  · intro held keyed
    exact (meets_updateHeld handler keeps plain).weaken (fun _ charged => ⟨held, keyed, charged⟩)
      (fun _ _ => works_reusing) fun _ => works_reusing
  · intro pending current
    exact (meets_queueUpdate handler keeps plain).weaken
      (fun _ charged => ⟨pending, current, charged⟩) (fun _ _ => works_batching)
      fun _ => works_batching

theorem meets_query :
    Meets (Scene.Works ledger others rows) (query pipeline handler)
      (fun _ => Scene.Works ledger others rows) (Scene.Works ledger others rows) := by
  apply meets_works
  · exact (meets_queryOnce handler keeps plain).weaken (fun _ => id) (fun _ _ => works_simple)
      fun _ => works_simple
  · intro held keyed
    exact (meets_queryHeld handler keeps plain).weaken (fun _ charged => ⟨held, keyed, charged⟩)
      (fun _ _ => works_reusing) fun _ => works_reusing
  · intro pending current
    refine ((meets_flushPending keeps false).weaken (fun _ charged => ⟨pending, current, charged⟩)
      (fun _ _ => id) fun _ charged => works_batching (batching_nil charged)).bind fun _ => ?_
    exact (meets_queryOnce handler keeps plain).weaken (fun _ => id)
      (fun _ _ charged => works_batching (batching_nil charged))
      fun _ charged => works_batching (batching_nil charged)

theorem meets_openCursor :
    Meets (Scene.Works ledger others rows) (openCursor pipeline handler)
      (fun cursor scene => cursor.isOpen ∧ scene.Works ledger (cursor.statement.toList ++ others)
        (cursor.rows.toList ++ rows))
      (Scene.Works ledger others rows) := by
  apply meets_works
  · exact (meets_openOnce handler keeps plain).weaken (fun _ => id)
      (fun _ _ ⟨isOpen, charged⟩ => ⟨isOpen, works_simple charged⟩) fun _ => works_simple
  · intro held keyed
    exact (meets_openHeld handler keeps plain).weaken (fun _ charged => ⟨held, keyed, charged⟩)
      (fun _ _ ⟨isOpen, reusing⟩ => ⟨isOpen, works_reusing reusing⟩) fun _ => works_reusing
  · intro pending current
    refine ((meets_flushPending keeps false).weaken (fun _ charged => ⟨pending, current, charged⟩)
      (fun _ _ => id) fun _ charged => works_batching (batching_nil charged)).bind fun _ => ?_
    exact (meets_openOnce handler keeps plain).weaken (fun _ => id)
      (fun _ _ ⟨isOpen, charged⟩ => ⟨isOpen, works_batching (batching_nil charged)⟩)
      fun _ charged => works_batching (batching_nil charged)

end Strategy

end MappedSql
