import MappedSql.Proofs.Execution.Lockstep
import MappedSql.Proofs.Session.Visits

namespace MappedSql

open MappedSql.Action (Tracks)

variable {α τ : Type} {strict : Prop} {apart : List StatementId} {s₀ t₀ : Recording}

structure Recording.SameRows (apart : List StatementId) (s₀ t₀ s t : Recording) : Prop where
  own : s₀.Drifts (· ∈ apart) s
  other : t₀.Drifts (fun _ => True) t
  rowSources : s.rowSources = t.rowSources

def Recording.OnRows (act : Action Recording α) : Prop :=
  ∀ rowSources, ∃ result rowSources', ∀ recording : Recording, recording.rowSources = rowSources →
    ∃ counters, act recording =
      (result, { recording with counters := counters, rowSources := rowSources' })

open Recording (OnRows SameRows)

namespace Recording

theorem onRows_nextRow (rows : RowsId) : OnRows (nextRow rows) := by
  intro rowSources
  cases closed : (rowSources[rows]?.getD ⟨[], [], true⟩).closed with
  | true =>
      refine ⟨.ok none, rowSources, ?_⟩
      rintro recording rfl
      refine ⟨recording.counters, ?_⟩
      unfold nextRow
      rw [Action.bind_apply, Action.read]
      dsimp only [rowSource]
      rw [closed]
      rfl
  | false =>
      cases found : (rowSources[rows]?.getD ⟨[], [], true⟩).rows with
      | nil =>
          refine ⟨.ok none, rowSources, ?_⟩
          rintro recording rfl
          refine ⟨recording.counters, ?_⟩
          unfold nextRow
          rw [Action.bind_apply, Action.read]
          dsimp only [rowSource]
          rw [closed, found]
          rfl
      | cons values rest =>
          refine ⟨.ok (some ⟨(rowSources[rows]?.getD ⟨[], [], true⟩).columns, values⟩),
            rowSources.modify rows fun source => { source with rows := rest }, ?_⟩
          rintro recording rfl
          refine ⟨{ recording.counters with rowsFetched := recording.counters.rowsFetched + 1 }, ?_⟩
          unfold nextRow
          rw [Action.bind_apply, Action.read]
          dsimp only [rowSource]
          rw [closed, found]
          rfl

theorem onRows_closeRows (rows : RowsId) : OnRows (closeRows rows) := by
  intro rowSources
  cases closed : (rowSources[rows]?.getD ⟨[], [], true⟩).closed with
  | true =>
      refine ⟨.ok (), rowSources, ?_⟩
      rintro recording rfl
      refine ⟨recording.counters, ?_⟩
      unfold closeRows
      rw [Action.bind_apply, Action.get_apply]
      dsimp only
      rw [show (recording.rowSource rows).closed = true from closed]
      rfl
  | false =>
      refine ⟨.ok (), rowSources.modify rows fun source => { source with closed := true }, ?_⟩
      rintro recording rfl
      refine ⟨{ recording.counters with cursorsClosed := recording.counters.cursorsClosed + 1 }, ?_⟩
      unfold closeRows
      rw [Action.bind_apply, Action.get_apply]
      dsimp only
      rw [show (recording.rowSource rows).closed = false from closed]
      rfl

theorem onRows_finishRows (rows : RowsId) : OnRows (source.finishRows rows) := by
  intro rowSources
  obtain ⟨result, rowSources', closes⟩ := onRows_closeRows rows rowSources
  refine ⟨result, rowSources', fun recording same => ?_⟩
  obtain ⟨counters, closed⟩ := closes recording same
  refine ⟨counters, ?_⟩
  unfold DataSource.finishRows
  rw [Action.bind_apply, Action.attempt]
  dsimp only [source]
  rw [closed]
  rfl

end Recording

namespace Cursor

def Beside (apart : List StatementId) (s₀ t₀ : Recording) (s t : Recording × Cursor) : Prop :=
  SameRows apart s₀ t₀ s.1 t.1 ∧ Cursor.Twins apart s.2 t.2

theorem Twins.fields {left right : Cursor} (twin : Cursor.Twins apart left right) :
    right.rows = left.rows ∧ right.mapper = left.mapper ∧ right.bounds = left.bounds ∧
      right.state = left.state ∧ right.skipped = left.skipped ∧ right.yielded = left.yielded := by
  rw [twin.same]
  exact ⟨rfl, rfl, rfl, rfl, rfl, rfl⟩

theorem tracks_onRows {act : Action Recording α} (onRows : OnRows act) :
    Tracks strict (Beside apart s₀ t₀) act.onFirst act.onFirst
      (fun a b s t => a = b ∧ Beside apart s₀ t₀ s t) (Beside apart s₀ t₀) := by
  rintro ⟨s, c⟩ ⟨t, d⟩ ⟨rows, twin⟩
  obtain ⟨result, rowSources, acts⟩ := onRows s.rowSources
  obtain ⟨counters, went⟩ := acts s rfl
  obtain ⟨counters', went'⟩ := acts t rows.rowSources.symm
  simp only [Action.onFirst, Action.within, went, went']
  have beside : Beside apart s₀ t₀
      ({ s with counters := counters, rowSources := rowSources }, c)
      ({ t with counters := counters', rowSources := rowSources }, d) :=
    ⟨⟨rows.own.trans ⟨rfl, rfl, rfl, rfl, rfl, fun _ _ => rfl⟩,
      rows.other.trans ⟨rfl, rfl, rfl, rfl, rfl, fun _ _ => rfl⟩, rfl⟩, twin⟩
  exact ⟨fun a done => ⟨a, done, rfl, beside⟩, fun _ e failed => ⟨failed, beside⟩⟩

theorem tracks_change (change : Cursor → Cursor)
    (same : ∀ cursor st, change { cursor with statement := st } =
      { change cursor with statement := st }) :
    Tracks strict (Beside apart s₀ t₀) (Cursor.update change : Action (Recording × Cursor) Unit)
      (Cursor.update change) (fun _ _ => Beside apart s₀ t₀) (Beside apart s₀ t₀) := by
  refine Tracks.modify ?_
  rintro ⟨s, c⟩ ⟨t, d⟩ ⟨rows, twin⟩
  refine ⟨rows, ?_, ?_⟩
  · have twin := twin.same
    dsimp only at twin ⊢
    rw [twin, same]
  · intro st own
    have kept := congrArg Cursor.statement (same c c.statement)
    exact twin.statement st (kept.symm.trans own)

theorem onRows_finishIfAny (rows : Option RowsId) :
    OnRows (finishIfAny Recording.source.finishRows rows).attempt := by
  intro rowSources
  cases rows with
  | none =>
      refine ⟨.ok (.ok ()), rowSources, fun recording same => ⟨recording.counters, ?_⟩⟩
      rw [← same]
      rfl
  | some id =>
      obtain ⟨result, rowSources', acts⟩ := Recording.onRows_finishRows id rowSources
      refine ⟨.ok result, rowSources', fun recording same => ?_⟩
      obtain ⟨counters, went⟩ := acts recording same
      refine ⟨counters, ?_⟩
      simp only [finishIfAny, Action.attempt, went]

theorem finishIfAny_apply (own : StatementId → Prop) (statement : Option StatementId)
    (mem : ∀ st, statement = some st → own st) (recording : Recording) :
    (finishIfAny Recording.source.finishStatement statement recording).1 = .ok () ∧
      recording.Drifts own
        (finishIfAny Recording.source.finishStatement statement recording).2 ∧
      (finishIfAny Recording.source.finishStatement statement recording).2.rowSources =
        recording.rowSources := by
  cases statement with
  | none => exact ⟨rfl, .refl own recording, rfl⟩
  | some st =>
      obtain ⟨done, closed⟩ := Recording.finishStatement_apply recording st
      exact ⟨done, closed.drifts (mem st rfl), closed.rowSources⟩

theorem tracks_finishStatement (left right : Option StatementId)
    (mem : ∀ st, left = some st → st ∈ apart) :
    Tracks strict (Beside apart s₀ t₀)
      (finishIfAny Recording.source.finishStatement left).attempt.onFirst
      (finishIfAny Recording.source.finishStatement right).attempt.onFirst
      (fun a b s t => a = b ∧ Beside apart s₀ t₀ s t) (Beside apart s₀ t₀) := by
  refine Tracks.through ?_
  rintro ⟨s, c⟩ ⟨t, d⟩ ⟨rows, twin⟩
  obtain ⟨done, drifts, same⟩ := finishIfAny_apply (· ∈ apart) left mem s
  obtain ⟨done', drifts', same'⟩ := finishIfAny_apply (fun _ => True) right (fun _ _ => trivial) t
  refine ⟨_, _, rfl, rfl, done.trans done'.symm, ?_, twin⟩
  exact ⟨rows.own.trans drifts, rows.other.trans drifts',
    same.trans (rows.rowSources.trans same'.symm)⟩

theorem tracks_release : Tracks strict (Beside apart s₀ t₀) (release Recording.source)
    (release Recording.source) (fun _ _ => Beside apart s₀ t₀) (Beside apart s₀ t₀) := by
  refine Tracks.get_bind ?_
  rintro ⟨s, c⟩ ⟨t, d⟩ ⟨rows, twin⟩
  have changed : Tracks strict (Beside apart s₀ t₀)
      (Cursor.update fun cursor => { cursor with rows := none, statement := none } :
        Action (Recording × Cursor) Unit)
      (Cursor.update fun cursor => { cursor with rows := none, statement := none })
      (fun _ _ => Beside apart s₀ t₀) (Beside apart s₀ t₀) := by
    refine Tracks.modify ?_
    rintro ⟨s, c⟩ ⟨t, d⟩ ⟨rows, twin⟩
    refine ⟨rows, ?_, fun st no => by cases no⟩
    have twin := twin.same
    dsimp only at twin ⊢
    rw [twin]
  have same : c.rows = d.rows := twin.fields.1.symm
  refine changed.bind fun _ _ => ?_
  rw [same]
  refine (tracks_onRows (onRows_finishIfAny d.rows)).bind_same fun rowsClosed => ?_
  refine (tracks_finishStatement c.statement d.statement twin.statement).bind_same
    fun statementClosed => ?_
  refine Tracks.same_bind _ (fun _ _ => ?_) fun _ _ => id
  exact Tracks.same _ (fun _ _ _ _ => id) fun _ _ => id

theorem tracks_close : Tracks strict (Beside apart s₀ t₀) (close Recording.source)
    (close Recording.source) (fun _ _ => Beside apart s₀ t₀) (Beside apart s₀ t₀) := by
  refine (tracks_change _ ?_).bind fun _ _ => tracks_release
  intro cursor st
  rfl

theorem onRows_skipRows (rows : RowsId) (count : Nat) :
    OnRows (skipRows Recording.source rows count) := by
  induction count with
  | zero => exact fun rowSources => ⟨.ok true, rowSources, fun recording same =>
      ⟨recording.counters, by rw [← same]; rfl⟩⟩
  | succ count ih =>
      intro rowSources
      obtain ⟨result, middle, fetches⟩ := Recording.onRows_nextRow rows rowSources
      obtain ⟨last, rowSources', skips⟩ := ih middle
      have first (recording : Recording) (same : recording.rowSources = rowSources) :
          ∃ counters, Recording.source.nextRow rows recording =
            (result, { recording with counters := counters, rowSources := middle }) :=
        fetches recording same
      unfold skipRows
      cases result with
      | error e =>
          refine ⟨.error e, middle, fun recording same => ?_⟩
          obtain ⟨counters, went⟩ := first recording same
          exact ⟨counters, by rw [Action.bind_apply, went]⟩
      | ok row =>
          cases row with
          | none =>
              refine ⟨.ok false, middle, fun recording same => ?_⟩
              obtain ⟨counters, went⟩ := first recording same
              refine ⟨counters, ?_⟩
              rw [Action.bind_apply, went]
              rfl
          | some row =>
              refine ⟨last, rowSources', fun recording same => ?_⟩
              obtain ⟨counters, went⟩ := first recording same
              obtain ⟨counters', rest⟩ :=
                skips { recording with counters := counters, rowSources := middle } rfl
              refine ⟨counters', ?_⟩
              rw [Action.bind_apply, went]
              exact rest

theorem tracks_skipOffset (rows : RowsId) : Tracks strict (Beside apart s₀ t₀)
    (skipOffset Recording.source rows) (skipOffset Recording.source rows)
    (fun a b s t => a = b ∧ Beside apart s₀ t₀ s t) (Beside apart s₀ t₀) := by
  refine Tracks.get_bind ?_
  rintro ⟨s, c⟩ ⟨t, d⟩ ⟨-, twin⟩
  obtain ⟨-, -, bounds, -, skipped, -⟩ := twin.fields
  dsimp only at bounds skipped ⊢
  rw [bounds, skipped]
  cases c.skipped with
  | true => exact Tracks.pure fun s t beside => ⟨rfl, beside⟩
  | false =>
      refine (tracks_change _ fun _ _ => rfl).bind fun _ _ => ?_
      exact tracks_onRows (onRows_skipRows rows c.bounds.offset)

theorem tracks_fetch : Tracks strict (Beside apart s₀ t₀) (fetch Recording.source)
    (fetch Recording.source) (fun a b s t => a = b ∧ Beside apart s₀ t₀ s t)
    (Beside apart s₀ t₀) := by
  refine Tracks.get_bind ?_
  rintro ⟨s, c⟩ ⟨t, d⟩ ⟨-, twin⟩
  obtain ⟨rows, mapper, bounds, -, -, yielded⟩ := twin.fields
  dsimp only at rows mapper bounds yielded ⊢
  rw [rows, mapper, bounds, yielded]
  cases c.rows with
  | none => exact Tracks.pure fun s t beside => ⟨rfl, beside⟩
  | some rows =>
      refine (tracks_skipOffset rows).bind_same fun skipped => ?_
      cases skipped with
      | false => exact Tracks.pure fun s t beside => ⟨rfl, beside⟩
      | true =>
          simp only [Bool.not_true, Bool.false_eq_true, if_false]
          split
          · exact Tracks.pure fun s t beside => ⟨rfl, beside⟩
          · refine (tracks_onRows (Recording.onRows_nextRow rows)).bind_same fun row => ?_
            cases row with
            | none => exact Tracks.pure fun s t beside => ⟨rfl, beside⟩
            | some row =>
                exact Tracks.same_bind _ (fun value _ =>
                  Tracks.pure fun s t beside => ⟨rfl, beside⟩) fun _ _ => id

theorem tracks_next : Tracks True (Beside apart s₀ t₀) (next Recording.source)
    (next Recording.source) (fun a b s t => a = b ∧ Beside apart s₀ t₀ s t)
    (Beside apart s₀ t₀) := by
  refine Tracks.get_bind ?_
  rintro ⟨s, c⟩ ⟨t, d⟩ ⟨-, twin⟩
  have same : d.isOpen = c.isOpen := by
    unfold isOpen
    rw [twin.fields.2.2.2.1]
  dsimp only
  rw [same]
  cases c.isOpen with
  | false => exact Tracks.pure fun s t beside => ⟨rfl, beside⟩
  | true =>
      refine (tracks_change _ fun _ _ => rfl).bind fun _ _ => ?_
      refine tracks_fetch.attempt_same.bind_same fun fetched => ?_
      rcases fetched with e | _ | value
      · refine (tracks_change _ fun _ _ => rfl).bind fun _ _ => ?_
        refine tracks_release.quietly.bind fun _ _ => ?_
        exact Tracks.throw fun _ _ => id
      · refine (tracks_change _ fun _ _ => rfl).bind fun _ _ => ?_
        refine tracks_release.quietly.bind fun _ _ => ?_
        exact Tracks.pure fun s t beside => ⟨rfl, beside⟩
      · refine (tracks_change _ fun _ _ => rfl).bind fun _ _ => ?_
        exact Tracks.pure fun s t beside => ⟨rfl, beside⟩

end Cursor

namespace Session

def Beside (apart : List StatementId) (s₀ t₀ : Recording) (s t : (Recording × Cursor) × τ) : Prop :=
  Cursor.Beside apart s₀ t₀ s.1 t.1 ∧ s.2 = t.2

theorem tracks_onFirst {act : Action (Recording × Cursor) α}
    (tracks : Tracks True (Cursor.Beside apart s₀ t₀) act act
      (fun a b s t => a = b ∧ Cursor.Beside apart s₀ t₀ s t) (Cursor.Beside apart s₀ t₀)) :
    Tracks True (Beside apart s₀ t₀) (act.onFirst : Action ((Recording × Cursor) × τ) α) act.onFirst
      (fun a b s t => a = b ∧ Beside apart s₀ t₀ s t) (Beside apart s₀ t₀) := by
  rintro ⟨s, r⟩ ⟨t, r'⟩ ⟨beside, rfl⟩
  obtain ⟨goes, stops⟩ := tracks s t beside
  refine ⟨fun b done => ?_, fun _ e failed => ?_⟩
  · obtain ⟨a, ran, same, after⟩ := goes b done
    exact ⟨a, ran, same, after, rfl⟩
  · obtain ⟨ran, after⟩ := stops trivial e failed
    exact ⟨ran, after, rfl⟩

theorem tracks_receiver (act : Action τ α) :
    Tracks True (Beside apart s₀ t₀)
      (Action.within Prod.snd (fun state after => (state.1, after)) act :
        Action ((Recording × Cursor) × τ) α)
      (Action.within Prod.snd (fun state after => (state.1, after)) act)
      (fun a b s t => a = b ∧ Beside apart s₀ t₀ s t) (Beside apart s₀ t₀) := by
  rintro ⟨s, r⟩ ⟨t, r'⟩ ⟨beside, rfl⟩
  exact ⟨fun b done => ⟨b, done, rfl, beside, rfl⟩, fun _ e failed => ⟨failed, beside, rfl⟩⟩

theorem tracks_receiveRows (receive : Nat → Value → Action τ Bool) (steps number : Nat) :
    Tracks True (Beside apart s₀ t₀) (receiveRows Recording.source receive number steps)
      (receiveRows Recording.source receive number steps) (fun _ _ => Beside apart s₀ t₀)
      (Beside apart s₀ t₀) := by
  induction steps generalizing number with
  | zero => exact Tracks.pure fun _ _ => id
  | succ steps ih =>
      refine (tracks_onFirst Cursor.tracks_next).bind_same fun row => ?_
      cases row with
      | none => exact Tracks.pure fun _ _ => id
      | some row =>
          refine (tracks_receiver (receive number row)).bind_same fun enough => ?_
          cases enough with
          | true => exact Tracks.pure fun _ _ => id
          | false => exact ih (number + 1)

theorem tracks_stream (receive : Nat → Value → Action τ Bool) (limit : Nat) :
    Tracks True (Beside apart s₀ t₀) (stream Recording.source receive limit)
      (stream Recording.source receive limit) (fun _ _ => Beside apart s₀ t₀)
      (Beside apart s₀ t₀) := by
  have closes : Tracks True (Cursor.Beside apart s₀ t₀) (Cursor.close Recording.source)
      (Cursor.close Recording.source)
      (fun a b s t => a = b ∧ Cursor.Beside apart s₀ t₀ s t) (Cursor.Beside apart s₀ t₀) :=
    Cursor.tracks_close.weaken (fun _ _ => id) (fun _ _ _ _ held => ⟨rfl, held⟩) (fun _ _ => id) id
  have received := (tracks_receiveRows receive (limit + 1) 1).weaken (fun _ _ => id)
    (fun _ _ s t (held : Beside apart s₀ t₀ s t) => (⟨rfl, held⟩ : () = () ∧ _)) (fun _ _ => id) id
  refine received.attempt_same.bind_same fun result => ?_
  cases result with
  | error e =>
      have quietly : Tracks True (Cursor.Beside apart s₀ t₀) (Cursor.close Recording.source).quietly
          (Cursor.close Recording.source).quietly
          (fun a b s t => a = b ∧ Cursor.Beside apart s₀ t₀ s t) (Cursor.Beside apart s₀ t₀) :=
        Cursor.tracks_close.quietly.weaken (fun _ _ => id) (fun _ _ _ _ held => ⟨rfl, held⟩)
          (fun _ _ => id) id
      exact (tracks_onFirst quietly).bind_same fun _ => Tracks.throw fun _ _ => id
  | ok done =>
      exact (tracks_onFirst closes).weaken (fun _ _ => id) (fun _ _ _ _ held => held.2)
        (fun _ _ => id) id

end Session

end MappedSql
