import MappedSql.Action

namespace MappedSql.Action

variable {S T α β γ δ : Type}

def Tracks (strict : Prop) (pre : S → T → Prop) (left : Action S α) (right : Action T β)
    (post : α → β → S → T → Prop) (fails : S → T → Prop) : Prop :=
  ∀ s t, pre s t →
    (∀ b, (right t).1 = .ok b → ∃ a, (left s).1 = .ok a ∧ post a b (left s).2 (right t).2) ∧
      (strict → ∀ e, (right t).1 = .error e → (left s).1 = .error e ∧ fails (left s).2 (right t).2)

theorem bind_assoc (act : Action S α) (next : α → Action S β) (last : β → Action S γ) :
    (act >>= next) >>= last = act >>= fun a => next a >>= last := by
  funext state
  rw [bind_apply, bind_apply, bind_apply]
  rcases act state with ⟨e | a, after⟩ <;> rfl

structure Attempted (strict : Prop) (post : α → β → S → T → Prop) (fails : S → T → Prop)
    (left : Except Error α) (right : Except Error β) (s : S) (t : T) : Prop where
  done : ∀ b, right = .ok b → ∃ a, left = .ok a ∧ post a b s t
  failed : strict → ∀ e, right = .error e → left = .error e ∧ fails s t

namespace Tracks

variable {strict : Prop} {pre fails : S → T → Prop} {left : Action S α} {right : Action T β}
  {post : α → β → S → T → Prop}

theorem pure {a : α} {b : β} (holds : ∀ s t, pre s t → post a b s t) :
    Tracks strict pre (pure a) (pure b) post fails := by
  intro s t held
  refine ⟨fun b' same => ?_, fun _ e no => by cases no⟩
  obtain rfl : b = b' := Except.ok.inj same
  exact ⟨a, rfl, holds s t held⟩

theorem throw {e : Error} (holds : ∀ s t, pre s t → fails s t) :
    Tracks strict pre (throw e : Action S α) (throw e : Action T β) post fails := by
  intro s t held
  refine ⟨fun b no => (by cases no), fun _ e' same => ?_⟩
  obtain rfl : e = e' := Except.error.inj same
  exact ⟨rfl, holds s t held⟩

theorem same (result : Except Error α) {post : α → α → S → T → Prop}
    (holds : ∀ a, result = .ok a → ∀ s t, pre s t → post a a s t)
    (failed : ∀ s t, pre s t → fails s t) :
    Tracks strict pre (liftM result : Action S α) (liftM result : Action T α) post fails :=
  fun s t held => ⟨fun a done => ⟨a, done, holds a done s t held⟩, fun _ _ no => ⟨no, failed s t held⟩⟩

theorem modify {change : S → S} {other : T → T} {post : Unit → Unit → S → T → Prop}
    (holds : ∀ s t, pre s t → post () () (change s) (other t)) :
    Tracks strict pre (modify change) (modify other) post fails :=
  fun s t held => ⟨fun _ _ => ⟨(), rfl, holds s t held⟩, fun _ e no => by cases no⟩

theorem bind {next : α → Action S γ} {other : β → Action T δ} {last : γ → δ → S → T → Prop}
    (first : Tracks strict pre left right post fails)
    (second : ∀ a b, Tracks strict (post a b) (next a) (other b) last fails) :
    Tracks strict pre (left >>= next) (right >>= other) last fails := by
  intro s t held
  obtain ⟨done, failed⟩ := first s t held
  rw [bind_apply, bind_apply]
  rcases went : right t with ⟨e | b, t'⟩ <;> rw [went] at done failed
  · refine ⟨fun b no => (by cases no), fun isStrict e' same => ?_⟩
    obtain rfl : e = e' := Except.error.inj same
    obtain ⟨left_failed, rest⟩ := failed isStrict e rfl
    rcases ran : left s with ⟨e' | a, s'⟩ <;> rw [ran] at left_failed rest
    · obtain rfl : e' = e := Except.error.inj left_failed
      exact ⟨rfl, rest⟩
    · cases left_failed
  · obtain ⟨a, left_done, holds⟩ := done b rfl
    rcases ran : left s with ⟨e | a', s'⟩ <;> rw [ran] at left_done holds
    · cases left_done
    · obtain rfl : a' = a := Except.ok.inj left_done
      exact second a' b s' t' holds

theorem bind_attempt {next : α → Action S γ} {rest : Except Error β → Action T δ}
    {last : γ → δ → S → T → Prop} {fails' : S → T → Prop}
    (first : Tracks True pre left right post fails)
    (done : ∀ a b, Tracks True (post a b) (next a) (rest (.ok b)) last fails')
    (failed : ∀ e s t, fails s t → (rest (.error e) t).1 = .error e ∧ fails' s (rest (.error e) t).2) :
    Tracks True pre (left >>= next) (right.attempt >>= rest) last fails' := by
  intro s t held
  obtain ⟨goes, stops⟩ := first s t held
  rw [bind_apply, bind_apply, Action.attempt]
  dsimp only
  rcases went : right t with ⟨e | b, t'⟩ <;> rw [went] at goes stops
  · obtain ⟨left_failed, holds⟩ := stops trivial e rfl
    obtain ⟨same, stays⟩ := failed e _ t' holds
    rcases ran : left s with ⟨e' | a, s'⟩ <;> rw [ran] at left_failed stays
    · obtain rfl : e' = e := Except.error.inj left_failed
      refine ⟨fun b no => (by cases same.symm.trans no), fun _ e same' => ?_⟩
      obtain rfl : e' = e := Except.error.inj (same.symm.trans same')
      exact ⟨rfl, stays⟩
    · cases left_failed
  · obtain ⟨a, left_done, holds⟩ := goes b rfl
    rcases ran : left s with ⟨e | a', s'⟩ <;> rw [ran] at left_done holds
    · cases left_done
    · obtain rfl : a' = a := Except.ok.inj left_done
      exact done a' b s' t' holds

theorem same_bind (result : Except Error γ) {next : γ → Action S α} {other : γ → Action T β}
    (rest : ∀ c, result = .ok c → Tracks strict pre (next c) (other c) post fails)
    (failed : ∀ s t, pre s t → fails s t) :
    Tracks strict pre (liftM result >>= next) (liftM result >>= other) post fails := by
  cases result with
  | error e => exact throw failed
  | ok c => exact rest c rfl

theorem read_bind {view : S → γ} {view' : T → δ} {next : γ → Action S α} {other : δ → Action T β}
    (fact : γ → δ → Prop) (agree : ∀ s t, pre s t → fact (view s) (view' t))
    (rest : ∀ c d, fact c d → Tracks strict pre (next c) (other d) post fails) :
    Tracks strict pre (Action.read view >>= next) (Action.read view' >>= other) post fails :=
  fun s t held => rest (view s) (view' t) (agree s t held) s t held

theorem get_bind {next : S → Action S α} {other : T → Action T β}
    (rest : ∀ s t, pre s t → Tracks strict pre (next s) (other t) post fails) :
    Tracks strict pre (get >>= next) (get >>= other) post fails :=
  fun s t held => rest s t held s t held

theorem bind_same {next : α → Action S γ} {other : α → Action T δ} {right : Action T α}
    {mid : α → S → T → Prop} {last : γ → δ → S → T → Prop}
    (first : Tracks strict pre left right (fun a b s t => a = b ∧ mid a s t) fails)
    (second : ∀ a, Tracks strict (mid a) (next a) (other a) last fails) :
    Tracks strict pre (left >>= next) (right >>= other) last fails := by
  refine first.bind fun a b s t held => ?_
  obtain ⟨rfl, known⟩ := held
  exact second a s t known

theorem left_first {next : α → Action S γ} {mid : α → S → T → Prop} {last : γ → β → S → T → Prop}
    (steps : ∀ s t, pre s t → ∃ a, (left s).1 = .ok a ∧ mid a (left s).2 t)
    (rest : ∀ a, Tracks strict (mid a) (next a) right last fails) :
    Tracks strict pre (left >>= next) right last fails := by
  intro s t held
  obtain ⟨a, done, holds⟩ := steps s t held
  rw [bind_apply]
  rcases ran : left s with ⟨e | a', s'⟩ <;> rw [ran] at done holds
  · cases done
  · obtain rfl : a' = a := Except.ok.inj done
    exact rest a' s' t holds

theorem weaken {strict' : Prop} {pre' fails' : S → T → Prop} {post' : α → β → S → T → Prop}
    (tracks : Tracks strict pre left right post fails) (before : ∀ s t, pre' s t → pre s t)
    (done : ∀ a b s t, post a b s t → post' a b s t) (failed : ∀ s t, fails s t → fails' s t)
    (stricter : strict' → strict) : Tracks strict' pre' left right post' fails' := by
  intro s t held
  obtain ⟨goes, stops⟩ := tracks s t (before s t held)
  refine ⟨fun b same => ?_, fun isStrict e same => ?_⟩
  · obtain ⟨a, ran, holds⟩ := goes b same
    exact ⟨a, ran, done _ _ _ _ holds⟩
  · obtain ⟨ran, holds⟩ := stops (stricter isStrict) e same
    exact ⟨ran, failed _ _ holds⟩

theorem failing {fails' : S → T → Prop} (tracks : Tracks strict pre left right post fails)
    (failed : ∀ s t, fails s t → fails' s t) : Tracks strict pre left right post fails' :=
  tracks.weaken (fun _ _ => id) (fun _ _ _ _ => id) failed id

theorem under {pre' : S → T → Prop} (tracks : Tracks strict pre left right post fails)
    (before : ∀ s t, pre' s t → pre s t) : Tracks strict pre' left right post fails :=
  tracks.weaken before (fun _ _ _ _ => id) (fun _ _ => id) id

theorem lenient (tracks : Tracks strict pre left right post fails) :
    Tracks False pre left right post fails :=
  fun s t held => ⟨(tracks s t held).1, fun no => no.elim⟩

theorem through (both : ∀ s t, pre s t → ∃ a b, (left s).1 = .ok a ∧ (right t).1 = .ok b ∧
    post a b (left s).2 (right t).2) : Tracks strict pre left right post fails := by
  intro s t held
  obtain ⟨a, b, ran, ran', holds⟩ := both s t held
  refine ⟨fun b' same => ?_, fun _ e no => by cases ran'.symm.trans no⟩
  obtain rfl : b = b' := Except.ok.inj (ran'.symm.trans same)
  exact ⟨a, ran, holds⟩

theorem carry {keeps : S → T → Prop} (tracks : Tracks strict pre left right post fails)
    (kept : ∀ s t, keeps s t → keeps (left s).2 (right t).2) :
    Tracks strict (fun s t => keeps s t ∧ pre s t) left right
      (fun a b s t => keeps s t ∧ post a b s t) (fun s t => keeps s t ∧ fails s t) := by
  rintro s t ⟨keeps, held⟩
  obtain ⟨goes, stops⟩ := tracks s t held
  refine ⟨fun b same => ?_, fun isStrict e same => ?_⟩
  · obtain ⟨a, ran, holds⟩ := goes b same
    exact ⟨a, ran, kept s t keeps, holds⟩
  · obtain ⟨ran, holds⟩ := stops isStrict e same
    exact ⟨ran, kept s t keeps, holds⟩

theorem attempt {never : S → T → Prop} (tracks : Tracks strict pre left right post fails) :
    Tracks strict pre left.attempt right.attempt (Attempted strict post fails) never := by
  intro s t held
  obtain ⟨goes, stops⟩ := tracks s t held
  refine ⟨fun b same => ?_, fun _ e no => by cases no⟩
  obtain rfl : (right t).1 = b := Except.ok.inj same
  exact ⟨(left s).1, rfl, goes, stops⟩

theorem attempt_bind {next : Except Error α → Action S γ} {other : Except Error β → Action T δ}
    {last : γ → δ → S → T → Prop} {fails' : S → T → Prop}
    (first : Tracks True pre left right post fails)
    (done : ∀ a b, Tracks True (post a b) (next (.ok a)) (other (.ok b)) last fails')
    (failed : ∀ e, Tracks True fails (next (.error e)) (other (.error e)) last fails') :
    Tracks True pre (left.attempt >>= next) (right.attempt >>= other) last fails' := by
  refine (attempt first).bind fun result result' s t attempted => ?_
  cases result' with
  | ok b =>
      obtain ⟨a, rfl, holds⟩ := attempted.done b rfl
      exact done a b s t holds
  | error e =>
      obtain ⟨rfl, holds⟩ := attempted.failed trivial e rfl
      exact failed e s t holds

theorem alike {other : Action T α} {holds : S → T → Prop}
    (tracks : Tracks True pre left other (fun a b s t => a = b ∧ holds s t) holds) {s : S} {t : T}
    (held : pre s t) : (left s).1 = (other t).1 ∧ holds (left s).2 (other t).2 := by
  obtain ⟨goes, stops⟩ := tracks s t held
  cases went : (other t).1 with
  | error e => exact stops trivial e went
  | ok b =>
      obtain ⟨a, ran, rfl, holds⟩ := goes b went
      exact ⟨ran, holds⟩

theorem attempt_same {other : Action T α} {holds never : S → T → Prop}
    (tracks : Tracks True pre left other (fun a b s t => a = b ∧ holds s t) holds) :
    Tracks strict pre left.attempt other.attempt (fun a b s t => a = b ∧ holds s t) never :=
  through fun s t held => ⟨(left s).1, (other t).1, rfl, rfl, tracks.alike held⟩

theorem after {holds : S → T → Prop} (tracks : Tracks strict pre left right (fun _ _ => holds) holds)
    (isStrict : strict) {s : S} {t : T} (held : pre s t) : holds (left s).2 (right t).2 := by
  obtain ⟨goes, stops⟩ := tracks s t held
  cases went : (right t).1 with
  | error e => exact (stops isStrict e went).2
  | ok b =>
      obtain ⟨a, -, after⟩ := goes b went
      exact after

theorem quietly {holds never : S → T → Prop}
    (tracks : Tracks True pre left right (fun _ _ => holds) holds) :
    Tracks strict pre left.quietly right.quietly (fun _ _ => holds) never :=
  through fun _ _ held => ⟨(), (), rfl, rfl, tracks.after trivial held⟩

theorem ensuring {last : Action S Unit} {last' : Action T Unit} {post' : α → β → S → T → Prop}
    {fails' : S → T → Prop} (tracks : Tracks strict pre left right post fails)
    (through : ∀ s, (last s).1 = .ok ()) (through' : ∀ t, (last' t).1 = .ok ())
    (done : ∀ a b s t, post a b s t → post' a b (last s).2 (last' t).2)
    (failed : ∀ s t, fails s t → fails' (last s).2 (last' t).2) :
    Tracks strict pre (left.attempt >>= fun result => last >>= fun _ => liftM result)
      (right.attempt >>= fun result => last' >>= fun _ => liftM result) post' fails' := by
  intro s t held
  obtain ⟨goes, stops⟩ := tracks s t held
  have own : (left.attempt >>= fun result => last >>= fun _ => liftM result) s =
      ((left s).1, (last (left s).2).2) := by
    rw [bind_apply, Action.attempt]
    dsimp only
    rw [bind_apply]
    rcases ran : last (left s).2 with ⟨e | u, after⟩
    · cases (congrArg Prod.fst ran).symm.trans (through (left s).2)
    · rfl
  have other : (right.attempt >>= fun result => last' >>= fun _ => liftM result) t =
      ((right t).1, (last' (right t).2).2) := by
    rw [bind_apply, Action.attempt]
    dsimp only
    rw [bind_apply]
    rcases ran : last' (right t).2 with ⟨e | u, after⟩
    · cases (congrArg Prod.fst ran).symm.trans (through' (right t).2)
    · rfl
  rw [own, other]
  refine ⟨fun b same => ?_, fun isStrict e same => ?_⟩
  · obtain ⟨a, ran, holds⟩ := goes b same
    exact ⟨a, ran, done a b _ _ holds⟩
  · obtain ⟨ran, holds⟩ := stops isStrict e same
    exact ⟨ran, failed _ _ holds⟩

theorem inContext (tracks : Tracks strict pre left right post fails) (context : String) :
    Tracks strict pre (left.inContext context) (right.inContext context) post fails := by
  intro s t held
  obtain ⟨goes, stops⟩ := tracks s t held
  refine ⟨fun b same => ?_, fun isStrict e same => ?_⟩
  · cases went : (right t).1 with
    | error e => simp [Action.inContext, went] at same
    | ok b' =>
        obtain ⟨a, ran, holds⟩ := goes b' went
        simp only [Action.inContext, went, withContext_ok, Except.ok.injEq] at same
        subst same
        exact ⟨a, by simp [Action.inContext, ran], holds⟩
  · cases went : (right t).1 with
    | error e' =>
        obtain ⟨ran, holds⟩ := stops isStrict e' went
        refine ⟨?_, holds⟩
        simp only [Action.inContext, went, withContext_error, Except.error.injEq] at same
        subst same
        simp [Action.inContext, ran]
    | ok b' => simp [Action.inContext, went] at same

theorem whichever {ι : Type} {pres : ι → S → T → Prop}
    (tracks : ∀ i, Tracks strict (pres i) left right post fails) :
    Tracks strict (fun s t => ∃ i, pres i s t) left right post fails :=
  fun s t ⟨i, held⟩ => tracks i s t held

theorem given {fact : Prop} (tracks : fact → Tracks strict pre left right post fails) :
    Tracks strict (fun s t => fact ∧ pre s t) left right post fails :=
  fun s t ⟨known, held⟩ => tracks known s t held

end Tracks

end MappedSql.Action
