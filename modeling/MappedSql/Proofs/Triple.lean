import MappedSql.Action

namespace MappedSql.Action

variable {S T ν α β : Type}

theorem modify_apply (change : S → S) (state : S) :
    (modify change : Action S PUnit) state = (.ok (), change state) :=
  rfl

theorem bind_eq_ok {act : Action S α} {next : α → Action S β} {state after : S} {b : β} :
    (act >>= next) state = (.ok b, after) ↔
      ∃ a middle, act state = (.ok a, middle) ∧ next a middle = (.ok b, after) := by
  rw [bind_apply]
  rcases act state with ⟨e | a, middle⟩
  · exact iff_of_false nofun fun ⟨_, _, went, _⟩ => nomatch went
  · exact ⟨fun went => ⟨a, middle, rfl, went⟩, fun ⟨_, _, went, rest⟩ => by cases went; exact rest⟩

theorem bind_cases {act : Action S α} {next : α → Action S β} {state after : S}
    {result : Except Error β} (ran : (act >>= next) state = (result, after)) :
    (∃ e, act state = (.error e, after) ∧ result = .error e) ∨
      ∃ a middle, act state = (.ok a, middle) ∧ next a middle = (result, after) := by
  rw [bind_apply] at ran
  rcases went : act state with ⟨e | a, middle⟩ <;> rw [went] at ran
  · cases ran
    exact .inl ⟨e, rfl, rfl⟩
  · exact .inr ⟨a, middle, rfl, ran⟩

theorem pure_eq_ok {a b : α} {state after : S} :
    (pure a : Action S α) state = (.ok b, after) ↔ a = b ∧ state = after := by
  rw [pure_apply]
  simp

theorem within_eq_ok {part : S → T} {put : S → T → S} {act : Action T α} {state after : S} {a : α} :
    within part put act state = (.ok a, after) ↔
      ∃ middle, act (part state) = (.ok a, middle) ∧ after = put state middle := by
  unfold within
  rcases act (part state) with ⟨e | b, middle⟩
  · exact iff_of_false nofun fun ⟨_, went, _⟩ => nomatch went
  · simp only [Prod.mk.injEq, Except.ok.injEq]
    exact ⟨fun ⟨same, put⟩ => ⟨middle, ⟨same, rfl⟩, put.symm⟩,
      fun ⟨_, ⟨same, left⟩, put⟩ => ⟨same, left ▸ put.symm⟩⟩

theorem onFirst_apply (act : Action S α) (state : S × T) :
    onFirst act state = ((act state.1).1, ((act state.1).2, state.2)) :=
  rfl

theorem onFirst_congr {act act' : Action S α} {state : S × T} (same : act state.1 = act' state.1) :
    onFirst act state = onFirst act' state := by
  rw [onFirst_apply, onFirst_apply, same]

theorem onFirst_eq_ok {act : Action S α} {state after : S × T} {a : α} :
    onFirst act state = (.ok a, after) ↔
      ∃ middle, act state.1 = (.ok a, middle) ∧ after = (middle, state.2) :=
  within_eq_ok

def Leaves (view : S → ν) (act : Action S α) : Prop :=
  ∀ state, view (act state).2 = view state

def Meets (pre : S → Prop) (act : Action S α) (post : α → S → Prop) (fails : S → Prop) : Prop :=
  ∀ state, pre state → (∀ a, (act state).1 = .ok a → post a (act state).2) ∧
    ∀ e, (act state).1 = .error e → fails (act state).2

theorem related_bind (related : S → S → Prop)
    (trans : ∀ {first second third}, related first second → related second third →
      related first third) {act : Action S α} {next : α → Action S β}
    (first : ∀ state, related state (act state).2)
    (second : ∀ a state, related state (next a state).2) (state : S) :
    related state ((act >>= next) state).2 := by
  have before := first state
  rw [bind_apply]
  rcases ran : act state with ⟨e | a, after⟩ <;> rw [ran] at before
  · exact before
  · exact trans before (second a after)

namespace Leaves

variable {view : S → ν} {act : Action S α}

theorem pure (a : α) : Leaves view (pure a : Action S α) :=
  fun _ => rfl

theorem throw (e : Error) : Leaves view (throw e : Action S α) :=
  fun _ => rfl

theorem ofResult (result : Except Error α) : Leaves view (ofResult result) :=
  fun _ => rfl

theorem lift (result : Except Error α) : Leaves view (liftM result : Action S α) :=
  fun _ => rfl

theorem get : Leaves view (get : Action S S) :=
  fun _ => rfl

theorem read (part : S → α) : Leaves view (read part) :=
  fun _ => rfl

theorem modify {change : S → S} (same : ∀ state, view (change state) = view state) :
    Leaves view (modify change : Action S Unit) :=
  same

theorem bind {next : α → Action S β} (first : Leaves view act)
    (second : ∀ a, Leaves view (next a)) : Leaves view (act >>= next) := by
  intro state
  have before := first state
  rw [bind_apply]
  rcases ran : act state with ⟨e | a, after⟩ <;> rw [ran] at before
  · exact before
  · exact (second a after).trans before

theorem attempt (leaves : Leaves view act) : Leaves view act.attempt :=
  leaves

theorem quietly (leaves : Leaves view act) : Leaves view act.quietly :=
  leaves

theorem inContext (leaves : Leaves view act) (context : String) : Leaves view (act.inContext context) :=
  leaves

theorem within {part : S → T} {put : S → T → S} {act : Action T α}
    (same : ∀ state, view (put state (act (part state)).2) = view state) :
    Leaves view (within part put act) :=
  same

theorem map {μ : Type} (leaves : Leaves view act) (f : ν → μ) : Leaves (f ∘ view) act :=
  fun state => congrArg f (leaves state)

end Leaves

namespace Meets

variable {pre fails : S → Prop} {act : Action S α} {post : α → S → Prop}

theorem pure {a : α} (holds : ∀ state, pre state → post a state) :
    Meets pre (pure a) post fails := by
  intro state held
  refine ⟨fun b same => ?_, fun e no => by cases no⟩
  obtain rfl : a = b := Except.ok.inj same
  exact holds state held

theorem throw {e : Error} (holds : ∀ state, pre state → fails state) :
    Meets pre (throw e : Action S α) post fails :=
  fun state held => ⟨fun a no => (by cases no), fun _ _ => holds state held⟩

theorem ofResult {result : Except Error α}
    (done : ∀ a, result = .ok a → ∀ state, pre state → post a state)
    (failed : ∀ state, pre state → fails state) : Meets pre (ofResult result) post fails :=
  fun state held => ⟨fun a same => done a same state held, fun _ _ => failed state held⟩

theorem modify {change : S → S} {post : Unit → S → Prop}
    (holds : ∀ state, pre state → post () (change state)) :
    Meets pre (modify change : Action S Unit) post fails :=
  fun state held => ⟨fun _ _ => holds state held, fun e no => by cases no⟩

theorem bind {next : α → Action S β} {last : β → S → Prop} (first : Meets pre act post fails)
    (second : ∀ a, Meets (post a) (next a) last fails) : Meets pre (act >>= next) last fails := by
  intro state held
  obtain ⟨done, failed⟩ := first state held
  rw [bind_apply]
  rcases ran : act state with ⟨e | a, after⟩ <;> rw [ran] at done failed
  · exact ⟨fun b no => (by cases no), fun _ _ => failed e rfl⟩
  · exact second a after (done a rfl)

theorem always {holds : S → Prop} (after : ∀ state, pre state → holds (act state).2) :
    Meets pre act (fun _ => holds) holds :=
  fun state held => ⟨fun _ _ => after state held, fun _ _ => after state held⟩

theorem after {holds : S → Prop} (meets : Meets pre act (fun _ => holds) holds) (state : S)
    (held : pre state) : holds (act state).2 := by
  cases went : (act state).1 with
  | error e => exact (meets state held).2 e went
  | ok a => exact (meets state held).1 a went

theorem weaken {pre' fails' : S → Prop} {post' : α → S → Prop} (meets : Meets pre act post fails)
    (before : ∀ state, pre' state → pre state) (done : ∀ a state, post a state → post' a state)
    (failed : ∀ state, fails state → fails' state) : Meets pre' act post' fails' :=
  fun state held =>
    ⟨fun a same => done a _ ((meets state (before state held)).1 a same),
      fun e same => failed _ ((meets state (before state held)).2 e same)⟩

theorem attempt {never : S → Prop} (meets : Meets pre act post fails) :
    Meets pre act.attempt
      (fun result state => (∀ a, result = .ok a → post a state) ∧
        ∀ e, result = .error e → fails state) never := by
  intro state held
  refine ⟨fun result same => ?_, fun e no => by cases no⟩
  obtain rfl : (act state).1 = result := Except.ok.inj same
  exact meets state held

theorem attempt_either {holds never : S → Prop} (meets : Meets pre act (fun _ => holds) holds) :
    Meets pre act.attempt (fun _ => holds) never := by
  intro state held
  exact ⟨fun _ _ => meets.after state held, fun e no => by cases no⟩

theorem quietly {holds never : S → Prop} (meets : Meets pre act (fun _ => holds) holds) :
    Meets pre act.quietly (fun _ => holds) never := by
  intro state held
  exact ⟨fun _ _ => meets.after state held, fun e no => by cases no⟩

theorem inContext (meets : Meets pre act post fails) (context : String) :
    Meets pre (act.inContext context) post fails := by
  intro state held
  obtain ⟨done, failed⟩ := meets state held
  refine ⟨fun a same => ?_, fun e same => ?_⟩
  · cases went : (act state).1 with
    | error e =>
        simp only [Action.inContext, went, withContext] at same
        cases same
    | ok b =>
        simp only [Action.inContext, went, withContext] at same
        obtain rfl : b = a := Except.ok.inj same
        exact done b went
  · cases went : (act state).1 with
    | error e' => exact failed e' went
    | ok b =>
        simp only [Action.inContext, went, withContext] at same
        cases same

theorem of_leaves {view : S → ν} (leaves : Leaves view act) {holds : S → Prop}
    (told : ∀ state after, view after = view state → holds state → holds after) :
    Meets holds act (fun _ => holds) holds :=
  fun state held => ⟨fun _ _ => told _ _ (leaves state) held, fun _ _ => told _ _ (leaves state) held⟩

theorem whichever {ι : Type} {pres : ι → S → Prop} (meets : ∀ i, Meets (pres i) act post fails) :
    Meets (fun state => ∃ i, pres i state) act post fails :=
  fun state ⟨i, held⟩ => meets i state held

theorem given {fact : Prop} (meets : fact → Meets pre act post fails) :
    Meets (fun state => fact ∧ pre state) act post fails :=
  fun state ⟨known, held⟩ => meets known state held

end Meets

end MappedSql.Action
