import MappedSql.Proofs.Execution.Disciplines

namespace MappedSql

section Noting

variable {τ : Type}

def Interceptor.noted (interceptor : Interceptor (Traced τ)) (place : Nat) :
    Interceptor (Traced τ) :=
  { interceptor with
    intercept := fun method args proceed => do
      Work.onSource (modify (Traced.note (.entered place method)))
      let outcome ← (interceptor.intercept method args proceed).attempt
      Work.onSource (modify (Traced.note (.left place method)))
      liftM outcome }

namespace Chain

def notedFrom (place : Nat) : Chain (Traced τ) → Chain (Traced τ)
  | [] => []
  | registration :: rest =>
      { registration with interceptor := registration.interceptor.noted place } ::
        notedFrom (place + 1) rest

def noted (chain : Chain (Traced τ)) : Chain (Traced τ) :=
  chain.notedFrom 0

def declaringFrom (method : Method) (place : Nat) : Chain (Traced τ) → List Nat
  | [] => []
  | registration :: rest =>
      if registration.methods.contains method then
        place :: declaringFrom method (place + 1) rest
      else declaringFrom method (place + 1) rest

def declaring (chain : Chain (Traced τ)) (method : Method) : List Nat :=
  chain.declaringFrom method 0

end Chain

end Noting

def Event.Without (kind : Operation → Bool) (events : List Event) : Prop :=
  ∀ event ∈ events, event.asks kind = false

namespace Event

variable {kind : Operation → Bool} {events : List Event}

theorem Without.mono {narrower : Operation → Bool} (without : Without kind events)
    (within : ∀ operation, kind operation = false → narrower operation = false) :
    Without narrower events := by
  intro event mem
  have apart := without event mem
  cases event with
  | asked operation answered => exact within operation apart
  | entered | left => rfl

theorem Without.connects (without : Without Operation.begins events) :
    Without Operation.isConnect events :=
  without.mono fun _ apart => (Bool.or_eq_false_iff.1 apart).1

theorem Without.countP_opens (without : Without Operation.isConnect events) :
    events.countP opens = 0 := by
  rw [List.countP_eq_zero]
  intro event mem
  have apart := without event mem
  cases event with
  | asked operation answered =>
      simp only [asks] at apart
      simp [opens, apart]
  | entered | left => exact Bool.false_ne_true

end Event

inductive Deed
  | asks (operation : Operation) (answered : Bool)
  | performs (method : Method) (inner : List Deed)

namespace Deed

variable {τ : Type}

mutual

def events (chain : Chain (Traced τ)) : Deed → List Event
  | asks operation answered => [.asked operation answered]
  | performs method inner =>
      ((chain.declaring method).reverse.map fun place => .entered place method) ++
        eventsOf chain inner ++ (chain.declaring method).map fun place => .left place method

def eventsOf (chain : Chain (Traced τ)) : List Deed → List Event
  | [] => []
  | deed :: rest => events chain deed ++ eventsOf chain rest

end

theorem eventsOf_append (chain : Chain (Traced τ)) (deeds more : List Deed) :
    eventsOf chain (deeds ++ more) = eventsOf chain deeds ++ eventsOf chain more := by
  induction deeds with
  | nil => rfl
  | cons deed rest ih => rw [List.cons_append, eventsOf, eventsOf, ih, List.append_assoc]

/-- Deeds that may stand within a method, or within none: operations and methods where they belong, and
what maps the answer of an operation right behind it. -/
inductive Fits : Option Method → List Deed → Prop
  | nil {parent : Option Method} : Fits parent []
  | asks {parent : Option Method} {operation : Operation} {answered : Bool} {rest : List Deed}
      (belongs : operation.under parent = true)
      (ends : answered = true → operation.leadsTo = none) (fits : Fits parent rest) :
      Fits parent (.asks operation answered :: rest)
  | leads {parent : Option Method} {operation : Operation} {method : Method}
      {inner rest : List Deed} (belongs : operation.under parent = true)
      (leads : operation.leadsTo = some method) (inside : Fits (some method) inner)
      (fits : Fits parent rest) : Fits parent (.asks operation true :: .performs method inner :: rest)
  | performs {parent : Option Method} {method : Method} {inner rest : List Deed}
      (belongs : method.under parent = true) (inside : Fits (some method) inner)
      (fits : Fits parent rest) : Fits parent (.performs method inner :: rest)

theorem Fits.append {parent : Option Method} {deeds more : List Deed} (fits : Fits parent deeds)
    (others : Fits parent more) : Fits parent (deeds ++ more) := by
  induction fits with
  | nil => exact others
  | asks belongs ends _ ih => exact .asks belongs ends (ih others)
  | leads belongs leads inside _ _ ih => exact .leads belongs leads inside (ih others)
  | performs belongs inside _ _ ih => exact .performs belongs inside (ih others)

theorem Fits.mono {parent place : Option Method} {deeds : List Deed} (fits : Fits parent deeds)
    (operations : ∀ operation : Operation, operation.under parent = true →
      operation.under place = true)
    (methods : ∀ method : Method, method.under parent = true → method.under place = true) :
    Fits place deeds := by
  induction fits with
  | nil => exact .nil
  | asks belongs ends _ ih => exact .asks (operations _ belongs) ends (ih operations methods)
  | leads belongs leads inside _ _ ih =>
      exact .leads (operations _ belongs) leads inside (ih operations methods)
  | performs belongs inside _ _ ih =>
      exact .performs (methods _ belongs) inside (ih operations methods)

variable (τ) in
abbrev asked (deeds : List Deed) : List Event :=
  eventsOf ([] : Chain (Traced τ)) deeds

theorem asked_append (deeds more : List Deed) :
    asked τ (deeds ++ more) = asked τ deeds ++ asked τ more :=
  eventsOf_append _ deeds more

theorem asked_asks (operation : Operation) (answered : Bool) (rest : List Deed) :
    asked τ (asks operation answered :: rest) = .asked operation answered :: asked τ rest :=
  rfl

theorem asked_performs (method : Method) (inner rest : List Deed) :
    asked τ (performs method inner :: rest) = asked τ inner ++ asked τ rest := by
  simp only [asked, eventsOf, events, Chain.declaring, Chain.declaringFrom, List.reverse_nil,
    List.map_nil, List.nil_append, List.append_nil]

theorem Fits.asked_under {parent : Option Method} {deeds : List Deed} (fits : Fits parent deeds) :
    ∀ event ∈ asked τ deeds, ∃ operation answered place, event = .asked operation answered ∧
      operation.under place = true ∧
      (place = parent ∨ ∃ method, place = some method ∧ method.stage ≠ .executor) := by
  have within {method : Method} {place : Option Method} (inner : method.stage ≠ .executor)
      (found : place = some method ∨ ∃ method, place = some method ∧ method.stage ≠ .executor) :
      ∃ method, place = some method ∧ method.stage ≠ .executor :=
    found.elim (fun same => ⟨method, same, inner⟩) id
  induction fits with
  | nil => rintro event ⟨⟩
  | asks belongs _ _ ih =>
      rw [asked_asks]
      intro event mem
      rcases List.mem_cons.1 mem with rfl | mem
      · exact ⟨_, _, _, rfl, belongs, .inl rfl⟩
      · exact ih event mem
  | leads belongs leads _ _ inside ih =>
      rw [asked_asks, asked_performs]
      intro event mem
      rcases List.mem_cons.1 mem with rfl | mem
      · exact ⟨_, _, _, rfl, belongs, .inl rfl⟩
      · rcases List.mem_append.1 mem with mem | mem
        · obtain ⟨operation, answered, place, same, belongs, found⟩ := inside event mem
          exact ⟨operation, answered, place, same, belongs,
            .inr (within (Operation.stage_of_leadsTo leads) found)⟩
        · exact ih event mem
  | performs belongs _ _ inside ih =>
      rw [asked_performs]
      intro event mem
      rcases List.mem_append.1 mem with mem | mem
      · obtain ⟨operation, answered, place, same, under, found⟩ := inside event mem
        exact ⟨operation, answered, place, same, under,
          .inr (within (Method.stage_of_under belongs) found)⟩
      · exact ih event mem

theorem Fits.without {parent : Option Method} {deeds : List Deed} (fits : Fits parent deeds)
    {kind : Operation → Bool} (outside : ∀ (operation : Operation) place, kind operation = true →
      operation.under place = true →
        place ≠ parent ∧ ∀ method, place = some method → method.stage = .executor) :
    Event.Without kind (asked τ deeds) := by
  intro event mem
  obtain ⟨operation, answered, place, rfl, belongs, found⟩ := fits.asked_under event mem
  rw [← Bool.not_eq_true]
  intro is
  obtain ⟨differs, executor⟩ := outside operation place is belongs
  obtain same | ⟨method, same, inner⟩ := found
  · exact differs same
  · exact inner (executor method same)

def Only (kind : Operation → Bool) (deeds : List Deed) : Prop :=
  ∀ deed ∈ deeds, ∃ operation answered, deed = .asks operation answered ∧ kind operation = true

namespace Only

variable {kind : Operation → Bool} {deeds : List Deed}

theorem mono {wider : Operation → Bool} (only : Only kind deeds)
    (within : ∀ operation, kind operation = true → wider operation = true) : Only wider deeds :=
  fun deed mem => (only deed mem).imp fun operation => .imp fun _ known =>
    ⟨known.1, within operation known.2⟩

theorem fits {parent : Option Method} (only : Only kind deeds)
    (allowed : ∀ operation, kind operation = true →
      operation.under parent = true ∧ operation.leadsTo = none) : Fits parent deeds := by
  induction deeds with
  | nil => exact .nil
  | cons deed rest ih =>
      obtain ⟨⟨operation, answered, rfl, is⟩, others⟩ := List.forall_mem_cons.1 only
      exact .asks (allowed operation is).1 (fun _ => (allowed operation is).2) (ih others)

theorem events (only : Only kind deeds) (chain : Chain (Traced τ)) :
    ∀ event ∈ eventsOf chain deeds, ∃ operation answered,
      event = .asked operation answered ∧ kind operation = true := by
  induction deeds with
  | nil => nofun
  | cons deed rest ih =>
      obtain ⟨⟨operation, answered, rfl, is⟩, others⟩ := List.forall_mem_cons.1 only
      rw [eventsOf, Deed.events]
      refine List.forall_mem_append.2 ⟨fun event mem => ?_, ih others⟩
      exact ⟨operation, answered, List.mem_singleton.1 mem, is⟩

theorem without {other : Operation → Bool} (only : Only kind deeds)
    (apart : ∀ operation, kind operation = true → other operation = false) :
    Event.Without other (asked τ deeds) := by
  intro event mem
  obtain ⟨operation, answered, rfl, is⟩ := only.events [] event mem
  exact apart operation is

end Only

end Deed

structure Composes {S : Type} (told : S → List Deed → S → Prop) : Prop where
  nil : ∀ state, told state [] state
  append : ∀ {first second third deeds more}, told first deeds second → told second more third →
    told first (deeds ++ more) third

/-- Whatever chain watches, the action goes the same way on the state beside the trace, and the trace
grows by the same deeds. `put` is the state with a trace. -/
def Action.Accomplishes {S S' τ α : Type} (put : S → List Event → S')
    (told : S → List Deed → S → Prop) (act : Chain (Traced τ) → Action S' α) : Prop :=
  ∀ state, ∃ result after deeds, told state deeds after ∧
    ∀ chain : Chain (Traced τ),
      (∀ registration ∈ chain, registration.interceptor.ProceedsOnly) →
        ∀ trace, act chain.noted (put state trace) =
          (result, put after (trace ++ Deed.eventsOf chain deeds))

namespace Action.Accomplishes

variable {S S' T T' τ α β : Type} {put : S → List Event → S'} {told : S → List Deed → S → Prop}
  {act : Chain (Traced τ) → Action S' α}

theorem mono {tells : S → List Deed → S → Prop} (accomplishes : Accomplishes put told act)
    (weaker : ∀ {state deeds after}, told state deeds after → tells state deeds after) :
    Accomplishes put tells act := by
  intro state
  obtain ⟨result, after, deeds, known, same⟩ := accomplishes state
  exact ⟨result, after, deeds, weaker known, same⟩

theorem bind (composes : Composes told) {next : Chain (Traced τ) → α → Action S' β}
    (first : Accomplishes put told act)
    (second : ∀ a, Accomplishes put told fun chain => next chain a) :
    Accomplishes put told fun chain => act chain >>= next chain := by
  intro state
  obtain ⟨result, middle, deeds, known, same⟩ := first state
  -- whether the first action fails is known before a chain is chosen, and so are the deeds
  cases result with
  | error e =>
      refine ⟨.error e, middle, deeds, known, fun chain proceeds trace => ?_⟩
      show (act chain.noted >>= next chain.noted) (put state trace) = _
      rw [bind_apply, same chain proceeds]
  | ok a =>
      obtain ⟨result, after, more, knownMore, sameMore⟩ := second a middle
      refine ⟨result, after, deeds ++ more, composes.append known knownMore,
        fun chain proceeds trace => ?_⟩
      show (act chain.noted >>= next chain.noted) (put state trace) = _
      rw [bind_apply, same chain proceeds, Deed.eventsOf_append, ← List.append_assoc]
      exact sameMore chain proceeds _

theorem attempt (accomplishes : Accomplishes put told act) :
    Accomplishes put told fun chain => (act chain).attempt := by
  intro state
  obtain ⟨result, after, deeds, known, same⟩ := accomplishes state
  refine ⟨.ok result, after, deeds, known, fun chain proceeds trace => ?_⟩
  show (act chain.noted).attempt (put state trace) = _
  rw [Action.attempt, same chain proceeds]

theorem quietly (accomplishes : Accomplishes put told act) :
    Accomplishes put told fun chain => (act chain).quietly := by
  intro state
  obtain ⟨result, after, deeds, known, same⟩ := accomplishes state
  refine ⟨.ok (), after, deeds, known, fun chain proceeds trace => ?_⟩
  show (act chain.noted).quietly (put state trace) = _
  rw [Action.quietly, same chain proceeds]

theorem inContext (accomplishes : Accomplishes put told act) (context : String) :
    Accomplishes put told fun chain => (act chain).inContext context := by
  intro state
  obtain ⟨result, after, deeds, known, same⟩ := accomplishes state
  refine ⟨withContext (fun _ => context) result, after, deeds, known,
    fun chain proceeds trace => ?_⟩
  show (act chain.noted).inContext context (put state trace) = _
  rw [Action.inContext, same chain proceeds]

variable (told) in
theorem andThen {tells tellsNext : S → List Deed → S → Prop} {next : Chain (Traced τ) → Action S' β}
    (first : Accomplishes put tells act) (second : Accomplishes put tellsNext next)
    (joins : ∀ {before deeds middle more after}, tells before deeds middle →
      tellsNext middle more after → told before (deeds ++ more) after) :
    Accomplishes put told fun chain => (act chain).quietly >>= fun _ => next chain := by
  intro state
  obtain ⟨_, middle, deeds, known, same⟩ := first state
  obtain ⟨result, after, more, knownNext, sameNext⟩ := second middle
  refine ⟨result, after, deeds ++ more, joins known knownNext, fun chain proceeds trace => ?_⟩
  show ((act chain.noted).quietly >>= fun _ => next chain.noted) (put state trace) = _
  rw [bind_apply, Action.quietly, same chain proceeds, Deed.eventsOf_append, ← List.append_assoc]
  exact sameNext chain proceeds _

theorem idle {act : Action S' α} (bare : Action S α)
    (same : ∀ state trace, act (put state trace) = ((bare state).1, put (bare state).2 trace))
    (unchanged : ∀ state, told state [] (bare state).2) :
    Accomplishes put told fun _ : Chain (Traced τ) => act := by
  intro state
  refine ⟨(bare state).1, (bare state).2, [], unchanged state, fun chain _ trace => ?_⟩
  show act (put state trace) = _
  rw [same, Deed.eventsOf, List.append_nil]

theorem ofResult (composes : Composes told) (result : Except Error α) :
    Accomplishes put told fun _ : Chain (Traced τ) => Action.ofResult result := by
  have same (state : S) (trace : List Event) : Action.ofResult result (put state trace) =
      ((Action.ofResult result state).1, put (Action.ofResult result state).2 trace) := rfl
  exact idle _ same composes.nil

theorem get_bind_of {next : Chain (Traced τ) → S' → Action S' α}
    (tells : S → S → List Deed → S → Prop)
    (same : ∀ chain state trace, next chain (put state trace) = next chain (put state []))
    (rest : ∀ state, Accomplishes put (tells state) fun chain => next chain (put state [])) :
    Accomplishes put (fun state => tells state state) fun chain => get >>= next chain := by
  intro state
  obtain ⟨result, after, deeds, known, goes⟩ := rest state state
  refine ⟨result, after, deeds, known, fun chain proceeds trace => ?_⟩
  show (MonadState.get >>= next chain.noted) (put state trace) = _
  rw [bind_apply, get_apply]
  dsimp only
  rw [same]
  exact goes chain proceeds trace

theorem get_bind {next : Chain (Traced τ) → S' → Action S' α}
    (same : ∀ chain state trace, next chain (put state trace) = next chain (put state []))
    (rest : ∀ state, Accomplishes put told fun chain => next chain (put state [])) :
    Accomplishes put told fun chain => get >>= next chain :=
  get_bind_of (fun _ => told) same rest

theorem answering {next : α → Action S' β} (accomplishes : Accomplishes put told act)
    (answers : ∀ a, ∃ result, next a = Action.ofResult result) :
    Accomplishes put told fun chain => act chain >>= next := by
  intro state
  obtain ⟨result, after, deeds, known, same⟩ := accomplishes state
  cases result with
  | error e =>
      refine ⟨.error e, after, deeds, known, fun chain proceeds trace => ?_⟩
      show (act chain.noted >>= next) (put state trace) = _
      rw [bind_apply, same chain proceeds]
  | ok a =>
      obtain ⟨answer, is⟩ := answers a
      refine ⟨answer, after, deeds, known, fun chain proceeds trace => ?_⟩
      show (act chain.noted >>= next) (put state trace) = _
      rw [bind_apply, same chain proceeds]
      dsimp only
      rw [is]
      rfl

theorem within {place : T → List Event → T'} {tells : T → List Deed → T → Prop}
    {act : Chain (Traced τ) → Action T' α} (accomplishes : Accomplishes place tells act)
    {part' : S' → T'} {set' : S' → T' → S'} (part : S → T) (set : S → T → S)
    (parts : ∀ state trace, part' (put state trace) = place (part state) trace)
    (sets : ∀ state t trace more, set' (put state trace) (place t more) = put (set state t) more)
    (tell : ∀ {state deeds t}, tells (part state) deeds t → told state deeds (set state t)) :
    Accomplishes put told fun chain => Action.within part' set' (act chain) := by
  intro state
  obtain ⟨result, after, deeds, known, same⟩ := accomplishes (part state)
  refine ⟨result, set state after, deeds, tell known, fun chain proceeds trace => ?_⟩
  show Action.within part' set' (act chain.noted) (put state trace) = _
  rw [Action.within, parts, same chain proceeds]
  dsimp only
  rw [sets]

end Action.Accomplishes

theorem Action.accomplishes_ask {τ : Type} (source : DataSource τ) (operation : Operation)
    {told : τ → List Deed → τ → Prop} (tells : ∀ state, told state
      [.asks operation (source.ask operation state).1.isOk] (source.ask operation state).2) :
    Accomplishes Traced.mk told fun _ : Chain (Traced τ) =>
      (Traced.around source).ask operation := by
  intro state
  refine ⟨(source.ask operation state).1, _, _, tells state, fun chain _ trace => ?_⟩
  show (Traced.around source).ask operation ⟨state, trace⟩ = _
  rw [Traced.ask_around]
  rfl

section Methods

variable {τ α : Type}

def Scene.traced (scene : Scene τ) (trace : List Event) : Scene (Traced τ) :=
  ⟨⟨scene.source, trace⟩, scene.shared, scene.executor, scene.parameter⟩

namespace Chain

variable (source : DataSource (Traced τ)) {shape : Shape α} {method : Method} {args : Args}
  {target : Args → Work (Traced τ) α} {before after : Scene τ} {result : Except Error α}
  {events : List Event}

theorem wrap_noted {registration : Registration (Traced τ)} (place : Nat)
    (declares : registration.methods.contains method = true)
    (proceeds : registration.interceptor.ProceedsOnly) (faithful : shape.Faithful)
    (fits : args.fit method = true) (trace : List Event)
    (goes : ∀ trace, target args (before.traced trace) = (result, after.traced (trace ++ events))) :
    wrap source shape method target
        { registration with interceptor := registration.interceptor.noted place } args
        (before.traced trace) =
      (result, after.traced
        (trace ++ (.entered place method :: (events ++ [.left place method])))) := by
  have proceeded : registration.interceptor.intercept method args
      (proceed source shape method target) = shape.wrap <$> target args := by
    rw [proceeds, proceed, if_pos fits]
  unfold wrap
  rw [if_pos declares]
  dsimp only [Interceptor.noted]
  rw [proceeded]
  have reached := goes (trace ++ [.entered place method])
  have noted (event : Event) (scene : Scene τ) (trace : List Event) :
      Work.onSource (modify (Traced.note event)) (scene.traced trace) =
        (.ok (), scene.traced (trace ++ [event])) := rfl
  have mapped : shape.wrap <$> target args = target args >>= fun a => pure (shape.wrap a) := rfl
  have grown : trace ++ [.entered place method] ++ events ++ [.left place method] =
      trace ++ (.entered place method :: (events ++ [.left place method])) := by
    simp only [List.append_assoc, List.cons_append, List.nil_append]
  simp only [mapped, Action.bind_apply, noted, Action.attempt, reached]
  rw [← grown]
  cases result with
  | error e => rfl
  | ok a =>
      dsimp only [Action.pure_apply]
      rw [noted]
      exact congrFun (accept_wrap faithful a) _

theorem around_noted {chain : Chain (Traced τ)}
    (proceeds : ∀ registration ∈ chain, registration.interceptor.ProceedsOnly)
    (faithful : shape.Faithful) (fits : args.fit method = true) (place : Nat)
    (goes : ∀ trace, target args (before.traced trace) = (result, after.traced (trace ++ events)))
    (trace : List Event) :
    around source (chain.notedFrom place) shape method target args (before.traced trace) =
      (result, after.traced (trace ++
        (((chain.declaringFrom method place).reverse.map fun place => .entered place method) ++
          events ++ (chain.declaringFrom method place).map fun place => .left place method))) := by
  -- what the first interceptor wraps is the target of the others
  induction chain generalizing target place events with
  | nil =>
      rw [notedFrom, declaringFrom, List.reverse_nil, List.map_nil, List.map_nil, List.nil_append,
        List.append_nil]
      exact goes trace
  | cons registration rest ih =>
      have others := fun other mem => proceeds other (List.mem_cons_of_mem registration mem)
      rw [notedFrom, around, List.foldl_cons, declaringFrom]
      by_cases declares : registration.methods.contains method = true
      · have wrapped (trace : List Event) := wrap_noted source place declares
          (proceeds registration List.mem_cons_self) faithful fits trace goes
        rw [if_pos declares]
        refine (ih others (place + 1) wrapped).trans ?_
        simp only [List.reverse_cons, List.map_append, List.map_cons, List.map_nil,
          List.append_assoc, List.cons_append, List.nil_append]
      · have unwrapped : wrap source shape method target
            { registration with interceptor := registration.interceptor.noted place } = target :=
          if_neg declares
        rw [if_neg declares, unwrapped]
        exact ih others (place + 1) goes

end Chain

theorem Action.Accomplishes.performs {pipeline : Pipeline (Traced τ)}
    {told : Scene τ → List Deed → Scene τ → Prop} {shape : Shape α} {method : Method} {args : Args}
    {target : Chain (Traced τ) → Args → Work (Traced τ) α} (faithful : shape.Faithful)
    (fits : args.fit method = true)
    (inside : Accomplishes Scene.traced told fun chain => target chain args) :
    Accomplishes Scene.traced
      (fun before deeds after => ∃ inner, deeds = [.performs method inner] ∧
        told before inner after)
      fun chain => (pipeline.under chain).call shape method args (target chain) := by
  intro before
  obtain ⟨result, after, inner, known, same⟩ := inside before
  refine ⟨result, after, _, ⟨inner, rfl, known⟩, fun chain proceeds trace => ?_⟩
  -- one chain stands around the methods of every stage
  have reached : (pipeline.under chain.noted).chain method.stage = chain.noted := by
    unfold Pipeline.chain
    split
    · exact List.append_nil _
    · rfl
  show (pipeline.under chain.noted).call shape method args (target chain.noted) _ = _
  rw [Pipeline.call, reached]
  refine (Chain.around_noted _ proceeds faithful fits 0 (same chain proceeds) trace).trans ?_
  rw [Deed.eventsOf, Deed.eventsOf, Deed.events, List.append_nil]
  rfl

end Methods

end MappedSql
