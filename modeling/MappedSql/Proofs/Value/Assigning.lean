import MappedSql.Action
import MappedSql.Execution.Handler
import MappedSql.Proofs.Fields
import MappedSql.Proofs.Number.Numerals
import MappedSql.Proofs.Outcome
import MappedSql.Statement.Keys
import MappedSql.Value.Path

/-!
# Assignment along a path

Assignment along a path puts a value where reading the path finds it, and leaves what other paths
lead to (`Value.setPath_lens`). An index and the field of its numeral count as one step there, since
an index reads that field of a map or a record. `Value.Assigns` says what an assignment does to the
values on its way, and `Value.writePath` assigns in place.

Assignment itself sets items of lists alone by an index. So what a path reads may be assigned there
exactly if each of its indexes is read from a list (`Value.exists_setPath_iff`), and a generated key
or an output that is sent to another place is refused.
-/

namespace MappedSql

def Step.name : Step → String
  | field name => name
  | index position => toString position

theorem Step.name_index_inj {i j : Nat} (same : (index i).name = (index j).name) : i = j := by
  have digits : Nat.toDigits 10 i = Nat.toDigits 10 j := String.ofList_injective same
  have read := congrArg Number.readDigits? digits
  rw [Number.readDigits?_toDigits, Number.readDigits?_toDigits] at read
  exact Option.some.inj read

/-! ## Values in order -/

namespace Value

variable {target child new old after : Value} {step other : Step} {fields : Fields Value}

theorem child?_of_fields? (own : target.fields? = some fields) (step : Step) :
    target.child? step = Fields.get? fields step.name := by
  cases target with
  | map _ | record _ _ =>
      obtain rfl := Option.some.inj own
      cases step <;> rfl
  | _ => cases own

theorem fields?_withFields (own : target.fields? = some fields) (others : Fields Value) :
    (target.withFields others).fields? = some others := by
  cases target with
  | map _ | record _ _ => rfl
  | _ => cases own

theorem withFields_withFields (target : Value) (fields others : Fields Value) :
    (target.withFields fields).withFields others = target.withFields others := by
  cases target <;> rfl

theorem withFields_self (own : target.fields? = some fields) :
    target.withFields fields = target := by
  cases target with
  | map _ | record _ _ =>
      obtain rfl := Option.some.inj own
      rfl
  | _ => cases own

/-- The fields of all maps and records in a value are in the order of their names. -/
inductive Ordered : Value → Prop
  | scalar {value : Value} (scalar : value.isComposite = false) : Ordered value
  | list {items : List Value} (all : ∀ item ∈ items, Ordered item) : Ordered (list items)
  | named {value : Value} {fields : Fields Value} (own : value.fields? = some fields)
      (sorted : Fields.Sorted fields) (all : ∀ entry ∈ fields, Ordered entry.2) : Ordered value

theorem Ordered.of_fields? (ordered : target.Ordered) (own : target.fields? = some fields) :
    Fields.Sorted fields ∧ ∀ entry ∈ fields, Ordered entry.2 := by
  cases ordered with
  | scalar scalar =>
      cases target with
      | map _ | record _ _ => cases scalar
      | _ => cases own
  | list _ => cases own
  | named same sorted all =>
      obtain rfl := Option.some.inj (own.symm.trans same)
      exact ⟨sorted, all⟩

theorem Ordered.child? (ordered : target.Ordered) (held : target.child? step = some child) :
    child.Ordered := by
  cases ordered with
  | scalar scalar =>
      cases target with
      | list _ | map _ | record _ _ => cases scalar
      | _ => cases held
  | list all =>
      cases step with
      | field name => cases held
      | index position => exact all child (List.mem_of_getElem? held)
  | named own _ all =>
      rw [child?_of_fields? own] at held
      exact all _ (Fields.mem_of_get? held)

/-! ## One step -/

/-- What it is to put a value where a step leads: an item of a list is replaced, a field of a map or
a record is set. -/
inductive Puts (new : Value) : Value → Step → Value → Prop
  | item {items : List Value} {position : Nat} (within : position < items.length) :
      Puts new (list items) (.index position) (list (items.set position new))
  | field {target : Value} {fields : Fields Value} {name : String}
      (own : target.fields? = some fields) :
      Puts new target (.field name) (target.withFields (Fields.insert fields name new))

theorem Puts.child? (puts : Puts new target step after) : after.child? step = some new := by
  cases puts with
  | item within => simp [Value.child?, within]
  | field own =>
      rw [child?_of_fields? (fields?_withFields own _)]
      exact Fields.get?_insert_self _ _ _

theorem Puts.child?_of_ne (puts : Puts new target step after) (apart : step.name ≠ other.name) :
    after.child? other = target.child? other := by
  cases puts with
  | item within =>
      cases other with
      | field name => rfl
      | index own => exact List.getElem?_set_ne fun same => apart (by rw [same])
  | field own =>
      rw [child?_of_fields? own, child?_of_fields? (fields?_withFields own _)]
      exact Fields.get?_insert_of_ne _ _ apart

theorem Puts.child?_of_eq (puts : Puts new target step after)
    (held : target.child? step = some child) (same : step.name = other.name) :
    (target.child? other = some child ∧ after.child? other = some new) ∨
      (target.child? other = none ∧ after.child? other = none) := by
  have put := puts.child?
  cases puts with
  | item within =>
      cases other with
      | field name => exact .inr ⟨rfl, rfl⟩
      | index own =>
          obtain rfl := Step.name_index_inj same
          exact .inl ⟨held, put⟩
  | field own =>
      rw [child?_of_fields? own, same] at held
      rw [child?_of_fields? (fields?_withFields own _), same] at put
      rw [child?_of_fields? own, child?_of_fields? (fields?_withFields own _)]
      exact .inl ⟨held, put⟩

theorem Puts.again (puts : Puts old target step after) (new : Value) :
    ∃ last, Puts new target step last ∧ Puts new after step last := by
  cases puts with
  | @item items position within =>
      have again : Puts new (list (items.set position old)) (.index position)
          (list ((items.set position old).set position new)) := .item (by rwa [List.length_set])
      rw [List.set_set] at again
      exact ⟨_, .item within, again⟩
  | @field _ fields name own =>
      have again : Puts new (target.withFields (fields.insert name old)) (.field name) _ :=
        .field (fields?_withFields own (fields.insert name old))
      rw [Fields.insert_insert, withFields_withFields] at again
      exact ⟨_, .field own, again⟩

theorem Puts.eq_self (puts : Puts new target step after) (ordered : target.Ordered)
    (held : target.child? step = some new) : after = target := by
  cases puts with
  | item within =>
      obtain ⟨_, rfl⟩ := List.getElem?_eq_some_iff.1 held
      rw [List.set_getElem_self]
  | @field _ fields name own =>
      have present : Fields.get? fields name = some new := (child?_of_fields? own _).symm.trans held
      rw [(ordered.of_fields? own).1.insert_of_get? present, withFields_self own]

theorem Puts.ordered (puts : Puts new target step after) (before : target.Ordered)
    (put : new.Ordered) : after.Ordered := by
  cases puts with
  | item within =>
      cases before with
      | scalar scalar => cases scalar
      | named own => cases own
      | list all =>
          refine .list fun item mem => ?_
          rcases List.mem_or_eq_of_mem_set mem with mem | rfl
          · exact all item mem
          · exact put
  | field own =>
      obtain ⟨sorted, all⟩ := before.of_fields? own
      refine .named (fields?_withFields own _) (sorted.insert _ _) fun entry mem => ?_
      rcases Fields.eq_or_mem_of_mem_insert mem with rfl | mem
      · exact put
      · exact all entry mem

/-! ## Along a path -/

inductive Assigns (new : Value) : List Step → Value → Value → Prop
  | last {target after : Value} {step : Step} (puts : Puts new target step after) :
      Assigns new [step] target after
  | through {target child changed after : Value} {step : Step} {steps : List Step}
      (held : target.child? step = some child) (assigned : Assigns new steps child changed)
      (puts : Puts changed target step after) : Assigns new (step :: steps) target after

variable {steps others : List Step} {path : String}

theorem Assigns.descendant? (assigned : Assigns new steps target after) :
    after.descendant? steps = some new := by
  induction assigned with
  | last puts => rw [Value.descendant?, puts.child?]; rfl
  | through _ _ puts ih => rw [Value.descendant?, puts.child?]; exact ih

theorem Assigns.again (assigned : Assigns old steps target after) (new : Value) :
    ∃ last, Assigns new steps target last ∧ Assigns new steps after last := by
  induction assigned with
  | last puts =>
      obtain ⟨last, first, second⟩ := puts.again new
      exact ⟨last, .last first, .last second⟩
  | through held _ puts ih =>
      obtain ⟨changed, first, second⟩ := ih
      obtain ⟨last, put, again⟩ := puts.again changed
      exact ⟨last, .through held first put, .through puts.child? second again⟩

theorem Assigns.eq_self (assigned : Assigns new steps target after) (ordered : target.Ordered)
    (held : target.descendant? steps = some new) : after = target := by
  induction assigned with
  | last puts =>
      obtain ⟨child, found, same⟩ := Option.bind_eq_some_iff.1 held
      obtain rfl := Option.some.inj same
      exact puts.eq_self ordered found
  | through found _ puts ih =>
      rw [Value.descendant?, found] at held
      obtain rfl := ih (ordered.child? found) held
      exact puts.eq_self ordered found

theorem Assigns.ordered (assigned : Assigns new steps target after) (before : target.Ordered)
    (put : new.Ordered) : after.Ordered := by
  induction assigned with
  | last puts => exact puts.ordered before put
  | through held _ puts ih => exact puts.ordered before (ih (before.child? held))

theorem Assigns.descendant?_of_apart (assigned : Assigns new steps target after)
    (unbegun : ¬steps.map Step.name <+: others.map Step.name)
    (unended : ¬others.map Step.name <+: steps.map Step.name) :
    after.descendant? others = target.descendant? others := by
  induction assigned generalizing others with
  | @last _ _ step puts =>
      cases others with
      | nil => exact absurd List.nil_prefix unended
      | cons other others =>
          have differs : step.name ≠ other.name := fun same => unbegun (by simp [same])
          rw [Value.descendant?, Value.descendant?, puts.child?_of_ne differs]
  | @through _ _ _ _ step _ held _ puts ih =>
      cases others with
      | nil => exact absurd List.nil_prefix unended
      | cons other others =>
          rw [Value.descendant?, Value.descendant?]
          -- under one name the paths go down to the same child, and part somewhere below it
          by_cases same : step.name = other.name
          · rw [List.map_cons, List.map_cons, same, List.prefix_cons_inj] at unbegun unended
            rcases puts.child?_of_eq held same with ⟨before, behind⟩ | ⟨before, behind⟩
            · rw [before, behind]
              exact ih unbegun unended
            · rw [before, behind]
          · rw [puts.child?_of_ne same]

/-! ## The walk -/

theorem assignLast_eq_ok :
    target.assignLast path step new = .ok after ↔ Puts new target step after := by
  constructor
  · intro went
    unfold assignLast at went
    dsimp only at went
    split at went
    · split at went
      · next within =>
          obtain rfl := Except.ok.inj went
          exact .item within
      · cases went
    · obtain rfl := Except.ok.inj went
      exact .field rfl
    · obtain rfl := Except.ok.inj went
      exact .field rfl
    · cases went
  · intro puts
    cases puts with
    | item within => exact if_pos within
    | field own =>
        cases target with
        | map _ | record _ _ =>
            obtain rfl := Option.some.inj own
            rfl
        | _ => cases own

theorem Puts.of_passage? (passed : target.passage? step = some child) (new : Value) :
    target.child? step = some child ∧ Puts new target step (target.replaceChild step new) := by
  unfold passage? at passed
  split at passed
  · obtain ⟨within, -⟩ := List.getElem?_eq_some_iff.1 passed
    exact ⟨passed, .item within⟩
  · exact ⟨passed, .field rfl⟩
  · exact ⟨passed, .field rfl⟩
  · cases passed

theorem Puts.passage? (puts : Puts new target step after) :
    target.passage? step = target.child? step ∧ target.replaceChild step new = after := by
  cases puts with
  | item within => exact ⟨rfl, rfl⟩
  | field own =>
      cases target with
      | map _ | record _ _ =>
          obtain rfl := Option.some.inj own
          exact ⟨rfl, rfl⟩
      | _ => cases own

theorem assign_eq_ok :
    target.assign path new steps = .ok after ↔ Assigns new steps target after := by
  induction steps generalizing target after with
  | nil => exact ⟨nofun, nofun⟩
  | cons step rest ih =>
      cases rest with
      | nil =>
          rw [assign, assignLast_eq_ok]
          refine ⟨.last, fun assigned => ?_⟩
          cases assigned with
          | last puts => exact puts
          | through _ assigned _ => cases assigned
      | cons next rest =>
          rw [assign]
          constructor
          · intro went
            cases passed : target.passage? step with
            | none =>
                rw [passed] at went
                cases went
            | some child =>
                simp only [passed] at went
                obtain ⟨changed, assigned, same⟩ := bind_eq_ok.1 went
                obtain rfl := Except.ok.inj same
                obtain ⟨held, puts⟩ := Puts.of_passage? passed changed
                exact .through held (ih.1 assigned) puts
          · intro assigned
            cases assigned with
            | through held assigned puts =>
                obtain ⟨passed, rfl⟩ := puts.passage?
                simp only [passed, held, ih.2 assigned]
                rfl

/-! ## In place -/

/-- Runs an action on the child that an assignment passes through, and puts back what it leaves,
also after a failure. -/
def onChild (path : String) (step : Step) (act : Action Value Unit) : Action Value Unit :=
  fun target =>
    match target.passage? step with
    | some child => Action.within (fun _ => child) (·.replaceChild step) act target
    | none => (failWith (.execution s!"no property `{path}` to assign"), target)

def write (path : String) (new : Value) : List Step → Action Value Unit
  | [] => Action.ofResult (failWith (.execution "cannot assign to an empty property path"))
  | [step] => do set (← (← get).assignLast path step new)
  | step :: next :: steps => onChild path step (write path new (next :: steps))

def writePath (path : String) (new : Value) : Action Value Unit := do
  write path new (← Path.parse path)

theorem write_apply (ordered : target.Ordered) : write path new steps target =
    match target.assign path new steps with
    | .ok after => (.ok (), after)
    | .error e => (.error e, target) := by
  induction steps generalizing target with
  | nil => rfl
  | cons step rest ih =>
      cases rest with
      | nil =>
          rw [assign, write]
          simp only [Action.bind_apply, Action.get_apply]
          cases target.assignLast path step new with
          | ok after => rfl
          | error e => rfl
      | cons next rest =>
          rw [assign, write, onChild]
          cases passed : target.passage? step with
          | none => rfl
          | some child =>
              obtain ⟨held, puts⟩ := Puts.of_passage? passed child
              have inner := ih (ordered.child? held)
              -- a child that is put back unchanged leaves fields in order as they are
              simp only [Action.within, inner]
              cases child.assign path new (next :: rest) with
              | ok changed => rfl
              | error e => exact congrArg (Prod.mk _) (puts.eq_self ordered held)

theorem writePath_apply (ordered : target.Ordered) : writePath path new target =
    match target.setPath path new with
    | .ok after => (.ok (), after)
    | .error e => (.error e, target) := by
  rw [writePath, setPath, Action.bind_apply]
  cases Path.parse path with
  | error e => rfl
  | ok steps => exact write_apply ordered

theorem setPath_eq_ok : target.setPath path new = .ok after ↔
    ∃ steps, Path.parse path = .ok steps ∧ Assigns new steps target after := by
  simp only [setPath, bind_eq_ok, assign_eq_ok]

theorem getPath?_of_parse (parsed : Path.parse path = .ok steps) :
    target.getPath? path = target.descendant? steps := by
  rw [getPath?, parsed]

/-- What an assignment to a path stores is read there, and another assignment to the path overwrites
it; a path that parts from the first one reads what it read before; assigning what is there already
changes nothing. In place, a failure leaves the value as it was. -/
theorem setPath_lens (ordered : target.Ordered) (path : String) (new : Value) :
    (∀ after, target.setPath path new = .ok after →
      after.getPath? path = some new ∧
      (∀ last, after.setPath path last = target.setPath path last) ∧
      (∀ other steps others, Path.parse path = .ok steps → Path.parse other = .ok others →
        ¬steps.map Step.name <+: others.map Step.name →
        ¬others.map Step.name <+: steps.map Step.name →
          after.getPath? other = target.getPath? other) ∧
      (new.Ordered → after.Ordered) ∧
      (target.getPath? path = some new → after = target)) ∧
    writePath path new target =
      match target.setPath path new with
      | .ok after => (.ok (), after)
      | .error e => (.error e, target) := by
  refine ⟨fun after went => ?_, writePath_apply ordered⟩
  obtain ⟨steps, parsed, assigned⟩ := setPath_eq_ok.1 went
  refine ⟨?_, fun last => ?_, fun other own others same read unbegun unended => ?_,
    assigned.ordered ordered, fun held => ?_⟩
  · rw [getPath?_of_parse parsed, assigned.descendant?]
  · obtain ⟨result, first, second⟩ := assigned.again last
    rw [setPath_eq_ok.2 ⟨steps, parsed, first⟩, setPath_eq_ok.2 ⟨steps, parsed, second⟩]
  · obtain rfl := Except.ok.inj (parsed.symm.trans same)
    rw [getPath?_of_parse read, getPath?_of_parse read,
      assigned.descendant?_of_apart unbegun unended]
  · rw [getPath?_of_parse parsed] at held
    exact assigned.eq_self ordered held

def crew : Value :=
  list [record "member" [("0", .text "zero"), ("id", .int 1)], null]

theorem ordered_crew : crew.Ordered := by
  have member : (record "member" [("0", .text "zero"), ("id", .int 1)]).Ordered := by
    refine .named rfl (List.pairwise_pair.2 (by decide)) ?_
    exact List.forall_mem_cons.2 ⟨.scalar rfl, List.forall_mem_singleton.2 (.scalar rfl)⟩
  exact .list (List.forall_mem_cons.2 ⟨member, List.forall_mem_singleton.2 (.scalar rfl)⟩)

theorem setPath_lens_crew :
    crew.Ordered ∧ ∃ after, crew.setPath "[0].id" (.int 7) = .ok after ∧
      after.getPath? "[0].id" = some (.int 7) ∧
      after.getPath? "[0][0]" = crew.getPath? "[0][0]" := by
  have went : crew.setPath "[0].id" (.int 7) =
      .ok (list [record "member" [("0", .text "zero"), ("id", .int 7)], null]) := by rfl
  obtain ⟨read, -, apart, -⟩ := (setPath_lens ordered_crew _ _).1 _ went
  have other := apart "[0][0]" [.index 0, .field "id"] [.index 0, .index 0] (by rfl) (by rfl)
    (by decide) (by decide)
  exact ⟨ordered_crew, _, went, read, other⟩

/-! ## Indexes of lists -/

def IndexesLists (value : Value) (steps : List Step) : Prop :=
  ∀ before position after, steps = before ++ .index position :: after →
    ∃ items, value.descendant? before = some (list items)

theorem exists_puts_iff (held : target.child? step = some child) (new : Value) :
    (∃ after, Puts new target step after) ↔
      ∀ position, step = .index position → ∃ items, target = list items := by
  constructor
  · rintro ⟨after, puts⟩ position rfl
    cases puts with
    | item within => exact ⟨_, rfl⟩
  · intro listed
    cases step with
    | index position =>
        obtain ⟨items, rfl⟩ := listed position rfl
        obtain ⟨within, -⟩ := List.getElem?_eq_some_iff.1 held
        exact ⟨_, .item within⟩
    | field name =>
        cases target with
        | map _ | record _ _ => exact ⟨_, .field rfl⟩
        | _ => cases held

theorem indexesLists_nil (target : Value) : target.IndexesLists [] := by
  intro before position after same
  cases before <;> cases same

theorem indexesLists_cons (held : target.child? step = some child) :
    target.IndexesLists (step :: steps) ↔
      (∀ position, step = .index position → ∃ items, target = list items) ∧
        child.IndexesLists steps := by
  have down (before : List Step) : target.descendant? (step :: before) = child.descendant? before := by
    rw [Value.descendant?, held]
    rfl
  constructor
  · refine fun lists => ⟨fun position same => ?_, fun before position after same => ?_⟩
    · obtain ⟨items, listed⟩ := lists [] position steps (by rw [same]; rfl)
      exact ⟨items, Option.some.inj listed⟩
    · rw [← down]
      exact lists (step :: before) position after (by rw [same]; rfl)
  · rintro ⟨first, later⟩ before position after same
    cases before with
    | nil =>
        obtain ⟨rfl, rfl⟩ := List.cons.inj same
        obtain ⟨items, rfl⟩ := first position rfl
        exact ⟨items, rfl⟩
    | cons own before =>
        obtain ⟨rfl, rfl⟩ := List.cons.inj same
        rw [down]
        exact later before position after rfl

theorem Assigns.ne_nil (assigned : Assigns new steps target after) : steps ≠ [] := by
  cases assigned <;> exact List.cons_ne_nil _ _

theorem exists_assigns_iff (nonempty : steps ≠ []) (held : target.descendant? steps = some child)
    (new : Value) : (∃ after, Assigns new steps target after) ↔ target.IndexesLists steps := by
  induction steps generalizing target with
  | nil => exact absurd rfl nonempty
  | cons step rest ih =>
      obtain ⟨next, found, below⟩ := Option.bind_eq_some_iff.1 held
      rw [indexesLists_cons found]
      constructor
      · rintro ⟨after, assigned⟩
        cases assigned with
        | last puts => exact ⟨(exists_puts_iff found new).1 ⟨_, puts⟩, indexesLists_nil next⟩
        | through same assigned puts =>
            obtain rfl := Option.some.inj (found.symm.trans same)
            exact ⟨(exists_puts_iff found _).1 ⟨_, puts⟩,
              (ih assigned.ne_nil below).1 ⟨_, assigned⟩⟩
      · rintro ⟨first, later⟩
        -- only behind the last step is there nothing left to assign
        by_cases last : rest = []
        · subst last
          obtain ⟨after, puts⟩ := (exists_puts_iff found new).2 first
          exact ⟨after, .last puts⟩
        · obtain ⟨changed, assigned⟩ := (ih last below).2 later
          obtain ⟨after, puts⟩ := (exists_puts_iff found changed).2 first
          exact ⟨after, .through found assigned puts⟩

theorem assign_cons (nonempty : steps ≠ []) : target.assign path new (step :: steps) =
    match target.passage? step with
    | some child => do return target.replaceChild step (← child.assign path new steps)
    | none => failWith (.execution s!"no property `{path}` to assign") := by
  cases steps with
  | nil => exact absurd rfl nonempty
  | cons next rest => rfl

theorem assign_of_not_list {before behind : List Step} {position : Nat} {node : Value}
    (lists : target.IndexesLists before) (reached : target.descendant? before = some node)
    (unlisted : node.list? = none) :
    target.assign path new (before ++ .index position :: behind) = failWith (.execution
      (if behind = [] then s!"cannot assign `{path}` on a {node.kind.name} value"
        else s!"no property `{path}` to assign")) := by
  induction before generalizing target with
  | nil =>
      obtain rfl := Option.some.inj reached
      cases behind with
      | nil => cases target <;> first | rfl | cases unlisted
      | cons next behind => cases target <;> first | rfl | cases unlisted
  | cons own before ih =>
      obtain ⟨child, found, below⟩ := Option.bind_eq_some_iff.1 reached
      obtain ⟨first, later⟩ := (indexesLists_cons found).1 lists
      obtain ⟨after, puts⟩ := (exists_puts_iff found child).2 first
      have passed := puts.passage?.1.trans found
      rw [List.cons_append, assign_cons (by simp), passed]
      exact congrArg (· >>= fun changed => pure (target.replaceChild own changed)) (ih later below)

/-! ## Keys and outputs -/

theorem assignKeys_of_fields? (own : target.fields? = some fields) (keys : List Value) :
    KeyGenerator.assignKeys ⟨some path⟩ target (keys ++ [new]) =
      match target.setPath path new with
      | .ok after => (after, .ok ())
      | .error e => (target, .error e) := by
  have last : (keys ++ [new]).getLast? = some new := List.getLast?_concat
  cases target with
  | map entries =>
      cases went : (map entries).setPath path new <;> simp [KeyGenerator.assignKeys, last, went]
  | record name entries =>
      cases went : (record name entries).setPath path new <;>
        simp [KeyGenerator.assignKeys, last, went]
  | _ => cases own

theorem readFrom_output {σ : Type} {pipeline : Pipeline σ} {statement : StatementId} {position : Nat}
    {mapping : ParameterMapping} (output : mapping.direction.isOutput = true)
    {scene : Scene σ} {value : Value}
    (answered : (pipeline.source.output statement position scene.source).1 = .ok value) :
    ∃ source, Handler.readFrom pipeline statement position [mapping] scene =
      match scene.parameter.setPath mapping.property value with
      | .ok after => (.ok (), { scene with source := source, parameter := after })
      | .error e => (.error e, { scene with source := source }) := by
  generalize asked : pipeline.source.output statement position scene.source = pair at answered
  obtain ⟨result, source⟩ := pair
  obtain rfl : result = .ok value := answered
  refine ⟨source, ?_⟩
  have read : Work.onSource (pipeline.source.output statement position) scene =
      (.ok value, { scene with source := source }) := by
    rw [Work.onSource, Action.within, asked]
  rw [Handler.readFrom, if_pos output]
  simp only [Action.bind_apply, read, Work.parameter, Action.read]
  cases scene.parameter.setPath mapping.property value with
  | ok after => rfl
  | error e => rfl

theorem exists_fields_of_descendant? (nonempty : steps ≠ []) (unlisted : target.list? = none)
    (held : target.descendant? steps = some child) : ∃ fields, target.fields? = some fields := by
  cases steps with
  | nil => exact absurd rfl nonempty
  | cons step rest =>
      obtain ⟨next, found, -⟩ := Option.bind_eq_some_iff.1 held
      cases target with
      | map _ | record _ _ => exact ⟨_, rfl⟩
      | list _ => cases unlisted
      | _ => cases found

theorem Path.ne_nil_of_parse (parsed : Path.parse path = .ok steps) : steps ≠ [] := by
  rintro rfl
  unfold Path.parse at parsed
  split at parsed <;> cases parsed

/-- Where a path reads something, another value can be stored, be it assigned, a generated key or an
output, exactly if every index of the path is read from a list. Otherwise the first index that is not
gives the failure. -/
theorem exists_setPath_iff {held : Value} (read : target.getPath? path = some held) (new : Value) :
    ∃ steps, Path.parse path = .ok steps ∧
      ((∃ after, target.setPath path new = .ok after) ↔ target.IndexesLists steps) ∧
      (∀ before position behind node, steps = before ++ .index position :: behind →
        target.IndexesLists before → target.descendant? before = some node → node.list? = none →
          target.setPath path new = failWith (.execution
            (if behind = [] then s!"cannot assign `{path}` on a {node.kind.name} value"
              else s!"no property `{path}` to assign"))) ∧
      (target.list? = none → ∀ keys : List Value,
        (KeyGenerator.assignKeys ⟨some path⟩ target (keys ++ [new])).2 = .ok () ↔
          target.IndexesLists steps) ∧
      ∀ {σ : Type} (pipeline : Pipeline σ) (statement : StatementId) (position : Nat)
        (mapping : ParameterMapping) (scene : Scene σ), mapping.property = path →
        mapping.direction.isOutput = true → scene.parameter = target →
        (pipeline.source.output statement position scene.source).1 = .ok new →
          ((Handler.readFrom pipeline statement position [mapping] scene).1 = .ok () ↔
            target.IndexesLists steps) := by
  obtain ⟨steps, parsed⟩ : ∃ steps, Path.parse path = .ok steps := by
    cases parsed : Path.parse path with
    | ok steps => exact ⟨steps, rfl⟩
    | error e =>
        rw [getPath?, parsed] at read
        cases read
  rw [getPath?_of_parse parsed] at read
  have nonempty := Path.ne_nil_of_parse parsed
  -- the keys and outputs are stored by the same assignment, so one condition serves all three
  have stores : (∃ after, target.setPath path new = .ok after) ↔ target.IndexesLists steps := by
    rw [← exists_assigns_iff nonempty read new]
    refine exists_congr fun after => setPath_eq_ok.trans
      ⟨?_, fun assigned => ⟨steps, parsed, assigned⟩⟩
    rintro ⟨own, parsed', assigned⟩
    obtain rfl := Except.ok.inj (parsed.symm.trans parsed')
    exact assigned
  refine ⟨steps, parsed, stores, ?_, fun unlisted keys => ?_, ?_⟩
  · rintro before position behind node rfl lists reached unlisted
    rw [setPath, parsed]
    exact assign_of_not_list lists reached unlisted
  · obtain ⟨fields, own⟩ := exists_fields_of_descendant? nonempty unlisted read
    rw [assignKeys_of_fields? own, ← stores]
    cases target.setPath path new <;> simp
  · rintro σ pipeline statement position mapping scene rfl output rfl answered
    obtain ⟨source, went⟩ := readFrom_output output answered
    rw [went, ← stores]
    cases scene.parameter.setPath mapping.property new <;> simp

theorem exists_setPath_iff_crew : crew.getPath? "[0].id" = some (.int 1) ∧
    ∃ after, crew.setPath "[0].id" .null = .ok after := by
  have read : crew.getPath? "[0].id" = some (.int 1) := by rfl
  obtain ⟨steps, parsed, stores, -⟩ := exists_setPath_iff read .null
  obtain rfl : [.index 0, .field "id"] = steps := Except.ok.inj parsed
  have lists : crew.IndexesLists [.index 0, .field "id"] :=
    (indexesLists_cons rfl).2 ⟨fun _ _ => ⟨_, rfl⟩,
      (indexesLists_cons rfl).2 ⟨nofun, indexesLists_nil _⟩⟩
  exact ⟨read, stores.2 lists⟩

/-- A field with the numeral of an index for a name is read by that index, and not written by it. -/
theorem exists_getPath?_not_setPath : ∃ (target held new : Value) (path : String),
    target.getPath? path = some held ∧ ∀ after, target.setPath path new ≠ .ok after := by
  refine ⟨map [("0", .int 7)], .int 7, .int 8, "[0]", by rfl, fun after went => ?_⟩
  have refused : (map [("0", .int 7)]).setPath "[0]" (.int 8) =
      failWith (.execution "cannot assign `[0]` on a map value") := by rfl
  rw [refused] at went
  cases went

end Value

end MappedSql
