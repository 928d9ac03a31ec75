import MappedSql.Proofs.Fields
import MappedSql.Proofs.Template.Evaluation
import MappedSql.Proofs.Template.Rendering

/-!
# What rendering leaves behind

However rendering ends, the SQL so far stays in front of what is written, and names have the values
that they had before. Only the names that a template binds itself and those made for the rounds of its
loops are there afterwards (`Node.render_scoped`).
-/

namespace MappedSql

/-! ## Names that a template binds -/

/-- A name that is bound by a node of its own, or as the item or the index of a loop. -/
inductive Binder
  | bind (name : String)
  | loop (name : String)

namespace Node

mutual

def binders : Node → List Binder
  | static _ | text _ _ => []
  | bind name _ => [.bind name]
  | mixed children => bindersOfAll children
  | cond _ contents | trim _ contents => binders contents
  | forEach loop contents => loop.names.map .loop ++ binders contents
  | choose branches otherwise => bindersOfBranches branches ++ bindersOfOtherwise otherwise

def bindersOfAll : List Node → List Binder
  | [] => []
  | node :: rest => binders node ++ bindersOfAll rest

def bindersOfBranches : List (String × Node) → List Binder
  | [] => []
  | (_, contents) :: rest => binders contents ++ bindersOfBranches rest

def bindersOfOtherwise : Option Node → List Binder
  | none => []
  | some contents => binders contents

end

end Node

/-! ## Contexts before and after -/

namespace Context

open Loop (roundName)

structure Keeps (binders : List Binder) (before after : Context) : Prop where
  sorted : Fields.Sorted after.bindings
  wrote : ∃ fragment, after.sql = before.sql ++ fragment
  grows : before.unique ≤ after.unique
  changes : ∀ name, .bind name ∉ binders →
    Fields.get? after.bindings name ≠ Fields.get? before.bindings name →
    ∃ own unique, .loop own ∈ binders ∧ name = roundName own unique ∧
      before.unique ≤ unique ∧ unique < after.unique

namespace Keeps

variable {binders others : List Binder} {before middle after : Context}

theorem trans (first : Keeps binders before middle) (second : Keeps binders middle after) :
    Keeps binders before after where
  sorted := second.sorted
  wrote := by
    obtain ⟨left, wroteLeft⟩ := first.wrote
    obtain ⟨right, wroteRight⟩ := second.wrote
    exact ⟨left ++ right, by rw [wroteRight, wroteLeft, String.append_assoc]⟩
  grows := first.grows.trans second.grows
  changes := by
    intro name free changed
    have between := first.grows
    have later := second.grows
    by_cases same : Fields.get? after.bindings name = Fields.get? middle.bindings name
    · obtain ⟨own, unique, looped, named, low, high⟩ := first.changes name free (same ▸ changed)
      exact ⟨own, unique, looped, named, low, by omega⟩
    · obtain ⟨own, unique, looped, named, low, high⟩ := second.changes name free same
      exact ⟨own, unique, looped, named, by omega, high⟩

theorem mono (keeps : Keeps binders before after) (among : binders ⊆ others) :
    Keeps others before after where
  sorted := keeps.sorted
  wrote := keeps.wrote
  grows := keeps.grows
  changes := by
    intro name free changed
    obtain ⟨own, unique, looped, rest⟩ := keeps.changes name (fun mem => free (among mem)) changed
    exact ⟨own, unique, among looped, rest⟩

theorem withSql (keeps : Keeps binders before after) (sql sql' : String)
    (wrote : ∃ fragment, sql' = sql ++ fragment) :
    Keeps binders { before with sql := sql } { after with sql := sql' } :=
  ⟨keeps.sorted, wrote, keeps.grows, keeps.changes⟩

end Keeps

section

variable {binders : List Binder} {context : Context} (sorted : Fields.Sorted context.bindings)
include sorted

theorem keeps_append (fragment : String) : context.Keeps binders (context.append fragment) where
  sorted := sorted
  wrote := ⟨fragment, rfl⟩
  grows := Nat.le_refl _
  changes := fun _ _ changed => absurd rfl changed

theorem keeps_counted (more : Nat) :
    context.Keeps binders { context with unique := context.unique + more } where
  sorted := sorted
  wrote := ⟨"", by simp⟩
  grows := Nat.le_add_right _ _
  changes := fun _ _ changed => absurd rfl changed

theorem keeps_refl : context.Keeps binders context :=
  keeps_counted sorted 0

theorem keeps_bind {name : String} (mem : .bind name ∈ binders) (value : Value) :
    context.Keeps binders (context.bind name value) where
  sorted := sorted.insert name value
  wrote := ⟨"", by simp [bind]⟩
  grows := Nat.le_refl _
  changes := by
    intro other free changed
    by_cases same : name = other
    · exact absurd (same ▸ mem) free
    · exact absurd (Fields.get?_insert_of_ne _ value same) changed

theorem get?_restore (name : String) (previous : Option Value) (other : String) :
    Fields.get? (context.restore name previous).bindings other =
      if name = other then previous else Fields.get? context.bindings other := by
  by_cases same : name = other
  · subst same
    rw [if_pos rfl]
    cases previous with
    | none => exact sorted.get?_erase_self name
    | some value => exact Fields.get?_insert_self _ _ _
  · rw [if_neg same]
    cases previous with
    | none => exact Fields.get?_erase_of_ne _ same
    | some value => exact Fields.get?_insert_of_ne _ value same

theorem sorted_restore (name : String) (previous : Option Value) :
    Fields.Sorted (context.restore name previous).bindings := by
  cases previous with
  | none => exact sorted.erase name
  | some value => exact sorted.insert name value

end

end Context

/-! ## Steps of rendering -/

def Render.Keeps {α : Type} (binders : List Binder) (body : Render α) : Prop :=
  ∀ context : Context, Fields.Sorted context.bindings →
    context.Keeps binders (body context).2

namespace Render

open Context (keeps_refl keeps_append)

variable {α β : Type} {binders : List Binder} {body : Render α}

theorem Keeps.pure (a : α) : Keeps binders (Pure.pure a : Render α) :=
  fun _ sorted => keeps_refl sorted

theorem Keeps.throw (e : Error) : Keeps binders (throw e : Render α) :=
  fun _ sorted => keeps_refl sorted

theorem Keeps.bind {next : α → Render β} (first : Keeps binders body)
    (second : ∀ a, Keeps binders (next a)) : Keeps binders (body >>= next) := by
  intro context sorted
  have left := first context sorted
  rw [bind_apply]
  rcases ran : body context with ⟨e | a, middle⟩
  · rw [ran] at left
    exact left
  · rw [ran] at left
    exact left.trans (second a middle left.sorted)

theorem Keeps.append (fragment : Context → String) :
    Keeps binders (modify fun context => context.append (fragment context) : Render Unit) :=
  fun context sorted => keeps_append sorted (fragment context)

theorem snd_evaluate (source : String) (failure : Error → Error) (context : Context) :
    (evaluate source failure context).2 = context := by
  cases found : Expr.evaluate source context.lookup with
  | error e =>
    have failed : evaluate source failure context = (.error (failure e), context) := by
      refine bind_eq_error.2 (.inr ⟨context, context, rfl, ?_⟩)
      rw [found]
      rfl
    rw [failed]
  | ok value =>
    have evaluated : evaluate source failure context = (.ok value, context) := by
      refine bind_eq_ok.2 ⟨context, context, rfl, ?_⟩
      rw [found]
      rfl
    rw [evaluated]

theorem Keeps.evaluate (source : String) (failure : Error → Error) :
    Keeps binders (evaluate source failure) := by
  intro context sorted
  rw [snd_evaluate]
  exact keeps_refl sorted

theorem Keeps.replaceWith {handler : String → Render String} (pieces : List Piece)
    (each : ∀ content, Keeps binders (handler content)) :
    Keeps binders (Piece.replaceWith handler pieces) := by
  induction pieces with
  | nil => exact .pure _
  | cons piece rest ih =>
    cases piece with
    | plain text => exact ih.bind fun tail => .pure _
    | token content => exact (each _).bind fun replaced => ih.bind fun tail => .pure _

theorem snd_isolated (body : Render α) (context : Context) : (isolated body context).2 =
    { (body { context with sql := "" }).2 with sql := context.sql } := by
  unfold isolated
  rcases body { context with sql := "" } with ⟨e | a, inner⟩ <;> rfl

theorem snd_bind_pure (body : Render α) (f : α → β) (context : Context) :
    ((body >>= fun a => Pure.pure (f a)) context).2 = (body context).2 := by
  rw [bind_apply]
  rcases body context with ⟨e | a, after⟩ <;> rfl

theorem sql_bind {next : α → Render β} {context : Context}
    (first : (body context).2.sql = context.sql)
    (second : ∀ a middle, (next a middle).2.sql = middle.sql) :
    ((body >>= next) context).2.sql = context.sql := by
  rw [bind_apply]
  rcases ran : body context with ⟨e | a, middle⟩
  · rw [ran] at first
    exact first
  · rw [ran] at first
    exact (second a middle).trans first

theorem Keeps.isolated (inside : Keeps binders body) : Keeps binders (isolated body) := by
  intro context sorted
  have keeps := inside { context with sql := "" } sorted
  rw [snd_isolated]
  exact keeps.withSql context.sql context.sql ⟨"", String.append_empty.symm⟩

end Render

/-! ## Loops -/

namespace Loop

variable {binders : List Binder} {contents : Render Bool}

theorem get?_restoreVariable (own : Option String) (before : Context) {context : Context}
    (sorted : Fields.Sorted context.bindings) (name : String) :
    Fields.get? (restoreVariable own before context).bindings name =
      if own = some name then Fields.get? before.bindings name
      else Fields.get? context.bindings name := by
  cases own with
  | none => rfl
  | some own =>
    rw [restoreVariable, Context.get?_restore sorted]
    by_cases same : own = name <;> simp [same]

theorem sorted_restoreVariable (own : Option String) (before : Context) {context : Context}
    (sorted : Fields.Sorted context.bindings) :
    Fields.Sorted (restoreVariable own before context).bindings := by
  cases own with
  | none => exact sorted
  | some own => exact Context.sorted_restore sorted own _

theorem unique_restoreVariable (own : Option String) (before context : Context) :
    (restoreVariable own before context).unique = context.unique := by
  cases own with
  | none => rfl
  | some own =>
    unfold restoreVariable Context.restore
    dsimp only
    split <;> rfl

def inside (loop : Loop) (binders : List Binder) : List Binder :=
  loop.names.map .bind ++ binders

theorem keeps_bindVariable (own : Option String)
    (inside : ∀ name ∈ own, .bind name ∈ binders ∧ .loop name ∈ binders) (value : Value)
    {before context : Context} (keeps : before.Keeps binders context) {unique : Nat}
    (low : before.unique ≤ unique) (high : unique < context.unique) :
    before.Keeps binders (bindVariable own value unique context) := by
  cases own with
  | none => exact keeps
  | some own =>
    have round : before.Keeps binders (context.bind (roundName own unique) value) :=
      { sorted := keeps.sorted.insert _ value
        wrote := keeps.wrote
        grows := keeps.grows
        changes := by
          intro name free changed
          by_cases same : roundName own unique = name
          · exact ⟨own, unique, (inside own rfl).2, same.symm, low, high⟩
          · rw [Context.bind, Fields.get?_insert_of_ne _ value same] at changed
            exact keeps.changes name free changed }
    exact round.trans (Context.keeps_bind round.sorted (inside own rfl).1 value)

variable {loop : Loop}

theorem keeps_entered (own : ∀ name ∈ loop.names, .loop name ∈ binders)
    (entry : Value × Value) {context : Context} (sorted : Fields.Sorted context.bindings) :
    { context with sql := "" }.Keeps (loop.inside binders) (loop.entered entry context) := by
  have named : ∀ name ∈ loop.names, .bind name ∈ loop.inside binders ∧
      .loop name ∈ loop.inside binders := fun name mem =>
    ⟨List.mem_append_left _ (List.mem_map_of_mem mem), List.mem_append_right _ (own name mem)⟩
  have counted : context.Keeps (loop.inside binders)
      { context with unique := context.unique + 1 } := Context.keeps_counted sorted 1
  have index := keeps_bindVariable loop.index (fun name mem => named name (by simp_all [names]))
    entry.1 counted (Nat.le_refl _) (Nat.lt_succ_self _)
  have item := keeps_bindVariable loop.item (fun name mem => named name (by simp_all [names]))
    entry.2 index (Nat.le_refl _) (by rw [unique_bindVariable]; exact Nat.lt_succ_self _)
  exact item.withSql "" "" ⟨"", rfl⟩

theorem snd_round (loop : Loop) (contents : Render Bool) (entry : Value × Value)
    (context : Context) : (loop.round contents entry context).2 =
      { (contents (loop.entered entry context)).2 with sql := context.sql } := by
  change ((Render.isolated contents >>= fun result => pure (Text.trimmed
    (loop.renamePlaceholders context.unique result.2))) (bindVariable loop.item entry.2
      context.unique (bindVariable loop.index entry.1 context.unique
        { context with unique := context.unique + 1 }))).2 = _
  rw [Render.snd_bind_pure, Render.snd_isolated, sql_bindVariable, sql_bindVariable]
  rfl

variable (own : ∀ name ∈ loop.names, .loop name ∈ binders) (inner : Render.Keeps binders contents)
include own inner

theorem keeps_rounds (entries : List (Value × Value)) :
    Render.Keeps (loop.inside binders) (loop.rounds contents entries) := by
  induction entries with
  | nil => exact .pure _
  | cons entry rest ih =>
    have round : Render.Keeps (loop.inside binders) (loop.round contents entry) := by
      intro context sorted
      have start := keeps_entered own entry sorted
      have wrote := (inner _ start.sorted).mono
        (List.subset_append_right (loop.names.map .bind) binders)
      rw [snd_round]
      exact (start.trans wrote).withSql context.sql context.sql ⟨"", String.append_empty.symm⟩
    exact round.bind fun fragment => ih.bind fun fragments => .pure _

omit own inner in
theorem keeps_restoring {body : Render (List String)}
    (keeps : Render.Keeps (loop.inside binders) body) :
    Render.Keeps binders (loop.restoring body) := by
  intro context sorted
  have rounds := keeps context sorted
  change context.Keeps binders
    (restoreVariable loop.index context (restoreVariable loop.item context (body context).2))
  have item := sorted_restoreVariable loop.item context rounds.sorted
  refine ⟨sorted_restoreVariable loop.index context item, ?_, ?_, fun name free changed => ?_⟩
  · rw [sql_restoreVariable, sql_restoreVariable]
    exact rounds.wrote
  · rw [unique_restoreVariable, unique_restoreVariable]
    exact rounds.grows
  · rw [get?_restoreVariable _ _ item, get?_restoreVariable _ _ rounds.sorted] at changed
    rw [unique_restoreVariable, unique_restoreVariable]
    by_cases mem : name ∈ loop.names
    · rcases List.mem_append.1 mem with item | index
      · simp [Option.mem_toList.1 item] at changed
      · simp [Option.mem_toList.1 index] at changed
    · have apart : loop.index ≠ some name ∧ loop.item ≠ some name := by
        simpa [names, and_comm] using mem
      rw [if_neg apart.1, if_neg apart.2] at changed
      obtain ⟨own, unique, looped, rest⟩ :=
        rounds.changes name (by simpa [inside, free] using mem) changed
      exact ⟨own, unique, by simpa [inside] using looped, rest⟩

theorem keeps_render : Render.Keeps binders (loop.render contents) := by
  have entries : Render.Keeps binders loop.entries := by
    refine (Render.Keeps.evaluate _ _).bind fun value => ?_
    cases loop.entriesOf value with
    | error e => exact .throw e
    | ok entries => exact .pure entries
  refine entries.bind fun found => ?_
  cases found with
  | none => exact .pure true
  | some entries =>
    refine (keeps_restoring (keeps_rounds own inner entries)).bind fun fragments => ?_
    exact (Render.Keeps.append _).bind fun _ => .pure true

omit own inner

theorem sql_entries (loop : Loop) (context : Context) :
    (loop.entries context).2.sql = context.sql := by
  refine Render.sql_bind (by rw [Render.snd_evaluate]) fun value middle => ?_
  cases loop.entriesOf value <;> rfl

theorem sql_rounds (loop : Loop) (contents : Render Bool) (entries : List (Value × Value))
    (context : Context) : (loop.rounds contents entries context).2.sql = context.sql := by
  induction entries generalizing context with
  | nil => rfl
  | cons entry rest ih =>
    refine Render.sql_bind (by rw [snd_round]) fun fragment middle => ?_
    exact Render.sql_bind (ih middle) fun fragments last => rfl

theorem sql_restoring (loop : Loop) {body : Render (List String)} {context : Context}
    (untouched : (body context).2.sql = context.sql) :
    (loop.restoring body context).2.sql = context.sql := by
  change (restoreVariable loop.index context
    (restoreVariable loop.item context (body context).2)).sql = context.sql
  rw [sql_restoreVariable, sql_restoreVariable, untouched]

theorem sql_of_render_eq_error {context after : Context} {error : Error}
    (failed : loop.render contents context = (.error error, after)) :
    after.sql = context.sql := by
  rcases Render.bind_eq_error.1 failed with failed | ⟨found, middle, listed, failed⟩
  · simpa [failed] using sql_entries loop context
  · have untouched : middle.sql = context.sql := by
      simpa [listed] using sql_entries loop context
    cases found with
    | none => cases failed
    | some entries =>
      rcases Render.bind_eq_error.1 failed with failed | ⟨fragments, last, -, failed⟩
      · have restored := sql_restoring loop (sql_rounds loop contents entries middle)
        rw [failed] at restored
        exact restored.trans untouched
      · cases failed

end Loop

/-! ## Trimmed parts -/

namespace TrimStyle

variable {style : TrimStyle} {contents : Render Bool}

theorem keeps_render {binders : List Binder} (inner : Render.Keeps binders contents) :
    Render.Keeps binders (style.render contents) := by
  refine inner.isolated.bind fun ⟨applied, body⟩ => ?_
  dsimp only
  split
  · exact (Render.Keeps.append _).bind fun _ => .pure applied
  · exact .pure applied

theorem sql_of_render_eq_error {context after : Context} {error : Error}
    (failed : style.render contents context = (.error error, after)) :
    after.sql = context.sql := by
  rcases Render.bind_eq_error.1 failed with failed | ⟨⟨applied, body⟩, middle, -, failed⟩
  · have restored := Render.snd_isolated contents context
    rw [failed] at restored
    change after = _ at restored
    rw [restored]
  · dsimp only at failed
    split at failed <;> cases failed

end TrimStyle

/-! ## Templates -/

namespace Node

open Loop (roundName)

variable {binders : List Binder}

theorem keeps_test (source : String) : Render.Keeps binders (test source) :=
  (Render.Keeps.evaluate source _).bind fun _ => .pure _

theorem keeps_spliced (filter : Option Filter) (content : String) :
    Render.Keeps binders (spliced filter content) := by
  refine (Render.Keeps.evaluate _ _).bind fun value => ?_
  cases filter with
  | none => exact .pure _
  | some filter =>
    generalize (if value.isNull then "" else value.display) = shown
    dsimp only
    split
    · exact .pure shown
    · exact .throw _

mutual

theorem keeps_render : ∀ node : Node, node.binders ⊆ binders →
    Render.Keeps binders node.render
  | static s, _ => by
      rw [render]
      exact (Render.Keeps.append _).bind fun _ => .pure true
  | text raw filter, _ => by
      rw [render]
      refine (Render.Keeps.replaceWith _ (keeps_spliced filter)).bind fun rendered => ?_
      exact (Render.Keeps.append _).bind fun _ => .pure true
  | mixed children, among => by
      rw [render]
      exact (keeps_renderAll children among).bind fun _ => .pure true
  | cond source contents, among => by
      rw [render]
      refine (keeps_test source).bind fun holds => ?_
      cases holds with
      | false => exact .pure false
      | true => exact (keeps_render contents among).bind fun _ => .pure true
  | choose branches otherwise, among => by
      rw [Node.binders, List.append_subset] at among
      rw [render]
      exact keeps_renderChoice branches among.1 (keeps_renderOtherwise otherwise among.2)
  | trim style contents, among => by
      rw [render]
      exact TrimStyle.keeps_render (keeps_render contents among)
  | forEach loop contents, among => by
      rw [Node.binders, List.append_subset] at among
      rw [render]
      exact Loop.keeps_render (fun name mem => among.1 (List.mem_map_of_mem mem))
        (keeps_render contents among.2)
  | bind name source, among => by
      rw [render]
      refine (Render.Keeps.evaluate source _).bind fun value => ?_
      have bound : Render.Keeps binders (modify (·.bind name value) : Render Unit) :=
        fun context sorted => Context.keeps_bind sorted (among List.mem_cons_self) value
      exact bound.bind fun _ => .pure true

theorem keeps_renderAll : ∀ nodes : List Node, bindersOfAll nodes ⊆ binders →
    Render.Keeps binders (renderAll nodes)
  | [], _ => by
      rw [renderAll]
      exact .pure ()
  | node :: rest, among => by
      rw [bindersOfAll, List.append_subset] at among
      rw [renderAll]
      exact (keeps_render node among.1).bind fun _ => keeps_renderAll rest among.2

theorem keeps_renderOtherwise : ∀ otherwise : Option Node, bindersOfOtherwise otherwise ⊆ binders →
    Render.Keeps binders (renderOtherwise otherwise)
  | none, _ => by
      rw [renderOtherwise]
      exact .pure false
  | some contents, among => by
      rw [renderOtherwise]
      exact (keeps_render contents among).bind fun _ => .pure true

theorem keeps_renderChoice {otherwise : Render Bool} : ∀ branches : List (String × Node),
    bindersOfBranches branches ⊆ binders → Render.Keeps binders otherwise →
    Render.Keeps binders (renderChoice otherwise branches)
  | [], _, keeps => by
      rw [renderChoice]
      exact keeps
  | (source, contents) :: rest, among, keeps => by
      rw [bindersOfBranches, List.append_subset] at among
      rw [renderChoice]
      refine (keeps_test source).bind fun holds => ?_
      cases holds with
      | false => exact keeps_renderChoice rest among.2 keeps
      | true => exact (keeps_render contents among.1).bind fun _ => .pure true

end

/-- Trimmed parts and loops, which render their contents apart from the SQL so far. -/
def buffers : Node → Bool
  | trim _ _ | forEach _ _ => true
  | _ => false

theorem sql_of_buffers {node : Node} (apart : node.buffers) {context after : Context}
    {error : Error} (failed : node.render context = (.error error, after)) :
    after.sql = context.sql := by
  cases node with
  | trim style contents => exact TrimStyle.sql_of_render_eq_error (by rwa [render] at failed)
  | forEach loop contents => exact Loop.sql_of_render_eq_error (by rwa [render] at failed)
  | _ => cases apart

/-- Rendering only appends to the SQL, and nothing if it is a trimmed part or a loop that fails. A name
that the template does not bind keeps its value or its absence, unless it was made for a round of one
of the template's loops. -/
theorem render_scoped {node : Node} {context after : Context} {outcome : Except Error Bool}
    (sorted : Fields.Sorted context.bindings) (ran : node.render context = (outcome, after)) :
    (∃ fragment, after.sql = context.sql ++ fragment) ∧
    (node.buffers → ∀ error, outcome = .error error → after.sql = context.sql) ∧
    (∀ name, .bind name ∉ node.binders → ¬"__frch_".toList <+: name.toList →
      Fields.get? after.bindings name = Fields.get? context.bindings name) ∧
    (∀ name, .bind name ∉ node.binders → "__frch_".toList <+: name.toList →
      Fields.get? after.bindings name ≠ Fields.get? context.bindings name →
      ∃ own unique, .loop own ∈ node.binders ∧ name = roundName own unique ∧
        context.unique ≤ unique ∧ unique < after.unique) ∧
    context.unique ≤ after.unique := by
  have keeps : context.Keeps node.binders after := by
    simpa [ran] using keeps_render node (List.Subset.refl _) context sorted
  refine ⟨keeps.wrote, fun apart error failed => ?_, fun name free plain => ?_,
    fun name free made => keeps.changes name free, keeps.grows⟩
  · subst failed
    exact sql_of_buffers apart ran
  · by_contra changed
    obtain ⟨own, unique, -, rfl, -⟩ := keeps.changes name free changed
    refine plain ⟨own.toList ++ '_' :: Nat.toDigits 10 unique, ?_⟩
    rw [Loop.toList_roundName, List.append_assoc]

def eachRow : Loop where
  collection := "rows"
  item := some "x"
  index := some "i"

def eachCell : Loop where
  collection := "x"
  item := some "x"
  separator := some ", "

def grid : Node :=
  .forEach eachRow (.mixed [.static "(", .forEach eachCell (.static "#\x7bx\x7d"), .static ")"])

def ragged : Context where
  parameter := .map [("rows", .list [.list [.int 1, .int 2], .int 3])]
  bindings := [("x", .text "own")]
  sql := "values"
  unique := 4

theorem render_scoped_ragged : Fields.Sorted ragged.bindings ∧
    ∃ error after, grid.render ragged = (.error error, after) ∧ after.sql = "values" ∧
      Fields.get? after.bindings "x" = some (.text "own") ∧
      Fields.get? after.bindings "i" = none ∧ 4 ≤ after.unique := by
  have sorted : Fields.Sorted ragged.bindings := List.pairwise_singleton _ _
  refine ⟨sorted, ?_⟩
  have fails : (grid.render ragged).1.isOk = false := by decide +kernel
  rcases ran : grid.render ragged with ⟨error | applied, after⟩
  · obtain ⟨-, untouched, kept, -, grows⟩ := render_scoped sorted ran
    have free : ∀ name, .bind name ∉ grid.binders := by
      simp [grid, binders, bindersOfAll]
    exact ⟨error, after, rfl, untouched rfl error rfl,
      kept "x" (free _) (by decide), kept "i" (free _) (by decide), grows⟩
  · rw [ran] at fails
    cases fails

def likeRound : Node :=
  .bind "__frch_q" "1"

theorem exists_likeRound : ∃ context name, Fields.Sorted context.bindings ∧
    "__frch_".toList <+: name.toList ∧ Fields.get? context.bindings name = none ∧
    Fields.get? (likeRound.render context).2.bindings name ≠ none ∧
    ∀ own unique, .loop own ∈ likeRound.binders → name ≠ roundName own unique := by
  refine ⟨.initial .null none, "__frch_q", List.pairwise_singleton _ _, by decide, by decide +kernel,
    by decide +kernel, ?_⟩
  simp [likeRound, binders]

end Node

end MappedSql
