import MappedSql.Proofs.Outcome
import MappedSql.Source

/-!
# What a template depends on

Rendering reads the parameter only through the variables of a template's expressions
(`Node.blind_render`). So two parameters whose fields agree on these variables are rendered alike, and
bind alike (`SqlSource.boundSql_eq_of_agree`).
-/

namespace MappedSql

variable {α β : Type}

namespace Expr

/-- The variables of an expression by its source; a source that is none has no variables. -/
def varsOf (source : String) : List String :=
  match compile source with
  | .ok expr => expr.vars
  | .error _ => []

variable {scope scope' : Scope}

theorem eval_congr {expr : Expr} (agree : ∀ name ∈ expr.vars, scope name = scope' name) :
    expr.eval scope = expr.eval scope' := by
  induction expr with
  | literal value => rfl
  | var name =>
      have same := agree name (by simp [vars])
      simp only [eval, same]
  | member target name ih | size target ih | isEmpty target ih | not target ih | neg target ih =>
      have same := ih agree
      simp only [eval, same]
  | index left right ihLeft ihRight | and left right ihLeft ihRight | or left right ihLeft ihRight
  | compare comparison left right ihLeft ihRight | add left right ihLeft ihRight
  | sub left right ihLeft ihRight =>
      have first := ihLeft fun name mem => agree name (List.mem_append_left _ mem)
      have second := ihRight fun name mem => agree name (List.mem_append_right _ mem)
      simp only [eval, first, second]

theorem evaluate_congr {source : String}
    (agree : ∀ name ∈ varsOf source, scope name = scope' name) :
    evaluate source scope = evaluate source scope' := by
  unfold evaluate
  cases compiled : compile source with
  | error e => rfl
  | ok expr =>
      simp only [varsOf, compiled] at agree
      have same := eval_congr agree
      change (expr.eval scope).mapError _ = (expr.eval scope').mapError _
      rw [same]

end Expr

namespace Node

mutual

def sources : Node → List String
  | static _ => []
  | text raw _ => (Piece.contents (Piece.ofText '$' raw)).map Text.trimmed
  | mixed children => sourcesOfAll children
  | cond test contents => test :: sources contents
  | choose branches otherwise => sourcesOfBranches branches ++ sourcesOfOtherwise otherwise
  | trim _ contents => sources contents
  | forEach loop contents => loop.collection :: sources contents
  | bind _ source => [source]

def sourcesOfAll : List Node → List String
  | [] => []
  | node :: rest => sources node ++ sourcesOfAll rest

def sourcesOfBranches : List (String × Node) → List String
  | [] => []
  | (test, contents) :: rest => test :: (sources contents ++ sourcesOfBranches rest)

def sourcesOfOtherwise : Option Node → List String
  | none => []
  | some contents => sources contents

end

def vars (root : Node) : List String :=
  root.sources.flatMap Expr.varsOf

end Node

structure Context.Alike (names : List String) (left right : Context) : Prop where
  bindings : left.bindings = right.bindings
  sql : left.sql = right.sql
  unique : left.unique = right.unique
  fields : ∃ fields fields', left.parameter = .map fields ∧ right.parameter = .map fields' ∧
    ∀ name ∈ names, Fields.get? fields name = Fields.get? fields' name

namespace Context

variable {names : List String} {left right : Context}

theorem alike_initial {fields fields' : Fields Value} (databaseId : Option String)
    (agree : ∀ name ∈ names, Fields.get? fields name = Fields.get? fields' name) :
    (initial (.map fields) databaseId).Alike names (initial (.map fields') databaseId) :=
  ⟨rfl, rfl, rfl, fields, fields', rfl, rfl, agree⟩

theorem Alike.lookup_eq (alike : left.Alike names right) {name : String} (known : name ∈ names)
    (field : name ≠ parameterName) : left.lookup name = right.lookup name := by
  obtain ⟨fields, fields', parameter, parameter', agree⟩ := alike.fields
  unfold lookup
  rw [alike.bindings]
  cases Fields.get? right.bindings name with
  | some value => rfl
  | none =>
      have same := agree name known
      simp only [if_neg field, parameter, parameter', same]

theorem Alike.withSql (alike : left.Alike names right) (sql : String) :
    Alike names { left with sql := sql } { right with sql := sql } :=
  ⟨alike.bindings, rfl, alike.unique, alike.fields⟩

theorem Alike.append (alike : left.Alike names right) (fragment : String) :
    (left.append fragment).Alike names (right.append fragment) := by
  refine ⟨alike.bindings, ?_, alike.unique, alike.fields⟩
  have same := alike.sql
  simp only [Context.append, same]

theorem Alike.bind (alike : left.Alike names right) (name : String) (value : Value) :
    (left.bind name value).Alike names (right.bind name value) := by
  refine ⟨?_, alike.sql, alike.unique, alike.fields⟩
  have same := alike.bindings
  simp only [Context.bind, same]

theorem Alike.restore (alike : left.Alike names right) (name : String) (previous : Option Value) :
    (left.restore name previous).Alike names (right.restore name previous) := by
  cases previous with
  | some value => exact alike.bind name value
  | none =>
      refine ⟨?_, alike.sql, alike.unique, alike.fields⟩
      have same := alike.bindings
      simp only [Context.restore, same]

end Context

def Render.Blind (names : List String) (body : Render α) : Prop :=
  ∀ left right : Context, left.Alike names right →
    (body left).1 = (body right).1 ∧ (body left).2.Alike names (body right).2

namespace Render

variable {names : List String} {body : Render α}

theorem bind_apply (body : Render α) (next : α → Render β) (context : Context) :
    (body >>= next) context =
      match body context with
      | (.ok a, after) => next a after
      | (.error e, after) => (.error e, after) := by
  change ExceptT.bind body next context = _
  unfold ExceptT.bind ExceptT.mk
  change (StateT.bind body (ExceptT.bindCont next)) context = _
  unfold StateT.bind
  change (match body context with | (a, s) => ExceptT.bindCont next a s) = _
  rcases body context with ⟨_ | a, after⟩ <;> rfl

theorem blind_bind {next : α → Render β} (first : Blind names body)
    (second : ∀ a, Blind names (next a)) : Blind names (body >>= next) := by
  intro left right alike
  obtain ⟨same, later⟩ := first left right alike
  rw [bind_apply, bind_apply]
  rcases ran : body left with ⟨result, after⟩
  rcases ran' : body right with ⟨result', after'⟩
  rw [ran, ran'] at same later
  obtain rfl : result = result' := same
  cases result with
  | error e => exact ⟨rfl, later⟩
  | ok a => exact second a after after' later

theorem blind_pure (a : α) : Blind names (pure a : Render α) :=
  fun _ _ alike => ⟨rfl, alike⟩

theorem blind_throw (e : Error) : Blind names (throw e : Render α) :=
  fun _ _ alike => ⟨rfl, alike⟩

theorem blind_failWith (cause : Cause) : Blind names (failWith cause : Render α) :=
  blind_throw _

theorem blind_get {next : Context → Render β}
    (same : ∀ left right : Context, left.Alike names right → next left = next right)
    (blind : ∀ context, Blind names (next context)) : Blind names (get >>= next) := by
  intro left right alike
  have unfolded (context : Context) : (get >>= next : Render β) context = next context context := by
    rw [bind_apply]
    rfl
  rw [unfolded, unfolded, same left right alike]
  exact blind right left right alike

theorem blind_modify {change : Context → Context}
    (keeps : ∀ left right : Context, left.Alike names right →
      (change left).Alike names (change right)) : Blind names (modify change : Render Unit) :=
  fun left right alike => ⟨rfl, keeps left right alike⟩

theorem blind_append (fragment : String) :
    Blind names (modify (·.append fragment) : Render Unit) :=
  blind_modify fun _ _ alike => alike.append fragment

theorem blind_isolated (blind : Blind names body) : Blind names (isolated body) := by
  intro left right alike
  obtain ⟨same, later⟩ := blind _ _ (alike.withSql "")
  unfold isolated
  rcases ran : body { left with sql := "" } with ⟨result, after⟩
  rcases ran' : body { right with sql := "" } with ⟨result', after'⟩
  rw [ran, ran'] at same later
  obtain rfl : result = result' := same
  have restored := later.withSql left.sql
  rw [alike.sql] at restored
  rw [alike.sql]
  cases result with
  | error e => exact ⟨rfl, restored⟩
  | ok a =>
      have wrote : after.sql = after'.sql := later.sql
      simp only [wrote]
      exact ⟨trivial, restored⟩

theorem blind_evaluate {source : String} (field : parameterName ∉ names)
    (known : ∀ name ∈ Expr.varsOf source, name ∈ names) (failure : Error → Error) :
    Blind names (evaluate source failure) := by
  apply blind_get
  · intro left right alike
    have same : Expr.evaluate source left.lookup = Expr.evaluate source right.lookup := by
      apply Expr.evaluate_congr
      intro name mem
      apply alike.lookup_eq (known name mem)
      rintro rfl
      exact field (known _ mem)
    simp only [same]
  · intro context
    cases Expr.evaluate source context.lookup with
    | error e => exact blind_throw _
    | ok value => exact blind_pure value

theorem blind_replaceWith {handler : String → Render String} {pieces : List Piece}
    (blind : ∀ content ∈ Piece.contents pieces, Blind names (handler content)) :
    Blind names (Piece.replaceWith handler pieces) := by
  induction pieces with
  | nil => exact blind_pure _
  | cons piece rest ih =>
      cases piece with
      | plain text =>
          apply blind_bind (ih blind)
          intro tail
          exact blind_pure _
      | token content =>
          have first := blind (String.ofList content) List.mem_cons_self
          apply blind_bind first
          intro replaced
          apply blind_bind (ih fun other mem => blind other (List.mem_cons_of_mem _ mem))
          intro tail
          exact blind_pure _

end Render

namespace Loop

variable {names : List String} {contents : Render Bool} {left right : Context}

theorem alike_bindVariable (alike : left.Alike names right) (name : Option String) (value : Value)
    (unique : Nat) :
    (bindVariable name value unique left).Alike names (bindVariable name value unique right) := by
  cases name with
  | none => exact alike
  | some name => exact (alike.bind _ value).bind name value

theorem alike_restoreVariable {before before' : Context} (same : before.bindings = before'.bindings)
    (alike : left.Alike names right) (name : Option String) :
    (restoreVariable name before left).Alike names (restoreVariable name before' right) := by
  cases name with
  | none => exact alike
  | some name =>
      unfold restoreVariable
      rw [same]
      exact alike.restore name _

theorem blind_round (loop : Loop) (blind : Render.Blind names contents) (entry : Value × Value) :
    Render.Blind names (loop.round contents entry) := by
  apply Render.blind_get
  · intro left right alike
    rw [alike.unique]
  · intro context
    apply Render.blind_bind
    · apply Render.blind_modify
      intro left right alike
      exact ⟨alike.bindings, alike.sql, rfl, alike.fields⟩
    intro _
    apply Render.blind_bind
    · apply Render.blind_modify
      intro left right alike
      exact alike_bindVariable alike loop.index entry.1 context.unique
    intro _
    apply Render.blind_bind
    · apply Render.blind_modify
      intro left right alike
      exact alike_bindVariable alike loop.item entry.2 context.unique
    intro _
    apply Render.blind_bind (Render.blind_isolated blind)
    intro written
    exact Render.blind_pure _

theorem blind_rounds (loop : Loop) (blind : Render.Blind names contents)
    (entries : List (Value × Value)) : Render.Blind names (loop.rounds contents entries) := by
  induction entries with
  | nil => exact Render.blind_pure _
  | cons entry rest ih =>
      apply Render.blind_bind (blind_round loop blind entry)
      intro fragment
      apply Render.blind_bind ih
      intro fragments
      exact Render.blind_pure _

theorem blind_restoring (loop : Loop) {body : Render (List String)}
    (blind : Render.Blind names body) : Render.Blind names (loop.restoring body) := by
  intro left right alike
  obtain ⟨same, later⟩ := blind left right alike
  have item := alike_restoreVariable alike.bindings later loop.item
  exact ⟨same, alike_restoreVariable alike.bindings item loop.index⟩

theorem blind_render (loop : Loop) (field : parameterName ∉ names)
    (known : ∀ name ∈ Expr.varsOf loop.collection, name ∈ names)
    (blind : Render.Blind names contents) : Render.Blind names (loop.render contents) := by
  have entries : Render.Blind names loop.entries := by
    apply Render.blind_bind (Render.blind_evaluate field known _)
    intro value
    cases loop.entriesOf value with
    | error e => exact Render.blind_throw e
    | ok entries => exact Render.blind_pure entries
  apply Render.blind_bind entries
  intro found
  cases found with
  | none => exact Render.blind_pure true
  | some entries =>
      apply Render.blind_bind (blind_restoring loop (blind_rounds loop blind entries))
      intro fragments
      apply Render.blind_bind (Render.blind_append _)
      intro _
      exact Render.blind_pure true

end Loop

theorem TrimStyle.blind_render {names : List String} {contents : Render Bool} (style : TrimStyle)
    (blind : Render.Blind names contents) : Render.Blind names (style.render contents) := by
  apply Render.blind_bind (Render.blind_isolated blind)
  rintro ⟨applied, body⟩
  dsimp only
  split
  · apply Render.blind_bind
    · apply Render.blind_modify
      intro left right alike
      rw [alike.sql]
      exact alike.append _
    · intro _
      exact Render.blind_pure applied
  · exact Render.blind_pure applied

namespace Node

variable {names : List String}

def Reads (names sources : List String) : Prop :=
  ∀ source ∈ sources, ∀ name ∈ Expr.varsOf source, name ∈ names

theorem Reads.head {source : String} {rest : List String} (reads : Reads names (source :: rest)) :
    ∀ name ∈ Expr.varsOf source, name ∈ names :=
  reads source List.mem_cons_self

theorem Reads.tail {source : String} {rest : List String} (reads : Reads names (source :: rest)) :
    Reads names rest :=
  fun other mem => reads other (List.mem_cons_of_mem _ mem)

theorem Reads.left {first second : List String} (reads : Reads names (first ++ second)) :
    Reads names first :=
  fun source mem => reads source (List.mem_append_left _ mem)

theorem Reads.right {first second : List String} (reads : Reads names (first ++ second)) :
    Reads names second :=
  fun source mem => reads source (List.mem_append_right _ mem)

theorem blind_test {source : String} (field : parameterName ∉ names)
    (known : ∀ name ∈ Expr.varsOf source, name ∈ names) :
    Render.Blind names (test source) := by
  apply Render.blind_bind (Render.blind_evaluate field known _)
  intro value
  exact Render.blind_pure _

theorem blind_spliced (filter : Option Filter) {content : String} (field : parameterName ∉ names)
    (known : ∀ name ∈ Expr.varsOf (Text.trimmed content), name ∈ names) :
    Render.Blind names (spliced filter content) := by
  apply Render.blind_bind (Render.blind_evaluate field known _)
  intro value
  cases filter with
  | none => exact Render.blind_pure _
  | some filter =>
      generalize (if value.isNull then "" else value.display) = shown
      dsimp only
      split
      · exact Render.blind_pure shown
      · exact Render.blind_failWith _

mutual

theorem blind_render (field : parameterName ∉ names) : ∀ node : Node, Reads names node.sources →
    Render.Blind names node.render
  | static s, _ => by
      rw [render]
      exact Render.blind_bind (Render.blind_append s) fun _ => Render.blind_pure true
  | text raw filter, reads => by
      rw [render]
      have replaced : Render.Blind names (replaceTokens '$' raw (spliced filter)) := by
        apply Render.blind_replaceWith
        intro content mem
        exact blind_spliced filter field (reads _ (List.mem_map_of_mem mem))
      apply Render.blind_bind replaced
      intro rendered
      exact Render.blind_bind (Render.blind_append rendered) fun _ => Render.blind_pure true
  | mixed children, reads => by
      rw [render]
      exact Render.blind_bind (blind_renderAll field children reads) fun _ => Render.blind_pure true
  | cond source contents, reads => by
      rw [render]
      apply Render.blind_bind (blind_test field reads.head)
      intro holds
      cases holds with
      | false => exact Render.blind_pure false
      | true =>
          exact Render.blind_bind (blind_render field contents reads.tail) fun _ =>
            Render.blind_pure true
  | choose branches otherwise, reads => by
      rw [render]
      exact blind_renderChoice field branches reads.left
        (blind_renderOtherwise field otherwise reads.right)
  | trim style contents, reads => by
      rw [render]
      exact style.blind_render (blind_render field contents reads)
  | forEach loop contents, reads => by
      rw [render]
      exact loop.blind_render field reads.head (blind_render field contents reads.tail)
  | bind name source, reads => by
      rw [render]
      apply Render.blind_bind (Render.blind_evaluate field reads.head _)
      intro value
      apply Render.blind_bind
      · exact Render.blind_modify fun _ _ alike => alike.bind name value
      · intro _
        exact Render.blind_pure true

theorem blind_renderAll (field : parameterName ∉ names) : ∀ nodes : List Node,
    Reads names (sourcesOfAll nodes) → Render.Blind names (renderAll nodes)
  | [], _ => by
      rw [renderAll]
      exact Render.blind_pure ()
  | node :: rest, reads => by
      rw [renderAll]
      exact Render.blind_bind (blind_render field node reads.left) fun _ =>
        blind_renderAll field rest reads.right

theorem blind_renderOtherwise (field : parameterName ∉ names) : ∀ otherwise : Option Node,
    Reads names (sourcesOfOtherwise otherwise) → Render.Blind names (renderOtherwise otherwise)
  | none, _ => by
      rw [renderOtherwise]
      exact Render.blind_pure false
  | some contents, reads => by
      rw [renderOtherwise]
      exact Render.blind_bind (blind_render field contents reads) fun _ => Render.blind_pure true

theorem blind_renderChoice (field : parameterName ∉ names) {otherwise : Render Bool} :
    ∀ branches : List (String × Node), Reads names (sourcesOfBranches branches) →
      Render.Blind names otherwise → Render.Blind names (renderChoice otherwise branches)
  | [], _, blind => by
      rw [renderChoice]
      exact blind
  | (source, contents) :: rest, reads, blind => by
      rw [renderChoice]
      apply Render.blind_bind (blind_test field reads.head)
      intro holds
      cases holds with
      | false => exact blind_renderChoice field rest reads.tail.right blind
      | true =>
          exact Render.blind_bind (blind_render field contents reads.tail.left) fun _ =>
            Render.blind_pure true

end

end Node

namespace SqlSource

/-- Fields that no expression of a template reads do not matter: for two parameters that agree on the
others, rendering ends alike with the same SQL and the same bindings, and so the SQL is compiled to the
same text with the same mappings. -/
theorem boundSql_eq_of_agree {root : Node} {fields fields' : Fields Value}
    (apart : parameterName ∉ root.vars)
    (agree : ∀ name ∈ root.vars, Fields.get? fields name = Fields.get? fields' name)
    (setting : CompileSetting) :
    (renderFor root (.map fields) setting.databaseId).1 =
        (renderFor root (.map fields') setting.databaseId).1 ∧
      (renderFor root (.map fields) setting.databaseId).2.sql =
        (renderFor root (.map fields') setting.databaseId).2.sql ∧
      (renderFor root (.map fields) setting.databaseId).2.bindings =
        (renderFor root (.map fields') setting.databaseId).2.bindings ∧
      ((SqlSource.dynamic root).boundSql (.map fields) setting).map
          (fun bound => (bound.sql, bound.mappings)) =
        ((SqlSource.dynamic root).boundSql (.map fields') setting).map
          (fun bound => (bound.sql, bound.mappings)) := by
  have reads : Node.Reads root.vars root.sources :=
    fun source mem name known => List.mem_flatMap.2 ⟨source, mem, known⟩
  obtain ⟨ended, alike⟩ := Node.blind_render apart root reads _ _
    (Context.alike_initial setting.databaseId agree)
  refine ⟨ended, alike.sql, alike.bindings, ?_⟩
  simp only [SqlSource.boundSql]
  unfold renderFor
  -- the two parameters are of one kind, and compiling reads nothing else of them
  rcases ran : root.render (.initial (.map fields) setting.databaseId) with ⟨result, after⟩
  rcases ran' : root.render (.initial (.map fields') setting.databaseId) with ⟨result', after'⟩
  rw [ran, ran'] at ended alike
  obtain rfl : result = result' := ended
  have sql : after.sql = after'.sql := alike.sql
  have bindings : after.bindings = after'.bindings := alike.bindings
  cases result with
  | error e => rfl
  | ok applied =>
      have kind : (Value.map fields).kind = (Value.map fields').kind := rfl
      change ((MarkedSql.ofText ⟨(Value.map fields).kind, after.bindings, setting.registry⟩
          (finishSql after.sql setting.shrinkWhitespace)) >>= fun compiled => _).map _ =
        ((MarkedSql.ofText ⟨(Value.map fields').kind, after'.bindings, setting.registry⟩
          (finishSql after'.sql setting.shrinkWhitespace)) >>= fun compiled => _).map _
      rw [sql, bindings, kind]
      cases MarkedSql.ofText ⟨(Value.map fields').kind, after'.bindings, setting.registry⟩
        (finishSql after'.sql setting.shrinkWhitespace) <;> rfl

def anyOf : Loop where
  collection := "ids"
  item := some "id"
  opening := some "and id in ("
  closing := some ")"
  separator := some ", "

def searching : Node :=
  .mixed [.bind "pattern" "name + '%'", Node.ofText "select $\x7bcolumn\x7d from t ",
    .whereClause [.cond "name != null" (.static "and name like #\x7bpattern\x7d "),
      .forEach anyOf (.static "#\x7bid\x7d")]]

def searched (more : List (String × Value)) : List (String × Value) :=
  [("column", .text "n"), ("name", .text "a"), ("ids", .list [.int 1, .int 2])] ++ more

theorem boundSql_eq_of_agree_searching :
    ((SqlSource.dynamic searching).boundSql (.map (searched [("page", .int 1)]))
        ⟨.initial, none, true⟩).map (fun bound => (bound.sql, bound.mappings)) =
      ((SqlSource.dynamic searching).boundSql (.map (searched [])) ⟨.initial, none, true⟩).map
        (fun bound => (bound.sql, bound.mappings)) ∧
      (((SqlSource.dynamic searching).boundSql (.map (searched [])) ⟨.initial, none, true⟩).map
        (·.sql)).toOption = some "select n from t WHERE name like ? and id in (?, ?)" := by
  have vars : searching.vars = ["name", "column", "name", "ids"] := by decide +kernel
  have apart : parameterName ∉ searching.vars := by
    rw [vars]
    decide
  have agree : ∀ name ∈ searching.vars, Fields.get? (searched [("page", .int 1)]) name =
      Fields.get? (searched []) name := by
    rw [vars]
    intro name mem
    simp only [List.mem_cons, List.not_mem_nil, or_false] at mem
    rcases mem with rfl | rfl | rfl | rfl <;> simp [searched, Fields.get?]
  obtain ⟨-, -, -, same⟩ := boundSql_eq_of_agree apart agree ⟨.initial, none, true⟩
  refine ⟨same, ?_⟩
  decide +kernel

end SqlSource

end MappedSql
