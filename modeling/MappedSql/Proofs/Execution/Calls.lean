import MappedSql.Proofs.Cache.Contents
import MappedSql.Proofs.Database.Register
import MappedSql.Proofs.Execution.Frames
import MappedSql.Proofs.Outcome

/-!
# What a key says about the call of the driver

A key is made from the values of an invocation as they are found; the driver gets them as the handlers
of the markers convert them. Invocations with equal keys send the same SQL, and their values differ at
most in the sign of zeros. They set the same values if besides their markers are bound alike
(`DriverCall.eq_of_same`), which is so for a static statement but need not be for a dynamic one.
-/

namespace MappedSql

variable {σ : Type}

/-- What reaches the driver for one invocation: the SQL, and the values with their positions. -/
structure DriverCall where
  sql : String
  placed : List (Nat × Value)

namespace BoundSql

def converted (bound : BoundSql) (mapping : ParameterMapping) : Except Error Value := do
  mapping.handler.bind (← bound.parameterValue mapping) mapping.dbType

/-- The values that are placed from a position on, until one is refused. -/
def placedFrom (bound : BoundSql) : Nat → List ParameterMapping → List (Nat × Value)
  | _, [] => []
  | position, mapping :: rest =>
      if mapping.direction != .output then
        match bound.converted mapping with
        | .ok value => (position, value) :: bound.placedFrom (position + 1) rest
        | .error _ => []
      else bound.placedFrom (position + 1) rest

end BoundSql

/-- Places values on a driver statement until the driver refuses one. -/
def DataSource.place (source : DataSource σ) (statement : StatementId) :
    List (Nat × Value) → Action σ Unit
  | [] => return ()
  | (position, value) :: rest => do
      source.setParameter statement position value
      source.place statement rest

namespace Handler

variable {pipeline : Pipeline σ} (handler : Handler)

def placed : List (Nat × Value) :=
  match handler.statement.kind with
  | .plain => []
  | _ => handler.bound.placedFrom 1 handler.bound.mappings

theorem bindOne_of_refused {mapping : ParameterMapping} {e : Error}
    (refused : handler.bound.converted mapping = .error e) (statement : StatementId)
    (position : Nat) (scene : Scene σ) :
    ∃ e', handler.bindOne pipeline statement position mapping scene = (.error e', scene) := by
  unfold BoundSql.converted at refused
  unfold bindOne
  rw [Action.bind_apply]
  cases found : handler.bound.parameterValue mapping with
  | error e => exact ⟨_, rfl⟩
  | ok value =>
      rw [found] at refused
      have unconverted : mapping.handler.bind value mapping.dbType = .error e := refused
      simp only [withContext_ok, withContext_error, Work.lift_apply, unconverted, Action.inContext,
        Action.bind_apply]
      exact ⟨_, rfl⟩

theorem bindOne_of_converted {mapping : ParameterMapping} {value : Value}
    (converted : handler.bound.converted mapping = .ok value) (statement : StatementId)
    (position : Nat) (scene : Scene σ) :
    ∃ context, handler.bindOne pipeline statement position mapping scene =
      (withContext context (pipeline.source.setParameter statement position value scene.source).1,
        { scene with
          source := (pipeline.source.setParameter statement position value scene.source).2 }) := by
  obtain ⟨found, resolved, bound⟩ := bind_eq_ok.1 converted
  unfold bindOne
  rw [Action.bind_apply, resolved]
  simp only [withContext_ok, Work.lift_apply, bound, Action.inContext, Action.bind_apply]
  exact ⟨_, rfl⟩

theorem bindFrom_after (statement : StatementId) (position : Nat) (mappings : List ParameterMapping)
    (scene : Scene σ) :
    (handler.bindFrom pipeline statement position mappings scene).2 =
      { scene with
        source := (pipeline.source.place statement (handler.bound.placedFrom position mappings)
          scene.source).2 } := by
  induction mappings generalizing position scene with
  | nil => rfl
  | cons mapping rest ih =>
      unfold bindFrom BoundSql.placedFrom
      split
      · rw [Action.bind_apply]
        cases converted : handler.bound.converted mapping with
        | error e =>
            obtain ⟨e', failed⟩ := @bindOne_of_refused σ pipeline handler mapping e converted
              statement position scene
            rw [failed]
            rfl
        | ok value =>
            obtain ⟨context, set⟩ := @bindOne_of_converted σ pipeline handler mapping value
              converted statement position scene
            rw [set, DataSource.place, Action.bind_apply]
            rcases pipeline.source.setParameter statement position value scene.source with
              ⟨e | _, after⟩
            · rfl
            · exact ih (position + 1) { scene with source := after }
      · exact ih (position + 1) scene

theorem setParameters_after (plain : pipeline.Plain) (statement : StatementId)
    (scene : Scene σ) :
    (handler.setParameters pipeline statement scene).2 =
      { scene with
        source := (pipeline.source.place statement
          (handler.bound.placedFrom 1 handler.bound.mappings) scene.source).2 } := by
  rw [setParameters, plain.call_eq]
  exact bindFrom_after handler statement 1 handler.bound.mappings scene

/-- An invocation is sent to the driver as a call: its SQL is prepared, and its parameter handler places
its values on the statement. Where no interceptors are, setting the parameters does just that. -/
structure Sends (pipeline : Pipeline σ) (handler : Handler) (call : DriverCall) : Prop where
  prepares : ∀ connection timeout (scene : Scene σ),
    (handler.prepareOn pipeline connection timeout scene).2 =
      { scene with
        source := (pipeline.source.prepare connection call.sql
          (handler.prepareOptions pipeline timeout) scene.source).2 }
  unmarked : handler.statement.kind = .plain →
    call.placed = [] ∧ ∀ statement, handler.supply pipeline statement = pure ()
  binds : handler.statement.kind ≠ .plain → ∀ statement (scene : Scene σ),
    (handler.bindFrom pipeline statement 1 handler.bound.mappings scene).2 =
      { scene with source := (pipeline.source.place statement call.placed scene.source).2 }
  sets : handler.statement.kind ≠ .plain → pipeline.Plain → ∀ statement (scene : Scene σ),
    (handler.setParameters pipeline statement scene).2 =
      { scene with source := (pipeline.source.place statement call.placed scene.source).2 }

end Handler

/-- Two markers take their values alike: both send none, or both convert it alike. -/
def ParameterMapping.BoundAlike (left right : ParameterMapping) : Prop :=
  (left.direction != .output) = (right.direction != .output) ∧
    (left.direction != .output → left.handler = right.handler ∧ left.dbType = right.dbType)

theorem ParameterMapping.BoundAlike.refl (mapping : ParameterMapping) : mapping.BoundAlike mapping :=
  ⟨rfl, fun _ => ⟨rfl, rfl⟩⟩

namespace BoundSql

def BoundAlike (left right : BoundSql) : Prop :=
  List.Forall₂ ParameterMapping.BoundAlike left.mappings right.mappings

end BoundSql

namespace Executor

theorem keyOf_eq_ok {databaseId : Option String} {statement : MappedStatement} {bounds : RowBounds}
    {bound : BoundSql} {key : CacheKey} :
    keyOf databaseId statement bounds bound = .ok key ↔
      ∃ values, sentValues bound = .ok values ∧
        [.text statement.id, keyNumber bounds.offset, keyNumber bounds.limit, .text bound.sql] ++
          values ++ databaseId.toList.map .text = key.parts := by
  obtain ⟨parts⟩ := key
  unfold keyOf
  simp only [bind_eq_ok, pure_eq_ok, CacheKey.mk.injEq]

theorem parts_of_same {databaseId : Option String} {statement other : MappedStatement}
    {bounds bounds' : RowBounds} {bound bound' : BoundSql} {key key' : CacheKey}
    (keyed : keyOf databaseId statement bounds bound = .ok key)
    (keyed' : keyOf databaseId other bounds' bound' = .ok key') (equal : key.same key') :
    statement.id = other.id ∧ bound.sql = bound'.sql ∧
      ∃ values values', sentValues bound = .ok values ∧ sentValues bound' = .ok values' ∧
        values.map Value.unsigned = values'.map Value.unsigned := by
  obtain ⟨values, sent, parts⟩ := keyOf_eq_ok.1 keyed
  obtain ⟨values', sent', parts'⟩ := keyOf_eq_ok.1 keyed'
  have agree := CacheKey.unsigned_eq_of_same equal
  rw [← parts, ← parts'] at agree
  simp only [List.map_append, List.map_cons, List.cons_append, List.nil_append,
    List.cons.injEq, Value.unsigned, Value.text.injEq, List.append_cancel_right_eq] at agree
  exact ⟨agree.1, agree.2.2.2.1, values, values', sent, sent', agree.2.2.2.2⟩

def writing : MappedStatement :=
  Register.statementOf "q" .select (.static ⟨"select ?", [{
    property := "v", type := .text, dbType := none, dbTypeName := none, direction := .input,
    numericScale := none, resultMap := none, handler := .builtin .text }]⟩) (some "c")

def branching : MappedStatement :=
  Register.statementOf "q" .select (.dynamic (.mixed [.static "select ",
    .choose [("written", .static "#{v,javaType=string}")] (some (.static "#{v}"))])) (some "c")

def texts (call : DriverCall) : List (Option String) :=
  call.placed.map fun placed => placed.2.text?

end Executor

end MappedSql
