import MappedSql.Value.Coercion

namespace MappedSql

/-- A handler that a client supplies. Asked to bind a value for a column type, it sets this one
parameter to what it makes of the value, or refuses the value with a binding error. -/
structure ClientHandler where
  name : String
  convert : Value → Option DbType → Except Error Value
  binding_of_refused : ∀ {value dbType error}, convert value dbType = .error error →
    ∃ fragment message, error.cause = .binding fragment message

/-- How a value is bound: converted to a type, or as a client has it. -/
inductive TypeHandler
  | builtin (target : ValueType)
  | custom (handler : ClientHandler)

namespace TypeHandler

def name : TypeHandler → String
  | builtin target => target.name
  | custom handler => handler.name

def bind (handler : TypeHandler) (value : Value) (dbType : Option DbType) : Except Error Value :=
  match handler with
  | builtin target => value.coerce target
  | custom handler => handler.convert value dbType

theorem binding_of_bind_eq_error {handler : TypeHandler} {value : Value} {dbType : Option DbType}
    {error : Error} (refused : handler.bind value dbType = .error error) :
    ∃ fragment message, error.cause = .binding fragment message := by
  cases handler with
  | custom handler => exact handler.binding_of_refused refused
  | builtin target =>
      simp only [bind, Value.coerce] at refused
      split at refused
      · cases refused
      · split at refused
        · cases refused
        · cases refused
          exact ⟨_, _, rfl⟩

end TypeHandler

abbrev RecordSchema := Fields ValueType

structure Registry where
  byType : List (ValueType × TypeHandler)
  byName : Fields TypeHandler
  aliases : Fields ValueType
  records : Fields RecordSchema

namespace Registry

def register (registry : Registry) (type : ValueType) (handler : TypeHandler) : Registry :=
  { registry with
    byType := (type, handler) :: registry.byType
    byName := Fields.insert registry.byName handler.name handler }

def registerNamed (registry : Registry) (handler : TypeHandler) : Registry :=
  { registry with byName := Fields.insert registry.byName handler.name handler }

def registerAlias (registry : Registry) (name : String) (type : ValueType) : Registry :=
  { registry with aliases := Fields.insert registry.aliases (Text.lowered name) type }

def registerRecord (registry : Registry) (typeName : String) (schema : RecordSchema) :
    Except Error Registry :=
  if Fields.contains registry.records typeName then
    failWith (.config s!"record type `{typeName}` is already registered")
  else .ok { registry with records := Fields.insert registry.records typeName schema }

def builtinTypes : List ValueType :=
  [.any, .bool, .int, .float, .text, .timestamp, .json, .blob]

def initial : Registry :=
  builtinTypes.foldl (fun registry type => registry.register type (.builtin type))
    ⟨[], [], [], []⟩

def handlerFor? (registry : Registry) (type : ValueType) : Option TypeHandler :=
  registry.byType.lookup type

def hasHandler (registry : Registry) (type : ValueType) : Bool :=
  (registry.handlerFor? type).isSome

/-- The handler of a type, else that of the column type, else the one that goes by the value. -/
def handler (registry : Registry) (type : ValueType) (dbType : Option DbType) : TypeHandler :=
  ((registry.handlerFor? type).or
    (dbType.bind fun dbType => registry.handlerFor? dbType.defaultValueType)).getD (.builtin .any)

def namedHandler (registry : Registry) (name : String) : Except Error TypeHandler :=
  match Fields.get? registry.byName name with
  | some handler => .ok handler
  | none => failWith (.config s!"unknown type handler `{name}`")

def resolve (registry : Registry) (name : String) : Except Error ValueType :=
  let trimmed := Text.trimmed name
  let key := Text.lowered trimmed
  match (Fields.get? registry.aliases key).or (ValueType.ofAlias? key) with
  | some type => .ok type
  | none =>
      if Fields.contains registry.records trimmed then .ok (.record trimmed)
      else failWith (.config s!"could not resolve type alias `{name}`")

def schema? (registry : Registry) (typeName : String) : Option RecordSchema :=
  Fields.get? registry.records typeName

/-- The declared type of one part of a property path, `name` or `name[…]`; elements have none. -/
def segmentType? (registry : Registry) (owner : ValueType) (segment : List Char) :
    Option ValueType :=
  match owner with
  | .record typeName => do
      let schema ← registry.schema? typeName
      let type ← Fields.get? schema (String.ofList (segment.takeWhile (· != '[')))
      if segment.contains '[' then some .any else some type
  | _ => none

def propertyType? (registry : Registry) (owner : ValueType) (property : String) :
    Option ValueType :=
  (Text.splitAtChar '.' property.toList).foldlM registry.segmentType? owner

end Registry

end MappedSql
