import MappedSql.Placeholder.Mapping
import MappedSql.Template.Render
import MappedSql.Template.Validation
import MappedSql.Template.Variables

/-!
# Statement sources

A static template is compiled when its statement is registered; a dynamic one is rendered anew for
every parameter. Either way an invocation yields SQL with markers and the means to find the value of
each marker.
-/

namespace MappedSql

structure CompileSetting where
  registry : Registry
  databaseId : Option String
  shrinkWhitespace : Bool

inductive SqlSource
  | static (compiled : MarkedSql)
  | dynamic (root : Node)

def SqlSource.isDynamic : SqlSource → Bool
  | static _ => false
  | dynamic _ => true

/-- The SQL of one invocation. Names bound while rendering hide those of the parameter, a parameter
that some handler binds as a whole has no fields, and a record of a registered type has only the
declared ones. -/
structure BoundSql where
  sql : String
  mappings : List ParameterMapping
  parameter : Value
  additional : Fields Value
  boundWhole : Bool
  declaredFields : Option (List String)

namespace BoundSql

def hasAdditional (bound : BoundSql) (name : String) : Bool :=
  Fields.contains bound.additional (splitRoot name).1

def setAdditional (bound : BoundSql) (name : String) (value : Value) : BoundSql :=
  { bound with additional := Fields.insert bound.additional name value }

def unresolvable (property detail : String) : Error :=
  .of (.binding ("#\x7b" ++ property ++ "\x7d")
    s!"could not resolve property `{property}`: {detail}")

def resolvePath (value : Value) (path property : String) : Except Error Value :=
  match value.lookupPath path with
  | .ok found => .ok (found.getD .null)
  | .error ⟨[], .binding _ message⟩ => .error (unresolvable property message)
  | .error e => .error e

def resolveBelow (value : Value) (path : Option String) (property : String) :
    Except Error Value :=
  match path with
  | none => .ok value
  | some path => resolvePath value path property

def undeclared (fields : Option (List String)) (root : String) : Bool :=
  fields.any fun names => !names.contains root

def propertyValue (bound : BoundSql) (property : String) : Except Error Value :=
  let (root, path) := splitRoot property
  match Fields.get? bound.additional root with
  | some value => resolveBelow value path property
  | none =>
      if root = parameterName then resolveBelow bound.parameter path property
      else if bound.parameter.isNull then .ok .null
      else if bound.boundWhole then .ok bound.parameter
      else if undeclared bound.declaredFields root then
        .error (unresolvable property s!"no property `{root}` on {bound.parameter.kind.name}")
      else resolvePath bound.parameter property property

def parameterValue (bound : BoundSql) (mapping : ParameterMapping) : Except Error Value :=
  bound.propertyValue mapping.property

def parameterValues (bound : BoundSql) : Except Error (List Value) :=
  bound.mappings.mapM bound.parameterValue

end BoundSql

def splitWords (cs : List Char) : List (List Char) :=
  let rec go (word : List Char) : List Char → List (List Char)
    | [] => if word.isEmpty then [] else [word.reverse]
    | c :: rest =>
        if Text.isBlank c then (if word.isEmpty then [] else [word.reverse]) ++ go [] rest
        else go (c :: word) rest
  go [] cs

/-- The rendered text without blanks around it, or with single spaces in place of all blanks. -/
def finishSql (sql : String) (shrinkWhitespace : Bool) : String :=
  if shrinkWhitespace then
    String.intercalate " " ((splitWords sql.toList).map String.ofList)
  else Text.trimmed sql

def renderFor (root : Node) (parameter : Value) (databaseId : Option String) :
    Except Error Bool × Context :=
  root.render (Context.initial parameter databaseId)

namespace SqlSource

def compileStatic (root : Node) (parameterType : ValueType) (setting : CompileSetting) :
    Except Error SqlSource := do
  let (rendered, context) := renderFor root .null setting.databaseId
  let _ ← rendered
  let compiled ← MarkedSql.ofText ⟨parameterType, [], setting.registry⟩
    (finishSql context.sql setting.shrinkWhitespace)
  return .static compiled

def declaredFields (registry : Registry) : Value → Option (List String)
  | .record typeName _ => (registry.schema? typeName).map Fields.names
  | _ => none

def bind (parameter : Value) (setting : CompileSetting) (marked : MarkedSql)
    (additional : Fields Value) : BoundSql where
  sql := marked.sql
  mappings := marked.mappings
  parameter := parameter
  additional := additional
  boundWhole := !parameter.isNull && setting.registry.hasHandler parameter.kind
  declaredFields := declaredFields setting.registry parameter

def boundSql (source : SqlSource) (parameter : Value) (setting : CompileSetting) :
    Except Error BoundSql := do
  match source with
  | static compiled => return bind parameter setting compiled []
  | dynamic root =>
      let (rendered, context) := renderFor root parameter setting.databaseId
      let _ ← rendered
      let compiled ← MarkedSql.ofText ⟨parameter.kind, context.bindings, setting.registry⟩
        (finishSql context.sql setting.shrinkWhitespace)
      return bind parameter setting compiled context.bindings

end SqlSource

structure TemplateRules where
  filter : Option Filter := none
  nullableLoops : Bool := false

namespace TemplateRules

def withFilter (rules : TemplateRules) (pattern : String) : Except Error TemplateRules :=
  match Filter.read? pattern with
  | some filter => .ok { rules with filter := some filter }
  | none => failWith (.config "invalid injection filter")

def createSource (rules : TemplateRules) (template : Node) (parameterType : ValueType)
    (variableTexts : Fields String) (setting : CompileSetting) : Except Error SqlSource := do
  let root :=
    (template.substituteVariables variableTexts).withDefaults rules.nullableLoops rules.filter
  root.validate
  if root.isDynamic then return .dynamic root
  else SqlSource.compileStatic root parameterType setting

end TemplateRules

end MappedSql
