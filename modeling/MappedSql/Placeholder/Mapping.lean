import MappedSql.Placeholder.Basic
import MappedSql.Registry
import MappedSql.Value.Path

namespace MappedSql

structure ParameterMapping where
  property : String
  type : ValueType
  dbType : Option DbType
  dbTypeName : Option String
  direction : Direction
  numericScale : Option Nat
  resultMap : Option String
  handler : TypeHandler

/-- The root of a property and the path below it: `a.b[0]` is `b[0]` below `a`, and `a[1]` is `[1]`
below `a`. -/
def splitRoot (property : String) : String × Option String :=
  let isRootChar (c : Char) := c != '.' && c != '['
  let root := String.ofList (property.toList.takeWhile isRootChar)
  match property.toList.dropWhile isRootChar with
  | [] => (root, none)
  | '.' :: rest => (root, some (String.ofList rest))
  | rest => (root, some (String.ofList rest))

namespace ParameterMapping

structure Setting where
  parameterType : ValueType
  bindings : Fields Value
  registry : Registry

def propertyType (setting : Setting) (property : String) (dbType : Option DbType) : ValueType :=
  let (root, path) := splitRoot property
  match Fields.get? setting.bindings root with
  | some bound =>
      match path with
      | none => bound.kind
      | some path => ((bound.getPath? path).map Value.kind).getD .any
  | none =>
      if setting.registry.hasHandler setting.parameterType then setting.parameterType
      else if dbType = some .cursor then .cursor
      else if property = "" || setting.parameterType = .map then .any
      else (setting.registry.propertyType? setting.parameterType property).getD .any

def readScale (content value : String) : Except Error Nat :=
  match (Number.readIndex? value.toList).filter (· < Nat.pow 2 32) with
  | some scale => .ok scale
  | none =>
      failWith (.config
        (s!"numericScale `{value}` in " ++ "#\x7b" ++ content ++
          "\x7d is not a non-negative integer"))

/-- A mapping under construction, with the name of a handler that an attribute asks for. -/
structure Draft where
  type : ValueType
  dbTypeName : Option String := none
  direction : Direction := .input
  numericScale : Option Nat := none
  resultMap : Option String := none
  handlerName : Option String := none

def Draft.withAttribute (registry : Registry) (content : String) (draft : Draft)
    (pair : String × String) : Except Error Draft := do
  let (name, value) := pair
  match name with
  | "javaType" => return { draft with type := ← registry.resolve value }
  | "mode" => return { draft with direction := ← Direction.ofName value }
  | "numericScale" => return { draft with numericScale := some (← readScale content value) }
  | "resultMap" => return { draft with resultMap := some value }
  | "typeHandler" => return { draft with handlerName := some value }
  | "jdbcTypeName" => return { draft with dbTypeName := some value }
  | _ => return draft

def Draft.withAttributes (registry : Registry) (content : String) (draft : Draft) :
    List (String × String) → Except Error Draft
  | [] => .ok draft
  | pair :: rest => do
      (← draft.withAttribute registry content pair).withAttributes registry content rest

def dbTypeOf (placeholder : Placeholder) : Except Error (Option DbType) :=
  match placeholder.attribute? "jdbcType" with
  | some name => (DbType.ofName name).map some
  | none => .ok none

def Draft.finish (draft : Draft) (registry : Registry) (property : String)
    (dbType : Option DbType) : Except Error ParameterMapping := do
  if draft.type = .cursor && draft.resultMap.isNone then
    failWith (.config
      s!"Missing resultMap in property '{property}'. Cursor parameters require a resultMap.")
  let handler ← match draft.handlerName with
    | some name => registry.namedHandler name
    | none => pure (registry.handler draft.type dbType)
  return {
    property := property
    type := draft.type
    dbType := dbType
    dbTypeName := draft.dbTypeName
    direction := draft.direction
    numericScale := draft.numericScale
    resultMap := draft.resultMap
    handler := handler }

def ofPlaceholder (setting : Setting) (content : String) : Except Error ParameterMapping := do
  let placeholder ← Placeholder.parse content
  placeholder.check content
  let property := placeholder.property.getD ""
  let dbType ← dbTypeOf placeholder
  let draft : Draft := { type := propertyType setting property dbType }
  let draft ← draft.withAttributes setting.registry content placeholder.attributes
  draft.finish setting.registry property dbType

end ParameterMapping

/-- A text whose placeholders became markers, with their mappings in order. -/
structure MarkedSql where
  sql : String
  mappings : List ParameterMapping

def MarkedSql.ofText (setting : ParameterMapping.Setting) (sql : String) :
    Except Error MarkedSql := do
  let pieces := Piece.ofText '#' sql
  let mappings ← (Piece.contents pieces).mapM (ParameterMapping.ofPlaceholder setting)
  return ⟨Id.run (Piece.replaceWith (fun _ => "?") pieces), mappings⟩

end MappedSql
