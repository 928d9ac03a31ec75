import MappedSql.Template.Piece
import MappedSql.Text.Pattern
import MappedSql.Text.Blank

/-!
# Templates

A template is a tree of text, conditions, trimmed parts, loops and bindings. Text without `$` tokens
is static; a template is dynamic when any part of it depends on the parameter.
-/

namespace MappedSql

/-- A pattern that text spliced into SQL must match as a whole. -/
structure Filter where
  source : String
  pattern : Text.Pattern

def Filter.read? (source : String) : Option Filter :=
  (Text.Pattern.read? source).map fun pattern => ⟨source, pattern⟩

/-- What a trimmed part strips from the ends of its contents and puts around them. Override tokens
are upper case. -/
structure TrimStyle where
  before : Option String := none
  after : Option String := none
  startOverrides : List String := []
  endOverrides : List String := []

namespace TrimStyle

def readOverrides (overrides : String) : List String :=
  ((Text.splitAtChar '|' overrides.toList).filter (!·.isEmpty)).map fun token =>
    Text.raised (String.ofList token)

def whereClause : TrimStyle where
  before := some "WHERE"
  startOverrides := readOverrides "AND |OR |AND\n|OR\n|AND\r|OR\r|AND\t|OR\t"

def setClause : TrimStyle where
  before := some "SET"
  startOverrides := readOverrides ","
  endOverrides := readOverrides ","

end TrimStyle

/-- A loop over a collection. Without a `nullable` mark, the configuration decides whether a null
collection renders nothing or fails. -/
structure Loop where
  collection : String
  item : Option String := none
  index : Option String := none
  opening : Option String := none
  closing : Option String := none
  separator : Option String := none
  nullable : Option Bool := none

inductive Node
  | static (text : String)
  | text (raw : String) (filter : Option Filter)
  | mixed (children : List Node)
  | cond (test : String) (contents : Node)
  | choose (branches : List (String × Node)) (otherwise : Option Node)
  | trim (style : TrimStyle) (contents : Node)
  | forEach (loop : Loop) (contents : Node)
  | bind (name source : String)
  deriving Inhabited

namespace Node

def ofText (s : String) : Node :=
  if hasToken '$' s then text s none else static s

def ofList : List Node → Node
  | [node] => node
  | nodes => mixed nodes

def whereClause (contents : List Node) : Node :=
  trim .whereClause (ofList contents)

def setClause (contents : List Node) : Node :=
  trim .setClause (ofList contents)

mutual

def isDynamic : Node → Bool
  | static _ => false
  | mixed children => anyDynamic children
  | _ => true

def anyDynamic : List Node → Bool
  | [] => false
  | node :: rest => isDynamic node || anyDynamic rest

end

end Node

end MappedSql
