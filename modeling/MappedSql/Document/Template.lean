import MappedSql.Json.Access
import MappedSql.Template.Node

namespace MappedSql

def TrimStyle.ofDocument (document : Json) : TrimStyle where
  before := document.textAt? "prefix"
  after := document.textAt? "suffix"
  startOverrides := ((document.textAt? "prefix_overrides").map readOverrides).getD []
  endOverrides := ((document.textAt? "suffix_overrides").map readOverrides).getD []

def Loop.ofDocument (document : Json) : Loop where
  collection := document.textAt "foreach"
  item := document.textAt? "item"
  index := document.textAt? "index"
  opening := document.textAt? "open"
  closing := document.textAt? "close"
  separator := document.textAt? "separator"
  nullable := (document.member "nullable").bool?

namespace Node

def ofLevels : Nat → Json → Node
  | 0, _ => mixed []
  | _ + 1, .str s => ofText s
  | depth + 1, .arr items => mixed (items.map (ofLevels depth))
  | depth + 1, document =>
      let nodes (contents : Json) : Node := ofList (contents.items.map (ofLevels depth))
      let nodesAt (name : String) : Node := nodes (document.member name)
      let branch (pair : Json) : String × Node :=
        match pair.items with
        | [test, contents] => (test.text, nodes contents)
        | _ => ("", mixed [])
      let otherwise (contents : Json) : Option Node :=
        match contents with
        | .null => none
        | contents => some (nodes contents)
      if document.has "static" then static (document.textAt "static")
      else if document.has "text" then
        text (document.textAt "text") ((document.textAt? "filter").bind Filter.read?)
      else if document.has "if" then cond (document.textAt "if") (nodesAt "then")
      else if document.has "choose" then
        choose ((document.itemsAt "choose").map branch) (otherwise (document.member "otherwise"))
      else if document.has "where" then trim .whereClause (nodesAt "where")
      else if document.has "set" then trim .setClause (nodesAt "set")
      else if document.has "trim" then trim (.ofDocument document) (nodesAt "trim")
      else if document.has "foreach" then forEach (.ofDocument document) (nodesAt "do")
      else bind (document.textAt "bind") (document.textAt "value")

def ofDocument (document : Json) : Node :=
  ofLevels document.depth document

end Node

end MappedSql
