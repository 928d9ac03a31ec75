import MappedSql.Document.Template
import MappedSql.Document.Value
import MappedSql.Statement.Mapped

namespace MappedSql

def Json.pair? (document : Json) : Option (Json × Json) :=
  match document.items with
  | [first, second] => some (first, second)
  | _ => none

def RowBounds.ofDocument (document : Json) : RowBounds :=
  match document.pair? with
  | some (offset, limit) => ⟨offset.nat, limit.nat?.getD noLimit⟩
  | none => .unbounded

def RowMapper.ofDocument : Json → RowMapper
  | .str "scalar" => .scalar
  | .obj [("record", .str name)] => .record name
  | _ => .map

namespace Fields

def ofDocument {α : Type} (read : Json → α) (document : Json) : Fields α :=
  ofList (document.members.map fun (name, value) => (name, read value))

def toDocument {α : Type} (write : α → Json) (fields : Fields α) : Json :=
  .obj (fields.map fun (name, value) => (name, write value))

end Fields

def StatementDraft.ofDocument (document : Json) : StatementDraft where
  id := document.textAt "id"
  command := ((document.textAt? "kind").bind Command.ofName?).getD .select
  template := .ofDocument (document.member "sql")
  kind := ((document.textAt? "type").bind StatementKind.ofName?).getD .prepared
  parameterType := document.textAt? "param"
  cache := document.textAt? "cache"
  useCache := (document.member "use_cache").bool?
  flushCache := (document.member "flush_cache").bool?
  timeout := document.natAt? "timeout"
  fetchSize := document.natAt? "fetch_size"
  scrolling := (document.textAt? "result_set_type").bind Scrolling.ofName?
  keys := ⟨document.textAt? "key"⟩
  mapper := .ofDocument (document.member "mapper")
  databaseId := document.textAt? "db"

def MappedStatement.toDocument (statement : MappedStatement) : Json :=
  .obj [("id", .str statement.id), ("command", .str statement.command.name),
    ("statement_type", .str statement.kind.name), ("dynamic", .bool statement.source.isDynamic),
    ("parameter_type", statement.parameterType.toDocument), ("cache", .ofText? statement.cache),
    ("use_cache", .bool statement.useCache), ("flush_cache", .bool statement.flushCache),
    ("timeout", .ofOption .ofNat statement.timeout),
    ("fetch_size", .ofOption .ofNat statement.fetchSize), ("keys", .bool statement.keys.isEnabled),
    ("select", .bool statement.isSelect), ("db", .ofText? statement.databaseId)]

end MappedSql
