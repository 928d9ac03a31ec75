import MappedSql.Database.Faults
import MappedSql.Document.Statement
import MappedSql.Interception.Scripted

namespace MappedSql

def Signature.ofDocument (document : Json) : Signature :=
  match document.items with
  | [stage, method, types] =>
      ⟨(Stage.ofName? stage.text).getD .executor, method.text, types.texts⟩
  | _ => ⟨.executor, "", []⟩

def Outcome.ofDocument? : Json → Option Outcome
  | .str "unit" => some .unit
  | .str "batch" =>
      some (.batches [{ statementId := "scripted", sql := "sql", parameters := [.null] }])
  | .obj [("count", n)] => some (.count n.nat)
  | .obj [("rows", values)] => some (.rows (values.items.map Value.ofDocument))
  | _ => none

def Args.ofDocument : Json → Args
  | .bool required => .flag required
  | _ => .none

def InterceptorScript.ofDocument (document : Json) : InterceptorScript where
  fail := document.textAt? "fail"
  answer := Outcome.ofDocument? (document.member "return")
  parameter := (document.given? "param").map Value.ofDocument
  bounds := (document.given? "bounds").map RowBounds.ofDocument
  sql := document.textAt? "sql"
  additional :=
    (document.member "add").pair?.map fun (name, value) => (name.text, .ofDocument value)
  timeout := (document.given? "timeout").map Json.nat?
  args := (document.given? "args").map Args.ofDocument
  closesCursor := document.trueAt "close"
  failAfter := document.textAt? "after_fail"
  replacement := Outcome.ofDocument? (document.member "replace")

/-- An interceptor that notes its calls in the journal of a data source. A property `name` replaces
its name. -/
def Interceptor.ofDocument {τ : Type} (source : DataSource (Faulty τ)) (document : Json) :
    Interceptor (Faulty τ) :=
  let name := ((document.member "props").textAt? "name").getD (document.textAt "name")
  { name := name
    signatures := (document.itemsAt "sig").map Signature.ofDocument
    intercept := (InterceptorScript.ofDocument (document.member "act")).intercept source
      (fun method kind => Faulty.note (.before name method.text kind))
      (fun method ending => Faulty.note (.after name method.text ending)) }

def PrepareOptions.toDocument (options : PrepareOptions) : Json :=
  .obj [("timeout", .ofOption .ofNat options.timeout),
    ("fetch_size", .ofOption .ofNat options.fetchSize),
    ("result_set_type", .ofText? (options.scrolling.map Scrolling.name)),
    ("keys", .bool options.returnKeys), ("callable", .bool options.callable)]

def JournalEntry.toDocument : JournalEntry → Json
  | prepare sql options => .arr [.str "prepare", .str sql, options.toDocument]
  | registerOutput position type =>
      .arr [.str "register_out", .ofNat position, .ofText? (type.map DbType.name)]
  | before name call kind => .ofTexts [name, "before", call, kind]
  | after name call (.ok kind) => .ofTexts [name, "after", call, kind]
  | after name call (.error cause) => .ofTexts [name, "after", call, cause.kind]

end MappedSql
