import MappedSql.Configuration
import MappedSql.Document.Statement

namespace MappedSql

/-- A handler under a name. It binds the name, the value's text and the column type's name, and
refuses one text. -/
def ClientHandler.ofName (name : String) : ClientHandler where
  name := name
  convert := fun value dbType =>
    let column := (dbType.map DbType.name).getD "-"
    if value.text? = some "reject" then failWith (.binding "reject" s!"refused by {name}")
    else .ok (.text s!"{name}:{value.display}:{column}")
  binding_of_refused := by
    intro value dbType error refused
    split at refused <;> cases refused
    exact ⟨_, _, rfl⟩

namespace Registry

def withAliases (registry : Registry) (document : Json) : Registry :=
  ((document.itemsAt "aliases").filterMap Json.pair?).foldl
    (fun registry (name, type) => registry.registerAlias name.text (.ofDocument type)) registry

def recordsOf (document : Json) : List (String × RecordSchema) :=
  ((document.itemsAt "records").filterMap Json.pair?).map fun (name, schema) =>
    (name.text, Fields.ofDocument ValueType.ofDocument schema)

def withRecords (registry : Registry) :
    List (String × RecordSchema) → Registry × Except Error Unit
  | [] => (registry, .ok ())
  | (name, schema) :: rest =>
      match registry.registerRecord name schema with
      | .ok registry => withRecords registry rest
      | .error e => (registry, .error e)

/-- Takes the handlers of a document; one without a type is reached by its name only. -/
def withHandlers (registry : Registry) (document : Json) : Registry :=
  ((document.itemsAt "handlers").filterMap Json.pair?).foldl
    (fun registry (name, type) =>
      match type with
      | .null => registry.registerNamed (.custom (.ofName name.text))
      | type => registry.register (.ofDocument type) (.custom (.ofName name.text)))
    registry

/-- Takes aliases, record types and handlers. A record type that is refused ends this; what was
taken before it stays. -/
def withDocument (registry : Registry) (document : Json) : Registry × Except Error Unit :=
  match (registry.withAliases document).withRecords (recordsOf document) with
  | (registry, .ok ()) => (registry.withHandlers document, .ok ())
  | refused => refused

def ofDocument (document : Json) : Except Error Registry :=
  match initial.withDocument document with
  | (registry, .ok ()) => .ok registry
  | (_, .error e) => .error e

end Registry

def Cache.ofDocument? (document : Json) : Option (String × Cache) :=
  match document.items with
  | [.str "perpetual", .str id] => some (id, .empty)
  | [.str "lru", .str id, capacity] => some (id, .boundedBy capacity.nat .empty)
  | [.str "lru2", .str id, outer, inner] =>
      some (id, .boundedBy outer.nat (.boundedBy inner.nat .empty))
  | _ => none

namespace ConfigurationDraft

variable {σ : Type}

def withCaches (draft : ConfigurationDraft σ) (document : Json) : ConfigurationDraft σ :=
  ((document.itemsAt "caches").filterMap Cache.ofDocument?).foldl
    (fun draft (id, cache) => draft.withCache id cache) draft

def withMappers (draft : ConfigurationDraft σ) (document : Json) : ConfigurationDraft σ :=
  ((document.itemsAt "mappers").filterMap Json.pair?).foldl
    (fun draft (space, statements) =>
      draft.withMapper space.text (statements.items.map StatementDraft.ofDocument))
    draft

/-- A draft with all pieces of a document. Settings that cannot be read fail at once. -/
def ofDocument (readInterceptor : Json → Interceptor σ) (source : Option (DataSource σ))
    (document : Json) : Except Error (ConfigurationDraft σ) := do
  let settings ← match document.member "settings" with
    | .null => pure {}
    | settings => Settings.read settings.compact
  let draft : ConfigurationDraft σ :=
    { settings := settings
      variableTexts := Fields.ofDocument Json.text (document.member "variables")
      databaseId := document.textAt? "db"
      registry := Registry.initial.withAliases document
      source := source }
  let draft := (Registry.recordsOf document).foldl
    (fun draft (name, schema) => draft.withRecord name schema) draft
  let draft := { draft with registry := draft.registry.withHandlers document }
  let draft := draft.withCaches document
  let draft :=
    { draft with statements := (document.itemsAt "statements").map StatementDraft.ofDocument }
  let draft := draft.withMappers document
  return ((document.itemsAt "interceptors").map readInterceptor).foldl withInterceptor draft

end ConfigurationDraft

end MappedSql
