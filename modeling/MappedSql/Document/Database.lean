import MappedSql.Database.Recording
import MappedSql.Document.Statement
import MappedSql.Storage.Source

namespace MappedSql

def ScriptedRows.ofDocument? (document : Json) : Option ScriptedRows :=
  match document.items with
  | [fragment, columns, rows] =>
      some ⟨fragment.text, columns.texts,
        rows.items.map fun row => row.items.map Value.ofDocument⟩
  | _ => none

def Script.ofDocument (document : Json) : Script where
  answers := (document.itemsAt "rows").filterMap ScriptedRows.ofDocument?
  updateCount := (document.natAt? "update_count").getD 1
  failing := (document.member "fail_on").texts
  outputs := ((document.itemsAt "out").filterMap Json.pair?).map fun (position, value) =>
    (position.nat, .ofDocument value)

def StoredValue.toDocument : StoredValue → Json
  | .null => .null
  | .integer value => .obj [("integer", .int value.toInt)]
  | .real value => .obj [("real", .str value.toText)]
  | .text value => .obj [("text", .str value)]
  | .blob bytes => .obj [("blob", .str (Number.hexBytes bytes))]

def StorageOptions.ofDocument (document : Json) : StorageOptions where
  path := document.textAt? "path"
  busyTimeout := (document.given? "busy_ms").elim (some 5000) Json.nat?
  writeAhead := ((document.member "wal").bool?).getD true

def StorageOptions.toDocument (options : StorageOptions) : Json :=
  .obj [("busy_ms", .ofOption .ofNat options.busyTimeout), ("wal", .bool options.writeAhead)]

def Storage.ofDocument (document : Json) : Except Error Storage := do
  let storage ← Storage.create (.ofDocument document)
  match document.textAt? "script" with
  | none => return storage
  | some text =>
      let (result, storage) := (Storage.script text).run storage
      result
      return storage

end MappedSql
