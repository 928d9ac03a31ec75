import MappedSql.Template.Context
import MappedSql.Template.Node

namespace MappedSql.Loop

def roundName (name : String) (unique : Nat) : String :=
  s!"__frch_{name}_{unique}"

/-- What follows a variable at the start of a placeholder, if the placeholder begins with it. -/
def afterVariable? (content : List Char) (name : String) : Option (List Char) :=
  let content := Text.trimStart content
  if name.toList.isPrefixOf content then
    let rest := content.drop name.length
    match rest with
    | [] => some []
    | c :: _ =>
        if c == '.' || c == ',' || c == ':' || c == '[' || Text.isBlank c then some rest else none
  else none

def names (loop : Loop) : List String :=
  loop.item.toList ++ loop.index.toList

/-- The content of a placeholder with a leading variable replaced by its name of the round. -/
def renameVariable (loop : Loop) (unique : Nat) (content : String) : String :=
  let renamed? := loop.names.findSome? fun name =>
    (afterVariable? content.toList name).map fun rest =>
      roundName name unique ++ String.ofList rest
  renamed?.getD content

def escapeBraces (content : String) : String :=
  String.ofList (content.toList.flatMap fun c => if c = '}' then ['\\', '}'] else [c])

def renamePlaceholders (loop : Loop) (unique : Nat) (fragment : String) : String :=
  Id.run <| replaceTokens '#' fragment fun content =>
    "#\x7b" ++ escapeBraces (loop.renameVariable unique content) ++ "\x7d"

def listEntries (items : List Value) : List (Value × Value) :=
  items.zipIdx.map fun (item, position) => (.int (Int64.ofNat position), item)

def fieldEntries (fields : Fields Value) : List (Value × Value) :=
  fields.map fun (name, value) => (.text name, value)

def notIterable (loop : Loop) (value : Value) : Error :=
  .of (.binding loop.collection s!"a {value.kind.name} value is not iterable")

/-- The indexes and items of a collection; nothing for a null collection that may be null. -/
def entriesOf (loop : Loop) : Value → Except Error (Option (List (Value × Value)))
  | .null =>
      if loop.nullable.getD false then .ok none
      else failWith (.binding loop.collection "the collection expression evaluated to null")
  | .list items => .ok (some (listEntries items))
  | .map fields | .record _ fields => .ok (some (fieldEntries fields))
  | .json (.arr items) => .ok (some (listEntries (Value.ofJsonItems items)))
  | .json (.obj fields) => .ok (some (fieldEntries (Value.ofJsonFields fields)))
  | other => .error (loop.notIterable other)

def entries (loop : Loop) : Render (Option (List (Value × Value))) := do
  let value ← Render.evaluate loop.collection fun e =>
    e.inContext s!"foreach collection `{loop.collection}`"
  match loop.entriesOf value with
  | .ok entries => return entries
  | .error e => throw e

def bindVariable (name : Option String) (value : Value) (unique : Nat) (context : Context) :
    Context :=
  match name with
  | some name => (context.bind (roundName name unique) value).bind name value
  | none => context

def round (loop : Loop) (contents : Render Bool) (entry : Value × Value) : Render String := do
  let unique := (← get).unique
  modify fun context => { context with unique := unique + 1 }
  modify (bindVariable loop.index entry.1 unique)
  modify (bindVariable loop.item entry.2 unique)
  let (_, fragment) ← Render.isolated contents
  return Text.trimmed (loop.renamePlaceholders unique fragment)

def join (loop : Loop) (fragments : List String) : String :=
  String.intercalate (loop.separator.getD "") (fragments.filter (!·.isEmpty))

def rounds (loop : Loop) (contents : Render Bool) : List (Value × Value) → Render (List String)
  | [] => return []
  | entry :: rest => do
      let fragment ← loop.round contents entry
      return fragment :: (← loop.rounds contents rest)

def restoreVariable (name : Option String) (before : Context) (context : Context) : Context :=
  match name with
  | some name => context.restore name (Fields.get? before.bindings name)
  | none => context

def restoring (loop : Loop) (body : Render (List String)) : Render (List String) := fun context =>
  let (result, after) := body context
  (result, restoreVariable loop.index context (restoreVariable loop.item context after))

def render (loop : Loop) (contents : Render Bool) : Render Bool := do
  match ← loop.entries with
  | none => return true
  | some entries =>
      let fragments ← loop.restoring (loop.rounds contents entries)
      modify fun context =>
        context.append (loop.opening.getD "" ++ loop.join fragments ++ loop.closing.getD "")
      return true

end MappedSql.Loop
