import MappedSql.Value.Basic

namespace MappedSql

inductive Step
  | field (name : String)
  | index (position : Nat)
  deriving DecidableEq, Repr

namespace Step

def isIndex : Step → Bool
  | index _ => true
  | field _ => false

def isQuote (c : Char) : Bool :=
  c == '\'' || c == '"'

/-- The step that the text between brackets names: an index if it is a numeral, else a field. -/
def ofKey? (key : List Char) : Option Step :=
  let inner := Text.trimBoth isQuote (Text.trim key)
  match Number.readIndex? inner with
  | some position => some (index position)
  | none => if inner.isEmpty then none else some (field (String.ofList inner))

end Step

namespace Path

def pendingStep (pending : List Char) : List Step :=
  if pending.isEmpty then [] else [.field (String.ofList pending.reverse)]

mutual

/-- Reads steps from a place outside brackets. `pending` is the name being read, backwards, and
`afterIndex` tells whether the step before it is an index. -/
def readSteps? (afterIndex : Bool) (pending : List Char) : List Char → Option (List Step)
  | [] => some (pendingStep pending)
  | c :: rest =>
      if c = '.' then
        if !pending.isEmpty then (readSteps? false [] rest).map (pendingStep pending ++ ·)
        else if afterIndex then readSteps? true [] rest
        else none
      else if c = '[' then (readKey? [] rest).map (pendingStep pending ++ ·)
      else if Text.isBlank c then none
      else readSteps? afterIndex (c :: pending) rest

def readKey? (key : List Char) : List Char → Option (List Step)
  | [] => none
  | c :: rest =>
      if c = ']' then
        match Step.ofKey? key.reverse with
        | some step => (readSteps? step.isIndex [] rest).map (step :: ·)
        | none => none
      else readKey? (c :: key) rest

end

def malformed (path : String) : Error :=
  .of (.expression s!"malformed property path `{path}`")

def parse (path : String) : Except Error (List Step) :=
  match readSteps? false [] (Text.trim path.toList) with
  | some (step :: steps) => .ok (step :: steps)
  | _ => .error (malformed path)

end Path

namespace Value

def child? (value : Value) (step : Step) : Option Value :=
  match value, step with
  | list items, .index position => items[position]?
  | map fields, .index position | record _ fields, .index position =>
      Fields.get? fields (toString position)
  | map fields, .field name | record _ fields, .field name => Fields.get? fields name
  | _, _ => none

def descendant? (value : Value) : List Step → Option Value
  | [] => some value
  | step :: steps => (value.child? step).bind fun next => next.descendant? steps

def getPath? (value : Value) (path : String) : Option Value :=
  match Path.parse path with
  | .ok steps => value.descendant? steps
  | .error _ => none

def follow (value : Value) (path : String) : List Step → Except Error (Option Value)
  | [] => .ok (some value)
  | step :: steps =>
      if value.isNull then .ok none
      else if !value.isComposite then
        failWith (.binding path s!"cannot read a property of a {value.kind.name} value")
      else
        match value.child? step with
        | some next => next.follow path steps
        | none => .ok none

def lookupPath (value : Value) (path : String) : Except Error (Option Value) := do
  value.follow path (← Path.parse path)

def assignLast (target : Value) (path : String) (step : Step) (value : Value) :
    Except Error Value :=
  let refused := s!"cannot assign `{path}` on a {target.kind.name} value"
  match target, step with
  | list items, .index position =>
      if position < items.length then .ok (list (items.set position value))
      else failWith (.execution refused)
  | map fields, .field name => .ok (map (Fields.insert fields name value))
  | record typeName fields, .field name => .ok (record typeName (Fields.insert fields name value))
  | _, _ => failWith (.execution refused)

def passage? (target : Value) (step : Step) : Option Value :=
  match target, step with
  | list items, .index position => items[position]?
  | map fields, .field name | record _ fields, .field name => Fields.get? fields name
  | _, _ => none

def replaceChild (target : Value) (step : Step) (child : Value) : Value :=
  match target, step with
  | list items, .index position => list (items.set position child)
  | map fields, .field name => map (Fields.insert fields name child)
  | record typeName fields, .field name => record typeName (Fields.insert fields name child)
  | _, _ => target

def assign (target : Value) (path : String) (value : Value) : List Step → Except Error Value
  | [] => failWith (.execution "cannot assign to an empty property path")
  | [step] => target.assignLast path step value
  | step :: next :: steps =>
      match target.passage? step with
      | some child => do
          return target.replaceChild step (← child.assign path value (next :: steps))
      | none => failWith (.execution s!"no property `{path}` to assign")

def setPath (target : Value) (path : String) (value : Value) : Except Error Value := do
  target.assign path value (← Path.parse path)

end Value

end MappedSql
