import MappedSql.Json.Reader
import MappedSql.Error
import MappedSql.Marker

namespace MappedSql

/-- How a session runs statements: each on its own, reusing prepared ones, or gathering updates. -/
inductive ExecutorKind
  | simple
  | reuse
  | batch
  deriving DecidableEq, Repr

def ExecutorKind.name : ExecutorKind → String
  | simple => "simple"
  | reuse => "reuse"
  | batch => "batch"

def ExecutorKind.ofName? (s : String) (ignoreCase : Bool) : Option ExecutorKind :=
  [simple, reuse, batch].find? fun kind =>
    if ignoreCase then Text.equalIgnoringCase kind.name s else kind.name == s

inductive LocalScope
  | session
  | statement
  deriving DecidableEq, Repr

def LocalScope.name : LocalScope → String
  | session => "session"
  | statement => "statement"

def MarkerStyle.name : MarkerStyle → String
  | plain => "plain"
  | question => "sqlite"
  | dollar => "postgres"

structure Settings where
  cacheEnabled : Bool := true
  executor : ExecutorKind := .simple
  statementTimeout : Option Nat := none
  fetchSize : Option Nat := none
  localScope : LocalScope := .session
  markerStyle : MarkerStyle := .plain
  shrinkWhitespace : Bool := false
  nullableLoops : Bool := false
  injectionFilter : Option String := none
  variableTexts : Fields String := []

namespace Settings

def readBool? : Json → Option Bool
  | .bool value => some value
  | _ => none

def readText? : Json → Option String
  | .str value => some value
  | _ => none

def readNat? (bound : Nat) : Json → Option Nat
  | .int value => if 0 ≤ value && value < bound then some value.toNat else none
  | _ => none

def optional {α : Type} (read : Json → Option α) : Json → Option (Option α)
  | .null => some none
  | value => (read value).map some

/-- Reads one of several words, given as a string or as the name of a member that is null. -/
def readWord? {α : Type} (words : List (String × α)) : Json → Option α
  | .str word | .obj [(word, .null)] => words.lookup word
  | _ => none

def readTexts? : List (String × Json) → Option (List (String × String))
  | [] => some []
  | (name, value) :: rest => do
      let text ← readText? value
      return (name, text) :: (← readTexts? rest)

def readVariables? : Json → Option (Fields String)
  | .obj members => (readTexts? members).map Fields.ofList
  | _ => none

def names : List String :=
  ["cache_enabled", "default_executor_type", "default_statement_timeout", "default_fetch_size",
    "local_cache_scope", "placeholder_style", "shrink_whitespace", "nullable_on_for_each",
    "injection_filter", "variables"]

def withMember? (settings : Settings) (name : String) (value : Json) : Option Settings :=
  match name with
  | "cache_enabled" => (readBool? value).map ({ settings with cacheEnabled := · })
  | "default_executor_type" =>
      (readWord? [("simple", .simple), ("reuse", .reuse), ("batch", .batch)] value).map
        ({ settings with executor := · })
  | "default_statement_timeout" =>
      (optional (readNat? (Nat.pow 2 64)) value).map ({ settings with statementTimeout := · })
  | "default_fetch_size" =>
      (optional (readNat? (Nat.pow 2 32)) value).map ({ settings with fetchSize := · })
  | "local_cache_scope" =>
      (readWord? [("session", .session), ("statement", .statement)] value).map
        ({ settings with localScope := · })
  | "placeholder_style" =>
      (readWord? [("plain", .plain), ("sqlite", .question), ("postgres", .dollar)] value).map
        ({ settings with markerStyle := · })
  | "shrink_whitespace" => (readBool? value).map ({ settings with shrinkWhitespace := · })
  | "nullable_on_for_each" => (readBool? value).map ({ settings with nullableLoops := · })
  | "injection_filter" =>
      (optional readText? value).map ({ settings with injectionFilter := · })
  | "variables" => (readVariables? value).map ({ settings with variableTexts := · })
  | _ => some settings

def withMembers? (settings : Settings) : List (String × Json) → Option Settings
  | [] => some settings
  | (name, value) :: rest => do (← settings.withMember? name value).withMembers? rest

def repeatsName : List (String × Json) → Bool
  | [] => false
  | (name, _) :: rest =>
      (names.contains name && rest.any (·.1 == name)) || repeatsName rest

def ofDocument? : Json → Option Settings
  | .obj members => if repeatsName members then none else ({} : Settings).withMembers? members
  | .arr items =>
      if items.length ≤ names.length then ({} : Settings).withMembers? (names.zip items) else none
  | _ => none

def read (s : String) : Except Error Settings :=
  match (Json.readAsWritten? s).bind ofDocument? with
  | some settings => .ok settings
  | none => failWith (.config "invalid settings")

end Settings

end MappedSql
