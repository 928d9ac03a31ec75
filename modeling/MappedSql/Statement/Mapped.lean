import MappedSql.Database.Basic
import MappedSql.Rows.Mapper
import MappedSql.Source
import MappedSql.Statement.Keys

namespace MappedSql

inductive Command
  | select
  | insert
  | update
  | delete
  | flush
  deriving DecidableEq, Repr

namespace Command

def all : List Command :=
  [select, insert, update, delete, flush]

def name : Command → String
  | select => "select"
  | insert => "insert"
  | update => "update"
  | delete => "delete"
  | flush => "flush"

def ofName? (name : String) : Option Command :=
  all.find? (·.name == name)

end Command

/-- How a statement reaches the database: as plain SQL, with parameters, or as a call whose output
parameters are read back. -/
inductive StatementKind
  | plain
  | prepared
  | callable
  deriving DecidableEq, Repr

namespace StatementKind

def all : List StatementKind :=
  [plain, prepared, callable]

def name : StatementKind → String
  | plain => "statement"
  | prepared => "prepared"
  | callable => "callable"

def ofName? (name : String) : Option StatementKind :=
  all.find? (·.name == name)

end StatementKind

structure MappedStatement where
  id : String
  command : Command
  kind : StatementKind
  source : SqlSource
  parameterType : ValueType
  cache : Option String
  useCache : Bool
  flushCache : Bool
  timeout : Option Nat
  fetchSize : Option Nat
  scrolling : Option Scrolling
  keys : KeyGenerator
  mapper : RowMapper
  databaseId : Option String

namespace MappedStatement

def boundSql (statement : MappedStatement) (parameter : Value) (setting : CompileSetting) :
    Except Error BoundSql :=
  withContext (fun _ => s!"statement `{statement.id}`")
    (statement.source.boundSql parameter setting)

def isSelect (statement : MappedStatement) : Bool :=
  statement.command == .select

def isCallable (statement : MappedStatement) : Bool :=
  statement.kind == .callable

end MappedStatement

structure StatementDraft where
  id : String
  command : Command := .select
  template : Node
  kind : StatementKind := .prepared
  parameterType : Option String := none
  cache : Option String := none
  useCache : Option Bool := none
  flushCache : Option Bool := none
  timeout : Option Nat := none
  fetchSize : Option Nat := none
  scrolling : Option Scrolling := none
  keys : KeyGenerator := {}
  mapper : RowMapper := .map
  databaseId : Option String := none

namespace StatementDraft

def within (draft : StatementDraft) (space : String) : StatementDraft :=
  { draft with id := s!"{space}.{draft.id}" }

def resolveParameterType (draft : StatementDraft) (registry : Registry) :
    Except Error ValueType :=
  match draft.parameterType with
  | some name => registry.resolve name
  | none => .ok .any

def checkCache (draft : StatementDraft) (caches : List String) : Except Error Unit :=
  match draft.cache with
  | some id =>
      if caches.contains id then .ok ()
      else failWith (.config s!"no cache named `{id}`")
  | none => .ok ()

def compile (draft : StatementDraft) (rules : TemplateRules) (variableTexts : Fields String)
    (setting : CompileSetting) (caches : List String) : Except Error MappedStatement :=
  withContext (fun _ => s!"statement `{draft.id}`") do
    let parameterType ← draft.resolveParameterType setting.registry
    draft.checkCache caches
    let source ← rules.createSource draft.template parameterType variableTexts setting
    return {
      id := draft.id
      command := draft.command
      kind := draft.kind
      source := source
      parameterType := parameterType
      cache := draft.cache
      useCache := draft.useCache.getD (draft.command == .select)
      flushCache := draft.flushCache.getD (draft.command != .select)
      timeout := draft.timeout
      fetchSize := draft.fetchSize
      scrolling := draft.scrolling
      keys := draft.keys
      mapper := draft.mapper
      databaseId := draft.databaseId }

/-- Whether a declaration counts for a database: one that names a database counts for that one. -/
def applies (databaseId : Option String) (draft : StatementDraft) : Bool :=
  draft.databaseId.isNone || draft.databaseId == databaseId

def isSpecific (draft : StatementDraft) : Bool :=
  draft.databaseId.isSome

/-- Takes a declaration into a selection. Of two declarations of one id the one that names the
database counts; two of a kind are a mistake. -/
def choose (selected : Fields StatementDraft) (draft : StatementDraft) :
    Except Error (Fields StatementDraft) :=
  match Fields.get? selected draft.id with
  | none => .ok (Fields.insert selected draft.id draft)
  | some present =>
      if present.isSpecific == draft.isSpecific then
        failWith (.config
          s!"Mapped Statements collection already contains value for {draft.id}")
      else if draft.isSpecific then .ok (Fields.insert selected draft.id draft)
      else .ok selected

def chooseAll (databaseId : Option String) (selected : Fields StatementDraft) :
    List StatementDraft → Except Error (Fields StatementDraft)
  | [] => .ok selected
  | draft :: rest => do
      if draft.applies databaseId then
        chooseAll databaseId (← choose selected draft) rest
      else chooseAll databaseId selected rest

def select (drafts : List StatementDraft) (databaseId : Option String) :
    Except Error (Fields StatementDraft) :=
  chooseAll databaseId [] drafts

end StatementDraft

end MappedSql
