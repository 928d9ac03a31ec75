import MappedSql.Interception.Chain
import MappedSql.Settings

/-!
# Configurations

A configuration is drafted piece by piece and then built: the statements that count for the database
are compiled, and nothing changes afterwards. The first piece that was refused makes building fail.
-/

namespace MappedSql

structure Configuration (σ : Type) where
  settings : Settings
  databaseId : Option String
  registry : Registry
  rules : TemplateRules
  statements : Fields MappedStatement
  mappers : Fields Unit
  chain : Chain σ
  source : Option (DataSource σ)

namespace Configuration

variable {σ : Type} (configuration : Configuration σ)

def setting : CompileSetting :=
  ⟨configuration.registry, configuration.databaseId, configuration.settings.shrinkWhitespace⟩

def statement (id : String) : Except Error MappedStatement :=
  match Fields.get? configuration.statements id with
  | some statement => .ok statement
  | none =>
      failWith (.config s!"Mapped Statements collection does not contain value for {id}")

def hasMapper (space : String) : Bool :=
  Fields.contains configuration.mappers space

end Configuration

structure ConfigurationDraft (σ : Type) where
  settings : Settings := {}
  variableTexts : Fields String := []
  databaseId : Option String := none
  registry : Registry := Registry.initial
  caches : SharedCaches := []
  statements : List StatementDraft := []
  mappers : Fields Unit := []
  chain : Chain σ := []
  source : Option (DataSource σ) := none
  refusal : Option Error := none

namespace ConfigurationDraft

variable {σ : Type}

def take {α : Type} (draft : ConfigurationDraft σ) (piece : Except Error α)
    (put : ConfigurationDraft σ → α → ConfigurationDraft σ) : ConfigurationDraft σ :=
  match piece with
  | .ok a => put draft a
  | .error e => { draft with refusal := draft.refusal.or (some e) }

def withRecord (draft : ConfigurationDraft σ) (name : String) (schema : RecordSchema) :
    ConfigurationDraft σ :=
  draft.take (draft.registry.registerRecord name schema) fun draft registry =>
    { draft with registry := registry }

def withCache (draft : ConfigurationDraft σ) (id : String) (cache : Cache) :
    ConfigurationDraft σ :=
  draft.take (draft.caches.add id cache) fun draft caches => { draft with caches := caches }

def withInterceptor (draft : ConfigurationDraft σ) (interceptor : Interceptor σ) :
    ConfigurationDraft σ :=
  draft.take interceptor.register fun draft registration =>
    { draft with chain := draft.chain ++ [registration] }

def checkNamespace (draft : ConfigurationDraft σ) (space : String) : Except Error Unit :=
  if space.isEmpty || space.toList.any Text.isBlank then
    failWith (.config s!"invalid mapper namespace `{space}`")
  else if Fields.contains draft.mappers space then
    failWith (.config s!"Type {space} is already known to the MapperRegistry.")
  else .ok ()

def withMapper (draft : ConfigurationDraft σ) (space : String) (statements : List StatementDraft) :
    ConfigurationDraft σ :=
  draft.take (draft.checkNamespace space) fun draft _ =>
    { draft with
      mappers := Fields.insert draft.mappers space ()
      statements := draft.statements ++ statements.map (·.within space) }

def rules (draft : ConfigurationDraft σ) : Except Error TemplateRules :=
  let rules : TemplateRules := { nullableLoops := draft.settings.nullableLoops }
  match draft.settings.injectionFilter with
  | some pattern => rules.withFilter pattern
  | none => .ok rules

def allVariables (draft : ConfigurationDraft σ) : Fields String :=
  Fields.ofList (draft.settings.variableTexts ++ draft.variableTexts)

def setting (draft : ConfigurationDraft σ) : CompileSetting :=
  ⟨draft.registry, draft.databaseId, draft.settings.shrinkWhitespace⟩

def compileAll (draft : ConfigurationDraft σ) (rules : TemplateRules) :
    List (String × StatementDraft) → Except Error (List (String × MappedStatement))
  | [] => .ok []
  | (id, statement) :: rest => do
      let compiled ← statement.compile rules draft.allVariables draft.setting
        (Fields.names draft.caches)
      return (id, compiled) :: (← compileAll draft rules rest)

def build (draft : ConfigurationDraft σ) : Except Error (Configuration σ) := do
  match draft.refusal with
  | some e => throw e
  | none =>
      let rules ← draft.rules
      let selected ← StatementDraft.select draft.statements draft.databaseId
      let statements ← draft.compileAll rules selected
      return {
        settings := draft.settings
        databaseId := draft.databaseId
        registry := draft.registry
        rules := rules
        statements := statements
        mappers := draft.mappers
        chain := draft.chain
        source := draft.source }

end ConfigurationDraft

end MappedSql
