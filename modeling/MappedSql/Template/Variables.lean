import MappedSql.Fields
import MappedSql.Template.Node

namespace MappedSql.Node

def substituteText (variableTexts : Fields String) (s : String) : String :=
  Id.run <| replaceTokens '$' s fun content =>
    (Fields.get? variableTexts (Text.trimmed content)).getD ("$\x7b" ++ content ++ "\x7d")

def withFilter (node : Node) (filter : Option Filter) : Node :=
  match node with
  | text raw _ => text raw filter
  | node => node

mutual

def replaceVariables (variableTexts : Fields String) : Node → Node
  | static s => static s
  | text raw filter => (ofText (substituteText variableTexts raw)).withFilter filter
  | mixed children => mixed (replaceAllVariables variableTexts children)
  | cond test contents => cond test (replaceVariables variableTexts contents)
  | choose branches otherwise =>
      choose (replaceBranchVariables variableTexts branches)
        (replaceOtherwise variableTexts otherwise)
  | trim style contents => trim style (replaceVariables variableTexts contents)
  | forEach loop contents => forEach loop (replaceVariables variableTexts contents)
  | bind name source => bind name source

def replaceAllVariables (variableTexts : Fields String) : List Node → List Node
  | [] => []
  | node :: rest => replaceVariables variableTexts node :: replaceAllVariables variableTexts rest

def replaceBranchVariables (variableTexts : Fields String) :
    List (String × Node) → List (String × Node)
  | [] => []
  | (test, node) :: rest =>
      (test, replaceVariables variableTexts node) :: replaceBranchVariables variableTexts rest

def replaceOtherwise (variableTexts : Fields String) : Option Node → Option Node
  | none => none
  | some node => some (replaceVariables variableTexts node)

end

/-- Replaces the tokens of configuration variables; without any variables nothing changes. -/
def substituteVariables (node : Node) (variableTexts : Fields String) : Node :=
  if variableTexts.isEmpty then node else replaceVariables variableTexts node

mutual

def withDefaults (nullable : Bool) (filter : Option Filter) : Node → Node
  | static s => static s
  | text raw own => text raw (own.or filter)
  | mixed children => mixed (allWithDefaults nullable filter children)
  | cond test contents => cond test (withDefaults nullable filter contents)
  | choose branches otherwise =>
      choose (branchesWithDefaults nullable filter branches)
        (otherwiseWithDefaults nullable filter otherwise)
  | trim style contents => trim style (withDefaults nullable filter contents)
  | forEach loop contents =>
      forEach { loop with nullable := some (loop.nullable.getD nullable) }
        (withDefaults nullable filter contents)
  | bind name source => bind name source

def allWithDefaults (nullable : Bool) (filter : Option Filter) : List Node → List Node
  | [] => []
  | node :: rest => withDefaults nullable filter node :: allWithDefaults nullable filter rest

def branchesWithDefaults (nullable : Bool) (filter : Option Filter) :
    List (String × Node) → List (String × Node)
  | [] => []
  | (test, node) :: rest =>
      (test, withDefaults nullable filter node) :: branchesWithDefaults nullable filter rest

def otherwiseWithDefaults (nullable : Bool) (filter : Option Filter) : Option Node → Option Node
  | none => none
  | some node => some (withDefaults nullable filter node)

end

end MappedSql.Node
