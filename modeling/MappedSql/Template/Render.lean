import MappedSql.Template.Loop
import MappedSql.Template.Trim

namespace MappedSql

namespace Node

def spliced (filter : Option Filter) (content : String) : Render String := do
  let token := "$\x7b" ++ content ++ "\x7d"
  let value ← Render.evaluate (Text.trimmed content) fun e => e.inContext token
  let shown := if value.isNull then "" else value.display
  match filter with
  | some filter =>
      if filter.pattern.spans shown then return shown
      else
        failWith (.binding token s!"Invalid input. Please conform to regex {filter.source}")
  | none => return shown

def test (source : String) : Render Bool := do
  let value ← Render.evaluate source fun e => e.inContext s!"test `{source}`"
  return value.truthy

mutual

def render : Node → Render Bool
  | static s => do
      modify (·.append s)
      return true
  | text raw filter => do
      let rendered ← replaceTokens '$' raw (spliced filter)
      modify (·.append rendered)
      return true
  | mixed children => do
      renderAll children
      return true
  | cond source contents => do
      if ← test source then
        let _ ← render contents
        return true
      else return false
  | choose branches otherwise => renderChoice (renderOtherwise otherwise) branches
  | trim style contents => style.render (render contents)
  | forEach loop contents => loop.render (render contents)
  | bind name source => do
      let value ← Render.evaluate source fun e => e.inContext s!"bind `{name}`"
      modify (·.bind name value)
      return true

def renderAll : List Node → Render Unit
  | [] => return ()
  | node :: rest => do
      let _ ← render node
      renderAll rest

def renderOtherwise : Option Node → Render Bool
  | none => return false
  | some contents => do
      let _ ← render contents
      return true

def renderChoice (otherwise : Render Bool) : List (String × Node) → Render Bool
  | [] => otherwise
  | (source, contents) :: rest => do
      if ← test source then
        let _ ← render contents
        return true
      else renderChoice otherwise rest

end

end Node

end MappedSql
