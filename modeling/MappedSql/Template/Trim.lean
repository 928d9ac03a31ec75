import MappedSql.Template.Context
import MappedSql.Template.Node

namespace MappedSql.TrimStyle

def isPrefixIgnoringCase (token : String) (body : List Char) : Bool :=
  token.toList.isPrefixOf (body.map Char.toUpper)

def isSuffixIgnoringCase (token : List Char) (body : List Char) : Bool :=
  token.isSuffixOf (body.map Char.toUpper)

/-- How many characters an override takes from the end of a text: those of the token, or those of
its bare form when the padded one does not match. -/
def endLength? (body : List Char) (token : String) : Option Nat :=
  let bare := Text.trim token.toList
  if isSuffixIgnoringCase token.toList body then some token.length
  else if !bare.isEmpty && isSuffixIgnoringCase bare body then some bare.length
  else none

def cutStart (style : TrimStyle) (body : List Char) : List Char :=
  match style.startOverrides.find? fun token => isPrefixIgnoringCase token body with
  | some token => Text.trimStart (body.drop token.length)
  | none => body

def cutEnd (style : TrimStyle) (body : List Char) : List Char :=
  match style.endOverrides.findSome? (endLength? body) with
  | some length => Text.trimEnd (body.take (body.length - length))
  | none => body

def strip (style : TrimStyle) (body : List Char) : List Char :=
  style.cutEnd (style.cutStart (Text.trim body))

def enclose (style : TrimStyle) (stripped : String) : String :=
  (style.before.map (· ++ " ")).getD "" ++ stripped ++ (style.after.map (" " ++ ·)).getD ""

def gapAfter (sql : String) : String :=
  match sql.toList.getLast? with
  | some c => if Text.isBlank c then "" else " "
  | none => ""

def render (style : TrimStyle) (contents : Render Bool) : Render Bool := do
  let (applied, body) ← Render.isolated contents
  let stripped := style.strip body.toList
  if !stripped.isEmpty then
    modify fun context =>
      context.append (gapAfter context.sql ++ style.enclose (String.ofList stripped))
  return applied

end MappedSql.TrimStyle
