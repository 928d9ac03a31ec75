import MappedSql.Proofs.Template.Fragments
import MappedSql.Source

namespace MappedSql

structure Round where
  loop : Loop
  index : Value
  item : Value
  unique : Nat

namespace Round

def value? (round : Round) (name : String) : Option Value :=
  if round.loop.item = some name then some round.item
  else if round.loop.index = some name then some round.index
  else none

end Round

/-- A placeholder, and the rounds that it is rendered in, the innermost first. -/
structure Mark where
  content : String
  rounds : List Round := []

namespace Mark

def within (round : Round) (mark : Mark) : Mark :=
  { mark with rounds := mark.rounds ++ [round] }

def property (mark : Mark) : String :=
  String.ofList (Placeholder.subject mark.content.toList)

def live? (mark : Mark) (name : String) : Option Value :=
  mark.rounds.findSome? (·.value? name)

/-- What the property of a mark leads to where the mark is rendered. A name that no round has keeps
the meaning that it has for the whole statement. An error names the property as `shown`. -/
def lookup (mark : Mark) (bound : BoundSql) (shown : String) : Except Error Value :=
  let (root, path) := splitRoot mark.property
  match mark.live? root with
  | some value => BoundSql.resolveBelow value path shown
  | none => bound.propertyValue mark.property

end Mark

namespace Loop

def entered (loop : Loop) (entry : Value × Value) (context : Context) : Context :=
  { bindVariable loop.item entry.2 context.unique
      (bindVariable loop.index entry.1 context.unique
        { context with unique := context.unique + 1 }) with sql := "" }

def marks (loop : Loop) (contents : Render Bool) (inner : Context → List Mark) :
    List (Value × Value) → Context → List Mark
  | [], _ => []
  | entry :: rest, context =>
      (inner (loop.entered entry context)).map
          (Mark.within ⟨loop, entry.1, entry.2, context.unique⟩) ++
        marks loop contents inner rest (loop.round contents entry context).2

end Loop

namespace Node

mutual

def marks : Node → Context → List Mark
  | static s, _ => (Piece.contents (Piece.ofText '#' s)).map fun content => { content := content }
  | text _ _, _ => []
  | mixed children, context => marksAll children context
  | cond source contents, context =>
      match test source context with
      | (.ok true, after) => marks contents after
      | _ => []
  | choose branches otherwise, context => marksChoice (marksOtherwise otherwise) branches context
  | trim _ contents, context => marks contents { context with sql := "" }
  | forEach loop contents, context =>
      match loop.entries context with
      | (.ok (some entries), after) => loop.marks (render contents) (marks contents) entries after
      | _ => []
  | bind _ _, _ => []

def marksAll : List Node → Context → List Mark
  | [], _ => []
  | node :: rest, context => marks node context ++ marksAll rest (render node context).2

def marksOtherwise : Option Node → Context → List Mark
  | none, _ => []
  | some contents, context => marks contents context

def marksChoice (otherwise : Context → List Mark) : List (String × Node) → Context → List Mark
  | [], context => otherwise context
  | (source, contents) :: rest, context =>
      match test source context with
      | (.ok true, after) => marks contents after
      | (.ok false, after) => marksChoice otherwise rest after
      | _ => []

end

end Node

inductive Part
  | text (s : String)
  | edge (s : String)
  | override (token : String)
  | name (own : String)
  | spliced
  | binding

namespace Part

def sql? : Part → Option String
  | text s | edge s => some s
  | _ => none

/-- A part without backslashes and spliced text, whose placeholders are closed and name paths. Only
text may hold placeholders. -/
def Plain : Part → Prop
  | text s => '\\' ∉ s.toList ∧ Closed s.toList ∧
      ∀ content ∈ Piece.contents (Piece.ofText '#' s),
        IsPath (Placeholder.subject content.toList)
  | edge s => '\\' ∉ s.toList ∧ Unopened s.toList
  | override token => '#' ∉ token.toList ∧ '{' ∉ token.toList ∧ '}' ∉ token.toList
  | name own => Loop.IsVariable own
  | spliced | binding => False

instance (part : Part) : Decidable part.Plain := by
  cases part <;> (unfold Plain; infer_instance)

end Part

def TrimStyle.parts (style : TrimStyle) : List Part :=
  (style.before.toList ++ style.after.toList).map .edge ++
    (style.startOverrides ++ style.endOverrides).map .override

def Loop.parts (loop : Loop) : List Part :=
  loop.names.map .name ++
    (loop.opening.toList ++ loop.separator.toList ++ loop.closing.toList).map .edge

namespace Node

mutual

def parts : Node → List Part
  | static s => [.text s]
  | text _ _ => [.spliced]
  | mixed children => partsOfAll children
  | cond _ contents => parts contents
  | choose branches otherwise => partsOfBranches branches ++ partsOfOtherwise otherwise
  | trim style contents => style.parts ++ parts contents
  | forEach loop contents => loop.parts ++ parts contents
  | bind _ _ => [.binding]

def partsOfAll : List Node → List Part
  | [] => []
  | node :: rest => parts node ++ partsOfAll rest

def partsOfOtherwise : Option Node → List Part
  | none => []
  | some contents => parts contents

def partsOfBranches : List (String × Node) → List Part
  | [] => []
  | (_, contents) :: rest => parts contents ++ partsOfBranches rest

end

/-- The characters that trimming may take somewhere in a template: blanks, and those of override
tokens in either case. -/
def loose (root : Node) (c : Char) : Bool :=
  Text.isBlank c || root.parts.any fun
    | .override token => token.toList.contains c.toUpper
    | _ => false

/-- A template of plain parts, no two of which form the opening of a placeholder between them: not
both does one part end in `#` and one begin with `{`, where loose characters are left out. -/
structure Plain (root : Node) : Prop where
  parts : ∀ part ∈ root.parts, part.Plain
  seamless : ∀ first ∈ root.parts.filterMap Part.sql?, ∀ second ∈ root.parts.filterMap Part.sql?,
    ¬(EndsInHash root.loose first.toList ∧ BeginsWithBrace root.loose second.toList)

instance (root : Node) : Decidable root.Plain :=
  decidable_of_iff (_ ∧ _) ⟨fun ⟨parts, seamless⟩ => ⟨parts, seamless⟩,
    fun plain => ⟨plain.parts, plain.seamless⟩⟩

end Node

end MappedSql
