import MappedSql.Json.Basic

namespace MappedSql.Json

def members : Json → List (String × Json)
  | obj fields => fields
  | _ => []

def member (document : Json) (name : String) : Json :=
  (document.members.lookup name).getD null

def has (document : Json) (name : String) : Bool :=
  (document.members.lookup name).isSome

def items : Json → List Json
  | arr items => items
  | _ => []

def text? : Json → Option String
  | str value => some value
  | _ => none

def bool? : Json → Option Bool
  | bool value => some value
  | _ => none

def nat? : Json → Option Nat
  | int value => some value.toNat
  | _ => none

def text (document : Json) : String :=
  document.text?.getD ""

def isTrue (document : Json) : Bool :=
  document.bool?.getD false

def nat (document : Json) : Nat :=
  document.nat?.getD 0

def texts (document : Json) : List String :=
  document.items.map text

def textAt? (document : Json) (name : String) : Option String :=
  (document.member name).text?

def textAt (document : Json) (name : String) : String :=
  (document.member name).text

def natAt? (document : Json) (name : String) : Option Nat :=
  (document.member name).nat?

def trueAt (document : Json) (name : String) : Bool :=
  (document.member name).isTrue

def itemsAt (document : Json) (name : String) : List Json :=
  (document.member name).items

def given? (document : Json) (name : String) : Option Json :=
  document.members.lookup name

mutual

def depth : Json → Nat
  | arr items => depthOfItems items + 1
  | obj fields => depthOfFields fields + 1
  | _ => 1

def depthOfItems : List Json → Nat
  | [] => 0
  | item :: rest => max (depth item) (depthOfItems rest)

def depthOfFields : List (String × Json) → Nat
  | [] => 0
  | (_, value) :: rest => max (depth value) (depthOfFields rest)

end

def ofNat (n : Nat) : Json :=
  int n

def ofTexts (texts : List String) : Json :=
  arr (texts.map str)

def ofOption {α : Type} (write : α → Json) : Option α → Json
  | some a => write a
  | none => null

def ofText? (text : Option String) : Json :=
  ofOption str text

end MappedSql.Json
