import MappedSql.Value.Path

namespace MappedSql

/-- The property that takes the generated key, if keys are asked for. -/
structure KeyGenerator where
  property : Option String := none
  deriving DecidableEq, Repr

namespace KeyGenerator

def isEnabled (generator : KeyGenerator) : Bool :=
  generator.property.isSome

/-- Writes keys into items until either runs out. The items that were written before a failure keep
their keys. -/
def assignEach (property : String) : List Value → List Value → List Value × Except Error Unit
  | item :: items, key :: keys =>
      match item.setPath property key with
      | .ok assigned =>
          let (rest, result) := assignEach property items keys
          (assigned :: rest, result)
      | .error e => (item :: items, .error e)
  | items, _ => (items, .ok ())

/-- Writes keys into a parameter and returns the parameter as it is then, also after a failure. -/
def assignKeys (generator : KeyGenerator) (parameter : Value) (keys : List Value) :
    Value × Except Error Unit :=
  match generator.property, parameter with
  | some property, .list items =>
      let (items, result) := assignEach property items keys
      (.list items, result)
  | some property, .map _ | some property, .record _ _ =>
      match keys.getLast? with
      | none => (parameter, .ok ())
      | some key =>
          match parameter.setPath property key with
          | .ok assigned => (assigned, .ok ())
          | .error e => (parameter, .error e)
  | _, _ => (parameter, .ok ())

end KeyGenerator

end MappedSql
