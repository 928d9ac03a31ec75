import MappedSql.Cache.Key
import MappedSql.Error

namespace MappedSql

inductive CachedValue
  | rows (values : List Value)
  | null
  deriving Inhabited

def CachedValue.toRows : CachedValue → List Value
  | rows values => values
  | null => []

abbrev Entries (α : Type) := List (CacheKey × α)

namespace Entries

variable {α : Type}

def get? (entries : Entries α) (key : CacheKey) : Option α :=
  match entries with
  | [] => none
  | (k, value) :: rest => if k.same key then some value else get? rest key

def erase (entries : Entries α) (key : CacheKey) : Entries α :=
  entries.filter fun entry => !entry.1.same key

def put (entries : Entries α) (key : CacheKey) (value : α) : Entries α :=
  match entries with
  | [] => [(key, value)]
  | (k, old) :: rest =>
      if k.same key then (k, value) :: rest else (k, old) :: put rest key value

end Entries

/-- When each key was touched last, by key and in the order of touches. -/
structure Recency where
  tick : Nat := 0
  byKey : Entries Nat := []
  byTick : List (Nat × CacheKey) := []

namespace Recency

def dropTick (recency : Recency) (old : Option Nat) : List (Nat × CacheKey) :=
  match old with
  | some tick => recency.byTick.filter (·.1 != tick)
  | none => recency.byTick

def touch (recency : Recency) (key : CacheKey) : Recency :=
  let tick := recency.tick + 1
  { tick := tick
    byKey := Entries.put recency.byKey key tick
    byTick := recency.dropTick (Entries.get? recency.byKey key) ++ [(tick, key)] }

def forget (recency : Recency) (key : CacheKey) : Recency :=
  { recency with
    byKey := Entries.erase recency.byKey key
    byTick := recency.dropTick (Entries.get? recency.byKey key) }

def popEldest (recency : Recency) : Option (CacheKey × Recency) :=
  match recency.byTick with
  | (_, key) :: rest =>
      some (key, { recency with byKey := Entries.erase recency.byKey key, byTick := rest })
  | [] => none

end Recency

inductive Cache
  | perpetual (entries : Entries CachedValue)
  | bounded (capacity : Nat) (recency : Recency) (inner : Cache)
  deriving Inhabited

namespace Cache

def empty : Cache := perpetual []

def boundedBy (capacity : Nat) (inner : Cache) : Cache :=
  bounded (max capacity 1) {} inner

def size : Cache → Nat
  | perpetual entries => entries.length
  | bounded _ _ inner => inner.size

def clear : Cache → Cache
  | perpetual _ => perpetual []
  | bounded capacity _ inner => bounded capacity {} inner.clear

def get? : Cache → CacheKey → Option CachedValue × Cache
  | perpetual entries, key => (Entries.get? entries key, perpetual entries)
  | bounded capacity recency inner, key =>
      let (found, inner) := inner.get? key
      (found, bounded capacity (if found.isSome then recency.touch key else recency) inner)

def remove : Cache → CacheKey → Option CachedValue × Cache
  | perpetual entries, key => (Entries.get? entries key, perpetual (Entries.erase entries key))
  | bounded capacity recency inner, key =>
      let (removed, inner) := inner.remove key
      (removed, bounded capacity (recency.forget key) inner)

/-- Evicts the eldest keys while there are more than the capacity; `excess` bounds their number. -/
def evict (capacity : Nat) (recency : Recency) (inner : Cache) : Nat → Recency × Cache
  | 0 => (recency, inner)
  | excess + 1 =>
      if capacity < recency.byKey.length then
        match recency.popEldest with
        | some (eldest, recency) => evict capacity recency (inner.remove eldest).2 excess
        | none => (recency, inner)
      else (recency, inner)

def put : Cache → CacheKey → CachedValue → Cache
  | perpetual entries, key, value => perpetual (Entries.put entries key value)
  | bounded capacity recency inner, key, value =>
      let recency := recency.touch key
      let (recency, inner) := evict capacity recency (inner.put key value) recency.byKey.length
      bounded capacity recency inner

end Cache

abbrev SharedCaches := Fields Cache

def SharedCaches.add (caches : SharedCaches) (id : String) (cache : Cache) :
    Except Error SharedCaches :=
  if Fields.contains caches id then failWith (.config s!"cache `{id}` is already registered")
  else .ok (Fields.insert caches id cache)

end MappedSql
