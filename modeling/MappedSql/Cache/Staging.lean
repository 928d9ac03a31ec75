import MappedSql.Cache.Basic

/-!
# Staged cache writes

A unit of work sees its own writes at once and shows them to others only when it commits: then each
touched cache is cleared if the work cleared it, and takes the staged entries, in an order that
nothing fixes. A rollback forgets them.
-/

namespace MappedSql

structure StagedWrites where
  cleared : Bool := false
  entries : Entries CachedValue := []

namespace StagedWrites

def put (staged : StagedWrites) (key : CacheKey) (value : CachedValue) : StagedWrites :=
  { staged with entries := Entries.put staged.entries key value }

def clear (_staged : StagedWrites) : StagedWrites :=
  ⟨true, []⟩

def isPending (staged : StagedWrites) : Bool :=
  staged.cleared || !staged.entries.isEmpty

/-- Looks up a key among the staged entries, then, unless the work cleared it, in the cache. -/
def get? (staged : StagedWrites) (key : CacheKey) (cache : Cache) :
    Option CachedValue × Cache :=
  match Entries.get? staged.entries key with
  | some value => (some value, cache)
  | none => if staged.cleared then (none, cache) else cache.get? key

def publishEntries : Entries CachedValue → Cache → Cache
  | [], cache => cache
  | (key, value) :: rest, cache => publishEntries rest (cache.put key value)

def publish (staged : StagedWrites) (order : Entries CachedValue) (cache : Cache) : Cache :=
  publishEntries order (if staged.cleared then cache.clear else cache)

end StagedWrites

/-- In which order the entries staged for each cache are written to it. They are kept by hash, so any
order may come up. -/
structure DrainOrder where
  order : String → Entries CachedValue → Entries CachedValue
  perm : ∀ id entries, (order id entries).Perm entries

def DrainOrder.asStaged : DrainOrder :=
  ⟨fun _ entries => entries, fun _ entries => .refl entries⟩

abbrev Drains := Nat → DrainOrder

namespace Drains

def asStaged : Drains :=
  fun _ => .asStaged

def rest (drains : Drains) : Drains :=
  fun n => drains (n + 1)

end Drains

abbrev Staging := Fields StagedWrites

namespace Staging

def of (staging : Staging) (id : String) : StagedWrites :=
  (Fields.get? staging id).getD {}

def put (staging : Staging) (id : String) (key : CacheKey) (value : CachedValue) : Staging :=
  Fields.insert staging id ((of staging id).put key value)

def clear (staging : Staging) (id : String) : Staging :=
  Fields.insert staging id (of staging id).clear

def isPending (staging : Staging) : Bool :=
  staging.any fun entry => entry.2.isPending

def get? (staging : Staging) (id : String) (key : CacheKey) (caches : SharedCaches) :
    Option CachedValue × SharedCaches :=
  match Fields.get? caches id with
  | some cache =>
      let (found, cache) := (of staging id).get? key cache
      (found, Fields.insert caches id cache)
  | none => (none, caches)

def publish (staging : Staging) (caches : SharedCaches) (drain : DrainOrder := .asStaged) :
    SharedCaches :=
  caches.map fun (id, cache) =>
    match Fields.get? staging id with
    | some staged => (id, staged.publish (drain.order id staged.entries) cache)
    | none => (id, cache)

end Staging

end MappedSql
