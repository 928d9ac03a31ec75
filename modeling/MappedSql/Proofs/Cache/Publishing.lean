import MappedSql.Cache.Staging
import MappedSql.Proofs.Cache.Keys

namespace MappedSql

namespace Entries

variable {α : Type}

theorem mem_of_get? {entries : Entries α} {key : CacheKey} {value : α}
    (found : get? entries key = some value) :
    ∃ entry ∈ entries, entry.1.same key ∧ entry.2 = value := by
  induction entries with
  | nil => simp [get?] at found
  | cons entry rest ih =>
      obtain ⟨k, old⟩ := entry
      cases equal : k.same key with
      | true =>
          simp only [get?, equal, if_true, Option.some.injEq] at found
          exact ⟨(k, old), by simp, equal, found⟩
      | false =>
          simp only [get?, equal, Bool.false_eq_true, if_false] at found
          obtain ⟨entry, mem, same⟩ := ih found
          exact ⟨entry, by simp [mem], same⟩

theorem of_mem_put {entries : Entries α} {key : CacheKey} {value : α} {entry : CacheKey × α}
    (mem : entry ∈ put entries key value) :
    entry ∈ entries ∨ (key.Matches entry.1 ∧ entry.2 = value) := by
  induction entries with
  | nil =>
      obtain rfl : entry = (key, value) := by simpa [put] using mem
      exact .inr ⟨.refl key, rfl⟩
  | cons head rest ih =>
      obtain ⟨k, old⟩ := head
      cases equal : k.same key with
      | true =>
          simp only [put, equal, if_true, List.mem_cons] at mem
          rcases mem with rfl | mem
          · exact .inr ⟨.inr (CacheKey.same_symm equal), rfl⟩
          · exact .inl (by simp [mem])
      | false =>
          simp only [put, equal, Bool.false_eq_true, if_false, List.mem_cons] at mem
          rcases mem with rfl | mem
          · exact .inl (by simp)
          · exact (ih mem).imp_left (List.mem_cons_of_mem _)

end Entries

def SharedCaches.Perpetual (shared : SharedCaches) : Prop :=
  ∀ id cache, Fields.get? shared id = some cache → ∃ entries, cache = .perpetual entries

def SharedCaches.SameContents (before after : SharedCaches) : Prop :=
  ∀ id, Fields.get? after id = Fields.get? before id

theorem SharedCaches.SameContents.refl (shared : SharedCaches) : shared.SameContents shared :=
  fun _ => rfl

theorem SharedCaches.SameContents.trans {first second third : SharedCaches}
    (left : first.SameContents second) (right : second.SameContents third) :
    first.SameContents third :=
  fun id => (right id).trans (left id)

theorem SharedCaches.Perpetual.of_sameContents {before after : SharedCaches}
    (perpetual : before.Perpetual) (same : before.SameContents after) : after.Perpetual :=
  fun id cache found => perpetual id cache ((same id).symm.trans found)

namespace Staging

@[simp] theorem of_nil (id : String) : of [] id = {} :=
  rfl

theorem of_put (staging : Staging) (id other : String) (key : CacheKey) (value : CachedValue) :
    of (put staging id key value) other =
      if id = other then (of staging id).put key value else of staging other := by
  by_cases same : id = other
  · subst same
    simp [of, put, Fields.get?_insert_self]
  · simp [of, put, Fields.get?_insert_of_ne _ _ same, same]

theorem of_clear (staging : Staging) (id other : String) :
    of (clear staging id) other = if id = other then ⟨true, []⟩ else of staging other := by
  by_cases same : id = other
  · subst same
    simp [of, clear, Fields.get?_insert_self, StagedWrites.clear]
  · simp [of, clear, Fields.get?_insert_of_ne _ _ same, same]

theorem sameContents_get? {shared : SharedCaches} (perpetual : shared.Perpetual)
    (staging : Staging) (id : String) (key : CacheKey) :
    shared.SameContents (get? staging id key shared).2 := by
  intro other
  unfold get?
  cases found : Fields.get? shared id with
  | none => rfl
  | some cache =>
      obtain ⟨entries, rfl⟩ := perpetual id cache found
      have kept : ((of staging id).get? key (.perpetual entries)).2 = .perpetual entries := by
        unfold StagedWrites.get?
        split
        · rfl
        · split <;> rfl
      by_cases same : id = other
      · subst same
        simp [kept, Fields.get?_insert_self, found]
      · simp [Fields.get?_insert_of_ne _ _ same]

def drained (staging : Staging) (drain : DrainOrder) (id : String) : Entries CachedValue :=
  drain.order id (of staging id).entries

theorem get?_publish (drain : DrainOrder) (staging : Staging) (shared : SharedCaches) (id : String) :
    Fields.get? (publish staging shared drain) id =
      (Fields.get? shared id).map ((of staging id).publish (staging.drained drain id)) := by
  induction shared with
  | nil => rfl
  | cons entry rest ih =>
      obtain ⟨own, cache⟩ := entry
      have step : publish staging ((own, cache) :: rest) drain =
          (own, (of staging own).publish (staging.drained drain own) cache) ::
            publish staging rest drain := by
        unfold publish drained of
        cases found : Fields.get? staging own with
        | some staged => simp [found]
        | none =>
            have nothing : drain.order own [] = [] := (drain.perm own []).eq_nil
            simp [found, nothing, StagedWrites.publish, StagedWrites.publishEntries]
      rw [step]
      by_cases same : own = id
      · simp [Fields.get?, same]
      · simp only [Fields.get?, same, if_false, ih]

end Staging

namespace StagedWrites

theorem publishEntries_perpetual (staged entries : Entries CachedValue) :
    ∃ after, publishEntries staged (.perpetual entries) = .perpetual after ∧
      ∀ entry ∈ after, entry ∈ entries ∨
        ∃ write ∈ staged, write.1.Matches entry.1 ∧ entry.2 = write.2 := by
  induction staged generalizing entries with
  | nil => exact ⟨entries, rfl, fun entry mem => .inl mem⟩
  | cons write rest ih =>
      obtain ⟨key, value⟩ := write
      obtain ⟨after, published, from_⟩ := ih (Entries.put entries key value)
      refine ⟨after, published, fun entry mem => ?_⟩
      rcases from_ entry mem with mem | ⟨write, mem, matched, same⟩
      · rcases Entries.of_mem_put mem with mem | ⟨matched, same⟩
        · exact .inl mem
        · exact .inr ⟨(key, value), by simp, matched, same⟩
      · exact .inr ⟨write, by simp [mem], matched, same⟩

theorem publish_perpetual (staged : StagedWrites) (order entries : Entries CachedValue) :
    ∃ after, staged.publish order (.perpetual entries) = .perpetual after ∧
      ∀ entry ∈ after, entry ∈ entries ∨
        ∃ write ∈ order, write.1.Matches entry.1 ∧ entry.2 = write.2 := by
  unfold publish
  cases staged.cleared with
  | false => exact publishEntries_perpetual order entries
  | true =>
      obtain ⟨after, published, from_⟩ := publishEntries_perpetual order []
      refine ⟨after, published, fun entry mem => ?_⟩
      exact (from_ entry mem).imp_left fun absurd_mem => absurd absurd_mem (by simp)

end StagedWrites

theorem SharedCaches.Perpetual.publish {shared : SharedCaches} (perpetual : shared.Perpetual)
    (drain : DrainOrder) (staging : Staging) : (Staging.publish staging shared drain).Perpetual := by
  intro id cache found
  rw [Staging.get?_publish, Option.map_eq_some_iff] at found
  obtain ⟨before, present, rfl⟩ := found
  obtain ⟨entries, rfl⟩ := perpetual id before present
  obtain ⟨after, published, -⟩ :=
    (Staging.of staging id).publish_perpetual (staging.drained drain id) entries
  exact ⟨after, published⟩

namespace Cache

def entries : Cache → Entries CachedValue
  | perpetual entries => entries
  | bounded _ _ inner => inner.entries

theorem entries_get? (cache : Cache) (key : CacheKey) : (cache.get? key).2.entries = cache.entries := by
  induction cache with
  | perpetual entries => rfl
  | bounded capacity recency inner ih => exact ih

theorem mem_of_get? {cache : Cache} {key : CacheKey} {value : CachedValue}
    (found : (cache.get? key).1 = some value) :
    ∃ entry ∈ cache.entries, entry.1.same key ∧ entry.2 = value := by
  induction cache with
  | perpetual entries => exact Entries.mem_of_get? found
  | bounded capacity recency inner ih => exact ih found

theorem entries_clear (cache : Cache) : cache.clear.entries = [] := by
  induction cache with
  | perpetual entries => rfl
  | bounded capacity recency inner ih => exact ih

theorem of_mem_remove {cache : Cache} {key : CacheKey} {entry : CacheKey × CachedValue}
    (mem : entry ∈ (cache.remove key).2.entries) : entry ∈ cache.entries := by
  induction cache with
  | perpetual entries => exact (List.mem_filter.1 mem).1
  | bounded capacity recency inner ih => exact ih mem

theorem of_mem_evict {capacity excess : Nat} {recency : Recency} {inner : Cache}
    {entry : CacheKey × CachedValue}
    (mem : entry ∈ (evict capacity recency inner excess).2.entries) : entry ∈ inner.entries := by
  induction excess generalizing recency inner with
  | zero => exact mem
  | succ excess ih =>
      unfold evict at mem
      split at mem
      · split at mem
        · exact of_mem_remove (ih mem)
        · exact mem
      · exact mem

theorem of_mem_put {cache : Cache} {key : CacheKey} {value : CachedValue}
    {entry : CacheKey × CachedValue} (mem : entry ∈ (cache.put key value).entries) :
    entry ∈ cache.entries ∨ (key.Matches entry.1 ∧ entry.2 = value) := by
  induction cache with
  | perpetual entries => exact Entries.of_mem_put mem
  | bounded capacity recency inner ih => exact ih (of_mem_evict mem)

end Cache

namespace StagedWrites

theorem of_mem_publishEntries {staged : Entries CachedValue} {cache : Cache}
    {entry : CacheKey × CachedValue} (mem : entry ∈ (publishEntries staged cache).entries) :
    entry ∈ cache.entries ∨ ∃ write ∈ staged, write.1.Matches entry.1 ∧ entry.2 = write.2 := by
  induction staged generalizing cache with
  | nil => exact .inl mem
  | cons write rest ih =>
      obtain ⟨key, value⟩ := write
      rcases ih mem with held | ⟨write, later, matched, same⟩
      · rcases Cache.of_mem_put held with held | ⟨matched, same⟩
        · exact .inl held
        · exact .inr ⟨(key, value), List.mem_cons_self, matched, same⟩
      · exact .inr ⟨write, List.mem_cons_of_mem _ later, matched, same⟩

theorem of_mem_publish {staged : StagedWrites} {order : Entries CachedValue} {cache : Cache}
    {entry : CacheKey × CachedValue} (mem : entry ∈ (staged.publish order cache).entries) :
    (staged.cleared = false ∧ entry ∈ cache.entries) ∨
      ∃ write ∈ order, write.1.Matches entry.1 ∧ entry.2 = write.2 := by
  unfold publish at mem
  rcases of_mem_publishEntries mem with held | written
  · cases cleared : staged.cleared with
    | false =>
        rw [cleared] at held
        exact .inl ⟨rfl, held⟩
    | true =>
        rw [cleared, if_pos rfl, Cache.entries_clear] at held
        cases held
  · exact .inr written

end StagedWrites

def SharedCaches.SameEntries (before after : SharedCaches) : Prop :=
  ∀ id, (Fields.get? after id).map Cache.entries = (Fields.get? before id).map Cache.entries

theorem SharedCaches.SameEntries.refl (shared : SharedCaches) : shared.SameEntries shared :=
  fun _ => rfl

theorem SharedCaches.SameEntries.trans {first second third : SharedCaches}
    (left : first.SameEntries second) (right : second.SameEntries third) :
    first.SameEntries third :=
  fun id => (right id).trans (left id)

theorem Staging.sameEntries_get? (staging : Staging) (id : String) (key : CacheKey)
    (shared : SharedCaches) : shared.SameEntries (get? staging id key shared).2 := by
  intro other
  unfold get?
  cases found : Fields.get? shared id with
  | none => rfl
  | some cache =>
      have kept : ((of staging id).get? key cache).2.entries = cache.entries := by
        unfold StagedWrites.get?
        split
        · rfl
        · split
          · rfl
          · exact Cache.entries_get? cache key
      by_cases same : id = other
      · subst same
        simp [kept, Fields.get?_insert_self, found]
      · simp [Fields.get?_insert_of_ne _ _ same]

end MappedSql
