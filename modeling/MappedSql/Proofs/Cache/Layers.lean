import Mathlib.Data.List.Infix
import MappedSql.Proofs.Cache.Recency

/-!
# Publishing to bounded caches

Bounded caches that stand around each other hold what one of the least of their capacities would: the
entries that were touched last (`Cache.Holds`). Staged writes are published in any order, and come to
stand before all that was there; so what remains is all of them, or the last ones in that order
(`Cache.publish_layered`).
-/

namespace MappedSql.Cache

open Entries (Agree Distinct)

/-- Bounded caches around each other, the outermost first, over a perpetual one. -/
def layered : List Nat → Cache
  | [] => empty
  | capacity :: inner => boundedBy capacity (layered inner)

def narrowest (outer : Nat) : List Nat → Nat
  | [] => max outer 1
  | next :: inner => min (max outer 1) (narrowest next inner)

def limited : List Nat → Entries CachedValue → Entries CachedValue
  | [], list => list
  | capacity :: inner, list => (limited inner list).take (max capacity 1)

theorem limited_eq_take (outer : Nat) (inner : List Nat) (list : Entries CachedValue) :
    limited (outer :: inner) list = list.take (narrowest outer inner) := by
  induction inner generalizing outer with
  | nil => rfl
  | cons next inner ih => rw [limited, ih, List.take_take, narrowest]

theorem limited_isPrefix (capacities : List Nat) (list : Entries CachedValue) :
    limited capacities list <+: list := by
  induction capacities with
  | nil => exact List.prefix_rfl
  | cons capacity inner ih => exact (List.take_prefix _ _).trans ih

/-- The cache holds the entries of the list, and each layer knows these and the ones behind them that
the layers below have dropped. -/
inductive Holds : List Nat → Cache → Entries CachedValue → Prop
  | perpetual {entries list : Entries CachedValue} (agree : Agree entries list)
      (self : ∀ entry ∈ list, entry.1.same entry.1) : Holds [] (.perpetual entries) list
  | bounded {capacity : Nat} {inner : List Nat} {recency : Recency} {cache : Cache}
      {list known : Entries CachedValue} (below : Holds inner cache list)
      (lists : Lists recency known known) (behind : list <+: known)
      (within : known.length ≤ max capacity 1) :
      Holds (capacity :: inner) (.bounded (max capacity 1) recency cache) list

variable {capacities inner : List Nat} {cache : Cache} {list known : Entries CachedValue}
  {key : CacheKey} {value : CachedValue}

theorem holds_layered (capacities : List Nat) : Holds capacities (layered capacities) [] := by
  induction capacities with
  | nil => exact .perpetual .nil (by simp)
  | cons capacity inner ih => exact .bounded ih lists_new List.prefix_rfl (Nat.zero_le _)

theorem Holds.distinct (holds : Holds capacities cache list) : list.Distinct := by
  induction holds with
  | perpetual agree _ => exact agree.right
  | bounded _ _ _ _ ih => exact ih

theorem Holds.size (holds : Holds capacities cache list) : cache.size = list.length := by
  induction holds with
  | perpetual agree _ => exact agree.length
  | bounded _ _ _ _ ih => exact ih

theorem Holds.get?_fst (holds : Holds capacities cache list) (key : CacheKey) :
    (cache.get? key).1 = Entries.get? list key := by
  induction holds with
  | perpetual agree _ => exact agree.get? key
  | bounded _ _ _ _ ih => exact ih

theorem Holds.get?_eq_some (holds : Holds capacities cache list) :
    (cache.get? key).1 = some value ↔ ∃ entry ∈ list, entry.1.same key ∧ entry.2 = value := by
  rw [holds.get?_fst, Entries.get?_eq_some holds.distinct]

theorem Holds.length_le {outer : Nat} (holds : Holds (outer :: inner) cache list) :
    list.length ≤ narrowest outer inner := by
  induction inner generalizing outer cache with
  | nil =>
      cases holds with
      | bounded _ _ behind within => exact behind.length_le.trans within
  | cons next inner ih =>
      cases holds with
      | bounded below _ behind within =>
          exact le_min (behind.length_le.trans within) (ih below)

theorem Holds.clear (holds : Holds capacities cache list) : Holds capacities cache.clear [] := by
  induction holds with
  | perpetual _ _ => exact .perpetual .nil (by simp)
  | bounded _ _ _ _ ih => exact .bounded ih lists_new List.prefix_rfl (Nat.zero_le _)

theorem erase_isPrefix (behind : list <+: known) (key : CacheKey) :
    Entries.erase list key <+: Entries.erase known key :=
  behind.filter _

theorem Holds.remove (holds : Holds capacities cache list) (key : CacheKey) :
    Holds capacities (cache.remove key).2 (Entries.erase list key) := by
  induction holds with
  | perpetual agree self =>
      exact .perpetual (agree.erase key) fun entry mem => self entry (List.mem_filter.1 mem).1
  | bounded _ lists behind within ih =>
      exact .bounded ih (lists.forget key) (erase_isPrefix behind key)
        ((List.length_filter_le _ _).trans within)

theorem Holds.remove_fst (holds : Holds capacities cache list) (key : CacheKey) :
    (cache.remove key).1 = Entries.get? list key := by
  induction holds with
  | perpetual agree _ => exact agree.get? key
  | bounded _ _ _ _ ih => exact ih

def moved (list : Entries CachedValue) (key : CacheKey) (value : CachedValue) : Entries CachedValue :=
  (key, value) :: Entries.erase list key

theorem moved_isPrefix (behind : list <+: known) (key : CacheKey) (value : CachedValue) :
    moved list key value <+: moved known key value :=
  List.prefix_cons_inj _ |>.2 (erase_isPrefix behind key)

theorem Lists.moved {recency : Recency} (lists : Lists recency known known) (self : key.same key)
    (value : CachedValue) :
    Lists (recency.touch key) (moved known key value) (moved known key value) :=
  have distinct := lists.agree.right.moved key value
  lists.touch self ⟨distinct, distinct, rfl, fun _ => rfl⟩

theorem isSome_get?_of_isPrefix (behind : list <+: known) (present : (Entries.get? list key).isSome) :
    (Entries.get? known key).isSome := by
  obtain ⟨entry, mem, same⟩ := Entries.isSome_get?.1 present
  exact Entries.isSome_get?.2 ⟨entry, behind.subset mem, same⟩

theorem get?_bounded (capacity : Nat) (recency : Recency) (cache : Cache) (key : CacheKey) :
    (Cache.get? (.bounded capacity recency cache) key).2 =
      .bounded capacity (if (cache.get? key).1.isSome then recency.touch key else recency)
        (cache.get? key).2 :=
  rfl

theorem Holds.get?_of_some (holds : Holds capacities cache list) (self : key.same key)
    (found : Entries.get? list key = some value) :
    Holds capacities (cache.get? key).2 (moved list key value) := by
  induction holds with
  | perpetual agree own =>
      refine .perpetual (agree.moved found) (List.forall_mem_cons.2 ⟨self, fun entry mem => ?_⟩)
      exact own entry (List.mem_filter.1 mem).1
  | @bounded capacity inner recency cache list known below lists behind within ih =>
      have present : (Entries.get? known key).isSome :=
        isSome_get?_of_isPrefix behind (Option.isSome_of_eq_some found)
      rw [get?_bounded, below.get?_fst, found]
      refine .bounded (ih found) (lists.moved self value) (moved_isPrefix behind key value) ?_
      rw [moved, Entries.length_moved lists.agree.right, if_pos present]
      exact within

theorem Holds.get?_of_none (holds : Holds capacities cache list)
    (missing : Entries.get? list key = none) : Holds capacities (cache.get? key).2 list := by
  induction holds with
  | perpetual agree own => exact .perpetual agree own
  | @bounded capacity inner recency cache list known below lists behind within ih =>
      rw [get?_bounded, below.get?_fst, missing]
      exact .bounded (ih missing) lists behind within

theorem erase_last_eq_take {front : Entries CachedValue} {last : CacheKey × CachedValue}
    (distinct : Distinct (front ++ [last])) (self : last.1.same last.1)
    (behind : list <+: front ++ [last]) :
    Entries.erase list last.1 = list.take front.length := by
  rcases List.prefix_concat_iff.1 behind with rfl | behind
  · rw [Entries.erase_of_last distinct self, List.take_left']
    rfl
  · have apart : ∀ entry ∈ list, ¬entry.1.same last.1 := fun entry mem =>
      (List.pairwise_append.1 distinct).2.2 entry (behind.subset mem) last
        (List.mem_singleton_self last)
    have kept : Entries.erase list last.1 = list :=
      List.filter_eq_self.2 fun entry mem => by simpa using apart entry mem
    rw [kept, List.take_of_length_le behind.length_le]

theorem Holds.evict {capacity excess : Nat} {recency : Recency} (below : Holds inner cache list)
    (lists : Lists recency known known) (behind : list <+: known)
    (few : known.length ≤ max capacity 1 + 1) (some : 0 < excess) :
    Holds (capacity :: inner)
      (.bounded (max capacity 1) (Cache.evict (max capacity 1) recency cache excess).1
        (Cache.evict (max capacity 1) recency cache excess).2)
      (list.take (max capacity 1)) := by
  rcases Nat.lt_or_ge (max capacity 1) known.length with full | fits
  · obtain ⟨front, last, rfl⟩ :=
      (List.eq_nil_or_concat' known).resolve_left (List.ne_nil_of_length_pos (by omega))
    have filled : front.length = max capacity 1 := by
      rw [List.length_append, List.length_singleton] at few full
      omega
    obtain ⟨left, evicted, after⟩ := lists.evict_last filled some cache
    have self := lists.self last (by simp)
    have distinct := lists.agree.right
    have dropped := below.remove last.1
    have cut := behind.take (max capacity 1)
    rw [erase_last_eq_take distinct self behind, filled] at dropped
    rw [Entries.erase_of_last distinct self] at after
    rw [List.take_left' filled] at cut
    rw [evicted]
    exact .bounded dropped after cut filled.le
  · rw [evict_of_length_le (lists.length_byKey.trans_le fits),
      List.take_of_length_le (behind.length_le.trans fits)]
    exact .bounded below lists behind fits

theorem Holds.put (holds : Holds capacities cache list) (self : key.same key)
    (value : CachedValue) :
    Holds capacities (cache.put key value) (limited capacities (moved list key value)) := by
  induction holds with
  | perpetual agree own =>
      refine .perpetual (agree.put key value) (List.forall_mem_cons.2 ⟨self, fun entry mem => ?_⟩)
      exact own entry (List.mem_filter.1 mem).1
  | @bounded _ inner _ _ _ _ _ lists behind within ih =>
      have touched := lists.moved self value
      -- the layers below may drop entries at the end; what they keep is known here, in that order
      have reached := (limited_isPrefix inner _).trans (moved_isPrefix behind key value)
      refine ih.evict touched reached ?_ ?_
      · exact Nat.succ_le_succ ((List.length_filter_le _ _).trans within)
      · rw [touched.length_byKey]
        exact Nat.succ_pos _

theorem trimmed_eq_take {least : Nat} (few : list.length ≤ least + 1) :
    trimmed least list = list.take least := by
  rw [trimmed]
  split
  · next full =>
      have one : list.length = least + 1 := by omega
      rw [List.dropLast_eq_take, one, Nat.add_sub_cancel]
  · next fits => rw [List.take_of_length_le (Nat.le_of_not_lt fits)]

variable {outer : Nat}

theorem Holds.request (holds : Holds (outer :: inner) cache list) {request : Request}
    (wellFormed : request.WellFormed) :
    (request.onCache cache).1 = (request.onList (narrowest outer inner) list).1 ∧
      Holds (outer :: inner) (request.onCache cache).2
        (request.onList (narrowest outer inner) list).2 := by
  cases request with
  | put key value =>
      have few : (moved list key value).length ≤ narrowest outer inner + 1 :=
        Nat.succ_le_succ ((List.length_filter_le _ _).trans holds.length_le)
      have put := holds.put (CacheKey.WellFormed.same_self wellFormed) value
      rw [limited_eq_take, ← trimmed_eq_take few] at put
      exact ⟨rfl, put⟩
  | get key =>
      rw [Request.onCache, Request.onList, holds.get?_fst]
      cases found : Entries.get? list key with
      | none => exact ⟨rfl, holds.get?_of_none found⟩
      | some value =>
          exact ⟨rfl, holds.get?_of_some (CacheKey.WellFormed.same_self wellFormed) found⟩
  | remove key => exact ⟨holds.remove_fst key, holds.remove key⟩
  | clear => exact ⟨rfl, holds.clear⟩

theorem Holds.serve (holds : Holds (outer :: inner) cache list) {requests : List Request}
    (wellFormed : ∀ request ∈ requests, request.WellFormed) :
    (Request.serve Request.onCache Cache.size requests cache).1 =
        (Request.serve (Request.onList (narrowest outer inner)) List.length requests list).1 ∧
      Holds (outer :: inner) (Request.serve Request.onCache Cache.size requests cache).2
        (Request.serve (Request.onList (narrowest outer inner)) List.length requests list).2 := by
  induction requests generalizing cache list with
  | nil => exact ⟨rfl, holds⟩
  | cons request rest ih =>
      obtain ⟨first, others⟩ := List.forall_mem_cons.1 wellFormed
      obtain ⟨answered, after⟩ := holds.request first
      obtain ⟨answers, last⟩ := ih after others
      refine ⟨?_, last⟩
      simp only [Request.serve, answered, after.size, answers]

variable {done survivors staged order : Entries CachedValue} {least : Nat}

theorem take_moved (apart : ∀ own ∈ done, ¬own.1.same key) :
    (moved ((done ++ survivors).take least) key value).take least =
      ((key, value) :: done ++ Entries.erase (survivors.take (least - done.length)) key).take least := by
  have untouched : Entries.erase (done.take least) key = done.take least :=
    List.filter_eq_self.2 fun own mem => by simpa using apart own (List.mem_of_mem_take mem)
  have split : Entries.erase ((done ++ survivors).take least) key =
      done.take least ++ Entries.erase (survivors.take (least - done.length)) key := by
    rw [List.take_append, Entries.erase, List.filter_append]
    exact congrArg (· ++ _) untouched
  rw [moved, split]
  cases least with
  | zero => rfl
  | succ least =>
      -- one place is taken by the key, so the cut at the end of `done` is out of sight
      rw [List.cons_append, List.take_succ_cons, List.take_succ_cons, List.take_append,
        List.take_append, List.take_take, List.length_take]
      have cut : min least (least + 1) = least := by omega
      have rest : least - min (least + 1) done.length = least - done.length := by omega
      rw [cut, rest]

theorem Holds.publishEntries
    (holds : Holds (outer :: inner) cache ((done ++ survivors).take (narrowest outer inner)))
    (distinct : order.Distinct) (self : ∀ entry ∈ order, entry.1.same entry.1)
    (apart : ∀ entry ∈ order, ∀ own ∈ done, ¬own.1.same entry.1) :
    ∃ left, List.Sublist left survivors ∧
      Holds (outer :: inner) (StagedWrites.publishEntries order cache)
        ((order.reverse ++ (done ++ left)).take (narrowest outer inner)) := by
  -- `done` was published before, and stands in front of what is left of the survivors
  induction order generalizing cache done survivors with
  | nil => exact ⟨survivors, List.Sublist.refl _, holds⟩
  | cons entry rest ih =>
      obtain ⟨key, value⟩ := entry
      obtain ⟨first, later⟩ := List.pairwise_cons.1 distinct
      obtain ⟨own, others⟩ := List.forall_mem_cons.1 self
      obtain ⟨here, behind⟩ := List.forall_mem_cons.1 apart
      have put := holds.put own value
      rw [limited_eq_take, take_moved here] at put
      obtain ⟨left, sublist, after⟩ := ih put later others fun entry mem =>
        List.forall_mem_cons.2 ⟨first entry mem, behind entry mem⟩
      refine ⟨left, sublist.trans (List.filter_sublist.trans (List.take_sublist _ _)), ?_⟩
      rw [List.reverse_cons, List.append_assoc]
      exact after

theorem Holds.publish (holds : Holds (outer :: inner) cache list) (cleared : Bool)
    (distinct : order.Distinct) (self : ∀ entry ∈ order, entry.1.same entry.1) :
    ∃ left, List.Sublist left (if cleared then [] else list) ∧
      Holds (outer :: inner) (StagedWrites.publish ⟨cleared, staged⟩ order cache)
        ((order.reverse ++ left).take (narrowest outer inner)) := by
  have started : Holds (outer :: inner) (if cleared then cache.clear else cache)
      (([] ++ if cleared then [] else list).take (narrowest outer inner)) := by
    cases cleared with
    | true => simpa using holds.clear
    | false => simpa [List.take_of_length_le holds.length_le] using holds
  exact started.publishEntries distinct self (by simp)

/-- Bounded caches around a new one, after any requests, that staged writes with distinct keys are
published to in any order. They hold no more than the least capacity. Unless that is exceeded by the
writes alone, all of these are present, and any other entry was there before, in a cache that was not
cleared. Otherwise the last writes fill the caches. -/
theorem publish_layered (outer : Nat) (inner : List Nat) {requests : List Request}
    (wellFormed : ∀ request ∈ requests, request.WellFormed)
    (distinct : staged.Distinct) (proper : ∀ entry ∈ staged, entry.1.WellFormed) (cleared : Bool)
    (perm : order.Perm staged) :
    let least := narrowest outer inner
    let before := (Request.serve Request.onCache size requests (layered (outer :: inner))).2
    let after := StagedWrites.publish ⟨cleared, staged⟩ order before
    after.size ≤ least ∧
      (staged.length ≤ least →
        (∀ entry ∈ staged, (after.get? entry.1).1 = some entry.2) ∧
          ∀ key value, (after.get? key).1 = some value → Entries.get? staged key = none →
            cleared = false ∧ (before.get? key).1 = some value) ∧
      (least < staged.length →
        after.size = least ∧
          (∀ key, (after.get? key).1 = Entries.get? (order.reverse.take least) key) ∧
          ∀ key value, (after.get? key).1 = some value → Entries.get? staged key = some value) := by
  intro least before after
  obtain ⟨-, held⟩ := (holds_layered (outer :: inner)).serve wellFormed
  have self : ∀ entry ∈ order, entry.1.same entry.1 := fun entry mem =>
    (proper entry (perm.mem_iff.1 mem)).same_self
  obtain ⟨left, sublist, holds⟩ := held.publish cleared (distinct.perm perm) self
  have written : order.reverse.length = staged.length := by rw [List.length_reverse, perm.length_eq]
  have staged_of_mem {entry} (mem : entry ∈ order.reverse) {key} (same : entry.1.same key) :
      Entries.get? staged key = some entry.2 :=
    (Entries.get?_eq_some distinct).2 ⟨entry, perm.mem_iff.1 (List.mem_reverse.1 mem), same, rfl⟩
  refine ⟨holds.size.trans_le holds.length_le,
    fun fits => ⟨fun entry mem => ?_, fun key value found unstaged => ?_⟩, fun full => ?_⟩
  · -- the last written stand first, and all of them are among the first `least`
    have kept : entry ∈ (order.reverse ++ left).take least := by
      rw [List.take_append, List.take_of_length_le (written.trans_le fits)]
      exact List.mem_append_left _ (List.mem_reverse.2 (perm.mem_iff.2 mem))
    exact holds.get?_eq_some.2 ⟨entry, kept, (proper entry mem).same_self, rfl⟩
  · obtain ⟨entry, mem, same, rfl⟩ := holds.get?_eq_some.1 found
    rcases List.mem_append.1 (List.mem_of_mem_take mem) with mem | mem
    · rw [staged_of_mem mem same] at unstaged
      cases unstaged
    · have survived := sublist.subset mem
      cases cleared with
      | true => cases survived
      | false => exact ⟨rfl, held.get?_eq_some.2 ⟨entry, survived, same, rfl⟩⟩
  · have crowded : least ≤ order.reverse.length := full.le.trans_eq written.symm
    rw [List.take_append_of_le_length crowded] at holds
    refine ⟨holds.size.trans (List.length_take_of_le crowded), holds.get?_fst,
      fun key value found => ?_⟩
    obtain ⟨entry, mem, same, rfl⟩ := holds.get?_eq_some.1 found
    exact staged_of_mem (List.mem_of_mem_take mem) same

theorem publish_layered_pair :
    let b : CacheKey := ⟨[.text "b"]⟩
    let c : CacheKey := ⟨[.text "c"]⟩
    let before := (Request.serve Request.onCache size [.put ⟨[.int 1]⟩ .null] (layered [3, 2])).2
    let after := StagedWrites.publish ⟨false, [(b, .null), (c, .rows [])]⟩
      [(c, .rows []), (b, .null)] before
    after.size ≤ 2 ∧ (after.get? b).1 = some .null ∧ (after.get? c).1 = some (.rows []) := by
  intro b c before after
  have wellFormed : ∀ request ∈ [Request.put ⟨[.int 1]⟩ .null], request.WellFormed := by
    simp [Request.WellFormed, CacheKey.WellFormed, Value.documentsItems, Value.documents]
  have distinct : Distinct [(b, CachedValue.null), (c, .rows [])] := List.pairwise_pair.2 (by decide)
  have proper : ∀ entry ∈ [(b, CachedValue.null), (c, .rows [])], entry.1.WellFormed := by
    simp [CacheKey.WellFormed, Value.documentsItems, Value.documents, b, c]
  obtain ⟨bounded, present, -⟩ :=
    publish_layered 3 [2] wellFormed distinct proper false (List.Perm.swap _ _ [])
  obtain ⟨kept, -⟩ := present (by decide)
  exact ⟨bounded, kept _ List.mem_cons_self, kept _ (List.mem_cons_of_mem _ List.mem_cons_self)⟩

/-- A cache of two entries lacks one of two that are published, in either order, where there is room
for one alone in the cache inside. It holds three where the cache inside was not new. -/
theorem exists_not_published :
    (∃ first second : CacheKey × CachedValue, Distinct [first, second] ∧
      ∀ order ∈ [[first, second], [second, first]], ∃ entry ∈ [first, second],
        ((StagedWrites.publish ⟨false, [first, second]⟩ order
          (boundedBy 2 (boundedBy 1 empty))).get? entry.1).1 = none) ∧
    ∃ (first second : CacheKey) (staged : Entries CachedValue), staged.Distinct ∧
      (StagedWrites.publish ⟨false, staged⟩ staged
        (boundedBy 2 ((empty.put first .null).put second .null))).size = 3 := by
  let a : CacheKey := ⟨[.text "a"]⟩
  let b : CacheKey := ⟨[.text "b"]⟩
  let c : CacheKey := ⟨[.text "c"]⟩
  refine ⟨⟨(a, .null), (b, .null), List.pairwise_pair.2 (by decide), ?_⟩,
    a, b, [(c, .null)], List.pairwise_singleton _ _, by rfl⟩
  refine List.forall_mem_cons.2 ⟨⟨_, List.mem_cons_self, by rfl⟩, List.forall_mem_singleton.2 ?_⟩
  exact ⟨_, List.mem_cons_of_mem _ List.mem_cons_self, by rfl⟩

end MappedSql.Cache
