import Mathlib.Data.List.Nodup
import MappedSql.Proofs.Cache.Overlay
import MappedSql.Proofs.Value.Documents

/-!
# Bounded caches as recency lists

A bounded cache over a perpetual one answers as a list of its entries would, the one that was touched
last first: a put and a hit move a key to the front, and a put that exceeds the capacity drops the
last one (`Cache.answers_boundedBy`). Its two books of touches are inverse to each other and list the
keys that the inner cache holds (`Recency.Books`).
-/

namespace MappedSql

/-! ## Keys that equal themselves -/

namespace Json

theorem same_self {j : Json} (wellFormed : j.WellFormed) : j.same j := by
  have kept : j.mapLeaves id = j := mapLeaves_eq_self_iff.2 fun _ _ => rfl
  have leaves : (j.mapLeaves id).same j := same_mapLeaves_iff.2 fun leaf mem => by
    cases leaf with
    | float x =>
        have finite := wellFormed.finite mem
        exact (Binary64.numEq_iff_scaled finite finite).2 rfl
    | arr | obj => cases isLeaf_of_mem_leaves mem
    | _ => simp [same]
  rwa [kept] at leaves

end Json

namespace Value

mutual

def documents : Value → List Json
  | json j => [j]
  | list items => documentsItems items
  | map fields | record _ fields => documentsFields fields
  | _ => []

def documentsItems : List Value → List Json
  | [] => []
  | item :: rest => documents item ++ documentsItems rest

def documentsFields : List (String × Value) → List Json
  | [] => []
  | (_, value) :: rest => documents value ++ documentsFields rest

end

mutual

theorem same_self : ∀ {v : Value}, (∀ j ∈ v.documents, j.WellFormed) → v.same v
  | .null, _ => rfl
  | .bool _, _ | .int _, _ | .text _, _ | .timestamp _, _ | .blob _, _ => by simp [same]
  | .float x, _ => by simp [same, Binary64.same]
  | .json j, wellFormed => Json.same_self (wellFormed j List.mem_cons_self)
  | .list _, wellFormed => sameItems_self wellFormed
  | .map _, wellFormed => sameFields_self wellFormed
  | .record name _, wellFormed => by
      rw [same, Bool.and_eq_true]
      exact ⟨beq_self_eq_true name, sameFields_self wellFormed⟩

theorem sameItems_self : ∀ {items : List Value}, (∀ j ∈ documentsItems items, j.WellFormed) →
    sameItems items items
  | [], _ => rfl
  | item :: rest, wellFormed => by
      rw [documentsItems, List.forall_mem_append] at wellFormed
      rw [sameItems, Bool.and_eq_true]
      exact ⟨same_self wellFormed.1, sameItems_self wellFormed.2⟩

theorem sameFields_self : ∀ {fields : List (String × Value)},
    (∀ j ∈ documentsFields fields, j.WellFormed) → sameFields fields fields
  | [], _ => rfl
  | (name, value) :: rest, wellFormed => by
      rw [documentsFields, List.forall_mem_append] at wellFormed
      rw [sameFields, Bool.and_eq_true, Bool.and_eq_true]
      exact ⟨⟨beq_self_eq_true name, same_self wellFormed.1⟩, sameFields_self wellFormed.2⟩

end

end Value

def CacheKey.WellFormed (key : CacheKey) : Prop :=
  ∀ j ∈ Value.documentsItems key.parts, j.WellFormed

theorem CacheKey.WellFormed.same_self {key : CacheKey} (wellFormed : key.WellFormed) :
    key.same key := by
  rw [same, Bool.and_eq_true]
  exact ⟨Value.sameItems_self wellFormed, beq_self_eq_true _⟩

/-! ## Entries that agree -/

namespace Entries

variable {α : Type} {entries a b : Entries α} {key : CacheKey} {value : α}

theorem get?_congr {k l : CacheKey} (equal : k.same l) (entries : Entries α) :
    get? entries k = get? entries l := by
  induction entries with
  | nil => rfl
  | cons entry rest ih =>
      have alike : entry.1.same k = entry.1.same l := by
        rw [Bool.eq_iff_iff]
        exact ⟨fun same => CacheKey.same_trans same equal,
          fun same => CacheKey.same_trans same (CacheKey.same_symm equal)⟩
      rw [get?, get?, alike, ih]

theorem get?_erase (entries : Entries α) (key other : CacheKey) :
    get? (erase entries key) other = if key.same other then none else get? entries other := by
  induction entries with
  | nil => simp [erase, get?]
  | cons entry rest ih =>
      have step : erase (entry :: rest) key =
          if entry.1.same key then erase rest key else entry :: erase rest key := by
        cases gone : entry.1.same key <;> simp [erase, gone]
      rw [step, get?]
      by_cases gone : entry.1.same key
      · rw [if_pos gone, ih]
        by_cases same : key.same other
        · rw [if_pos same, if_pos same]
        · have apart : ¬entry.1.same other := fun equal =>
            same (CacheKey.same_trans (CacheKey.same_symm gone) equal)
          rw [if_neg same, if_neg same, if_neg apart]
      · rw [if_neg gone, get?, ih]
        by_cases here : entry.1.same other
        · have apart : ¬key.same other := fun equal =>
            gone (CacheKey.same_trans here (CacheKey.same_symm equal))
          rw [if_pos here, if_neg apart, if_pos here]
        · rw [if_neg here, if_neg here]

theorem isSome_get? : (get? entries key).isSome ↔ ∃ entry ∈ entries, entry.1.same key := by
  constructor
  · intro some
    obtain ⟨value, found⟩ := Option.isSome_iff_exists.1 some
    obtain ⟨entry, mem, same, -⟩ := mem_of_get? found
    exact ⟨entry, mem, same⟩
  · rintro ⟨entry, mem, same⟩
    induction entries with
    | nil => cases mem
    | cons head rest ih =>
        rw [get?]
        split
        · rfl
        · next apart =>
            rcases List.mem_cons.1 mem with rfl | mem
            · exact absurd same apart
            · exact ih mem

theorem length_put (entries : Entries α) (key : CacheKey) (value : α) :
    (put entries key value).length =
      if (get? entries key).isSome then entries.length else entries.length + 1 := by
  induction entries with
  | nil => rfl
  | cons entry rest ih =>
      rw [put, get?]
      split
      · rfl
      · rw [List.length_cons, ih]
        split <;> rfl

theorem erase_eq_self (absent : ¬(get? entries key).isSome) : erase entries key = entries := by
  refine List.filter_eq_self.2 fun entry mem => ?_
  have apart : ¬entry.1.same key := fun same => absent (isSome_get?.2 ⟨entry, mem, same⟩)
  simpa using apart

theorem Distinct.erase (distinct : entries.Distinct) (key : CacheKey) :
    (Entries.erase entries key).Distinct :=
  List.Pairwise.filter _ distinct

theorem Distinct.length_erase (distinct : entries.Distinct) (key : CacheKey) :
    (Entries.erase entries key).length =
      if (get? entries key).isSome then entries.length - 1 else entries.length := by
  induction entries with
  | nil => rfl
  | cons entry rest ih =>
      obtain ⟨apart, others⟩ := List.pairwise_cons.1 distinct
      by_cases here : entry.1.same key
      · have absent : ¬(get? rest key).isSome := by
          rw [isSome_get?]
          rintro ⟨other, mem, same⟩
          exact apart other mem (CacheKey.same_trans here (CacheKey.same_symm same))
        have gone : Entries.erase (entry :: rest) key = Entries.erase rest key := by
          simp [Entries.erase, here]
        rw [gone, erase_eq_self absent, get?, if_pos here]
        rfl
      · have kept : Entries.erase (entry :: rest) key = entry :: Entries.erase rest key := by
          simp [Entries.erase, here]
        rw [kept, get?, if_neg here, List.length_cons, ih others, List.length_cons]
        by_cases present : (get? rest key).isSome
        · obtain ⟨other, mem, -⟩ := isSome_get?.1 present
          have some := List.length_pos_of_mem mem
          rw [if_pos present, if_pos present]
          omega
        · rw [if_neg present, if_neg present]

theorem Distinct.moved (distinct : entries.Distinct) (key : CacheKey) (value : α) :
    Distinct ((key, value) :: Entries.erase entries key) := by
  refine List.pairwise_cons.2 ⟨fun entry mem same => ?_, distinct.erase key⟩
  have apart := (List.mem_filter.1 mem).2
  rw [CacheKey.same_symm same] at apart
  cases apart

structure Agree (a b : Entries α) : Prop where
  left : a.Distinct
  right : b.Distinct
  length : a.length = b.length
  get? : ∀ key, Entries.get? a key = Entries.get? b key

theorem Agree.nil : Agree ([] : Entries α) [] :=
  ⟨distinct_nil, distinct_nil, rfl, fun _ => rfl⟩

theorem Agree.erase (agree : Agree a b) (key : CacheKey) :
    Agree (Entries.erase a key) (Entries.erase b key) where
  left := agree.left.erase key
  right := agree.right.erase key
  length := by
    rw [agree.left.length_erase, agree.right.length_erase, agree.length, agree.get?]
  get? := fun other => by rw [get?_erase, get?_erase, agree.get?]

theorem length_moved (distinct : entries.Distinct) (key : CacheKey) (value : α) :
    ((key, value) :: Entries.erase entries key).length =
      if (Entries.get? entries key).isSome then entries.length else entries.length + 1 := by
  rw [List.length_cons, distinct.length_erase]
  by_cases present : (Entries.get? entries key).isSome
  · obtain ⟨other, mem, -⟩ := isSome_get?.1 present
    have some := List.length_pos_of_mem mem
    rw [if_pos present, if_pos present]
    omega
  · rw [if_neg present, if_neg present]

theorem Agree.put (agree : Agree a b) (key : CacheKey) (value : α) :
    Agree (Entries.put a key value) ((key, value) :: Entries.erase b key) where
  left := agree.left.put key value
  right := agree.right.moved key value
  length := by rw [length_put, length_moved agree.right, agree.length, agree.get?]
  get? := fun other => by
    rw [get?_put, Entries.get?, get?_erase, agree.get?]
    split <;> rfl

theorem Agree.moved (agree : Agree a b) (found : Entries.get? b key = some value) :
    Agree a ((key, value) :: Entries.erase b key) where
  left := agree.left
  right := agree.right.moved key value
  length := by rw [length_moved agree.right, found, agree.length]; rfl
  get? := fun other => by
    rw [Entries.get?, get?_erase, agree.get?]
    by_cases same : key.same other
    · rw [if_pos same, ← get?_congr same, found]
    · rw [if_neg same, if_neg same]

theorem Agree.perm {order : Entries α} (agree : Agree a b) (perm : order.Perm b) : Agree a order where
  left := agree.left
  right := agree.right.perm perm
  length := agree.length.trans perm.length_eq.symm
  get? := fun key => by rw [get?_perm agree.right perm, agree.get?]

theorem erase_of_last {front : Entries α} {last : CacheKey × α} (distinct : Distinct (front ++ [last]))
    (self : last.1.same last.1) : Entries.erase (front ++ [last]) last.1 = front := by
  have apart : ∀ entry ∈ front, ¬entry.1.same last.1 := fun entry mem =>
    (List.pairwise_append.1 distinct).2.2 entry mem last (List.mem_singleton_self last)
  have kept : Entries.erase front last.1 = front := by
    refine List.filter_eq_self.2 fun entry mem => ?_
    simpa using apart entry mem
  rw [Entries.erase, List.filter_append]
  exact (congrArg₂ _ kept (by simp [self])).trans (List.append_nil front)

theorem erase_of_first {first : CacheKey × α} {rest : Entries α} (distinct : Distinct (first :: rest))
    (self : first.1.same first.1) : Entries.erase (first :: rest) first.1 = rest := by
  have apart := (List.pairwise_cons.1 distinct).1
  have kept : Entries.erase rest first.1 = rest := by
    refine List.filter_eq_self.2 fun entry mem => ?_
    have differs : ¬entry.1.same first.1 := fun same => apart entry mem (CacheKey.same_symm same)
    simpa using differs
  rw [Entries.erase, List.filter_cons_of_neg (by simp [self])]
  exact kept

end Entries

/-! ## The books of touches -/

namespace Recency

open Entries (Agree)

def marks (recency : Recency) : Entries Nat :=
  recency.byTick.map fun (tick, key) => (key, tick)

structure Books (recency : Recency) : Prop where
  agree : Agree recency.byKey recency.marks
  grows : recency.byTick.Pairwise fun a b => a.1 < b.1
  bounded : ∀ entry ∈ recency.byTick, entry.1 ≤ recency.tick

variable {recency : Recency} {key : CacheKey}

theorem books_new : Books {} :=
  ⟨.nil, .nil, by simp⟩

theorem Books.eq_of_tick (books : recency.Books) {a b : Nat × CacheKey} (left : a ∈ recency.byTick)
    (right : b ∈ recency.byTick) (same : a.1 = b.1) : a = b := by
  have nodup : (recency.byTick.map Prod.fst).Nodup :=
    List.pairwise_map.2 (books.grows.imp Nat.ne_of_lt)
  exact List.inj_on_of_nodup_map nodup left right same

theorem Books.inverse (books : recency.Books) {key : CacheKey} {tick : Nat} :
    Entries.get? recency.byKey key = some tick ↔
      ∃ own, (tick, own) ∈ recency.byTick ∧ own.same key := by
  rw [books.agree.get?, Entries.get?_eq_some books.agree.right]
  constructor
  · rintro ⟨entry, mem, same, rfl⟩
    obtain ⟨⟨tick, own⟩, down, rfl⟩ := List.mem_map.1 mem
    exact ⟨own, down, same⟩
  · rintro ⟨own, down, same⟩
    exact ⟨(own, tick), List.mem_map_of_mem down, same, rfl⟩

theorem Books.dropTick (books : recency.Books) (key : CacheKey) :
    recency.dropTick (Entries.get? recency.byKey key) =
      recency.byTick.filter fun entry => !entry.2.same key := by
  cases found : Entries.get? recency.byKey key with
  | none =>
      refine (List.filter_eq_self.2 fun entry mem => ?_).symm
      have apart : ¬entry.2.same key := fun same => by
        rw [books.inverse.2 ⟨entry.2, mem, same⟩] at found
        cases found
      simpa using apart
  | some old =>
      obtain ⟨own, down, same⟩ := books.inverse.1 found
      refine List.filter_congr fun entry mem => ?_
      rw [Bool.eq_iff_iff, bne_iff_ne, Bool.not_eq_true']
      constructor
      · intro other
        refine Bool.eq_false_iff.2 fun equal => other ?_
        have again := books.inverse.2 ⟨entry.2, mem, equal⟩
        exact Option.some.inj (again.symm.trans found)
      · intro apart equal
        obtain rfl := books.eq_of_tick mem down equal
        rw [same] at apart
        cases apart

theorem Books.marks_drop (books : recency.Books) (key : CacheKey) :
    (recency.dropTick (Entries.get? recency.byKey key)).map (fun (tick, key) => (key, tick)) =
      Entries.erase recency.marks key := by
  rw [books.dropTick, marks, Entries.erase, List.filter_map]
  rfl

theorem Books.sublist (books : recency.Books) (key : CacheKey) :
    (recency.dropTick (Entries.get? recency.byKey key)).Sublist recency.byTick := by
  rw [books.dropTick]
  exact List.filter_sublist

theorem Books.touch (books : recency.Books) (key : CacheKey) : (recency.touch key).Books where
  agree := by
    have marked : (recency.touch key).marks =
        Entries.erase recency.marks key ++ [(key, recency.tick + 1)] := by
      rw [← books.marks_drop]
      exact List.map_append
    rw [marked]
    exact (books.agree.put key _).perm (List.perm_append_singleton _ _)
  grows := by
    refine List.pairwise_append.2 ⟨books.grows.sublist (books.sublist key),
      List.pairwise_singleton _ _, fun entry mem last among => ?_⟩
    obtain rfl := List.mem_singleton.1 among
    exact Nat.lt_succ_of_le (books.bounded entry ((books.sublist key).subset mem))
  bounded := by
    intro entry mem
    rcases List.mem_append.1 mem with mem | last
    · exact Nat.le_succ_of_le (books.bounded entry ((books.sublist key).subset mem))
    · obtain rfl := List.mem_singleton.1 last
      exact Nat.le_refl _

theorem Books.forget (books : recency.Books) (key : CacheKey) : (recency.forget key).Books where
  agree := by
    have marked : (recency.forget key).marks = Entries.erase recency.marks key :=
      books.marks_drop key
    rw [marked]
    exact books.agree.erase key
  grows := books.grows.sublist (books.sublist key)
  bounded := fun entry mem => books.bounded entry ((books.sublist key).subset mem)

theorem Books.popEldest (books : recency.Books) {tick : Nat} {rest : List (Nat × CacheKey)}
    (eldest : recency.byTick = (tick, key) :: rest) (self : key.same key) :
    ∃ left, recency.popEldest = some (key, left) ∧ left.byTick = rest ∧ left.Books := by
  obtain ⟨now, byKey, byTick⟩ := recency
  obtain rfl : byTick = (tick, key) :: rest := eldest
  refine ⟨_, rfl, rfl, ?_, (List.pairwise_cons.1 books.grows).2,
    fun entry mem => books.bounded entry (List.mem_cons_of_mem _ mem)⟩
  have agree := books.agree.erase key
  have gone : Entries.erase (marks ⟨now, byKey, (tick, key) :: rest⟩) key =
      rest.map fun (tick, key) => (key, tick) :=
    Entries.erase_of_first books.agree.right self
  rw [gone] at agree
  exact agree

end Recency

/-! ## Recency lists -/

namespace Cache

open Entries (Agree)

structure Lists (recency : Recency) (entries list : Entries CachedValue) : Prop where
  books : recency.Books
  agree : Agree entries list
  keys : list.map Prod.fst = (recency.byTick.map Prod.snd).reverse
  self : ∀ entry ∈ list, entry.1.same entry.1

def trimmed (capacity : Nat) (list : Entries CachedValue) : Entries CachedValue :=
  if capacity < list.length then list.dropLast else list

variable {recency : Recency} {entries list : Entries CachedValue} {key : CacheKey}
  {value : CachedValue} {capacity : Nat}

theorem lists_new : Lists {} [] [] :=
  ⟨Recency.books_new, .nil, rfl, by simp⟩

theorem Lists.length_byKey (lists : Lists recency entries list) :
    recency.byKey.length = list.length := by
  have marked : recency.marks.length = recency.byTick.length := List.length_map _
  have listed := congrArg List.length lists.keys
  rw [List.length_map, List.length_reverse, List.length_map] at listed
  rw [lists.books.agree.length, marked, listed]

theorem Lists.keys_erase (lists : Lists recency entries list) (key : CacheKey) :
    (Entries.erase list key).map Prod.fst =
      ((recency.dropTick (Entries.get? recency.byKey key)).map Prod.snd).reverse := by
  have filtered : (Entries.erase list key).map Prod.fst =
      (list.map Prod.fst).filter fun own => !own.same key := by
    rw [Entries.erase, List.filter_map]
    rfl
  rw [filtered, lists.keys, lists.books.dropTick, List.filter_reverse, List.filter_map]
  rfl

theorem Lists.touch (lists : Lists recency entries list) (self : key.same key)
    {after : Entries CachedValue} (agree : Agree after ((key, value) :: Entries.erase list key)) :
    Lists (recency.touch key) after ((key, value) :: Entries.erase list key) where
  books := lists.books.touch key
  agree := agree
  keys := by
    rw [List.map_cons, lists.keys_erase key]
    show _ = ((_ ++ [(_, key)]).map Prod.snd).reverse
    rw [List.map_append, List.reverse_append]
    rfl
  self := by
    refine List.forall_mem_cons.2 ⟨self, fun entry mem => ?_⟩
    exact lists.self entry (List.mem_filter.1 mem).1

theorem Lists.forget (lists : Lists recency entries list) (key : CacheKey) :
    Lists (recency.forget key) (Entries.erase entries key) (Entries.erase list key) where
  books := lists.books.forget key
  agree := lists.agree.erase key
  keys := lists.keys_erase key
  self := fun entry mem => lists.self entry (List.mem_filter.1 mem).1

theorem Lists.popEldest {last : CacheKey × CachedValue}
    (lists : Lists recency entries (list ++ [last])) :
    ∃ left, recency.popEldest = some (last.1, left) ∧
      Lists left (Entries.erase entries last.1) list := by
  have self : last.1.same last.1 := lists.self last (by simp)
  have keys := congrArg List.reverse lists.keys
  rw [List.reverse_reverse, List.map_append, List.reverse_append] at keys
  obtain ⟨⟨tick, own⟩, rest, eldest, rfl, others⟩ :
      ∃ entry rest, recency.byTick = entry :: rest ∧ last.1 = entry.2 ∧
        (list.map Prod.fst).reverse = rest.map Prod.snd := by
    cases down : recency.byTick with
    | nil => rw [down] at keys; cases keys
    | cons entry rest =>
        rw [down] at keys
        obtain ⟨first, others⟩ := List.cons.inj keys
        exact ⟨entry, rest, rfl, first, others⟩
  obtain ⟨left, popped, behind, books⟩ := lists.books.popEldest eldest self
  have agree := lists.agree.erase last.1
  rw [Entries.erase_of_last lists.agree.right self] at agree
  exact ⟨left, popped, books, agree, by rw [behind, ← others, List.reverse_reverse],
    fun entry mem => lists.self entry (List.mem_append_left _ mem)⟩

theorem evict_of_length_le (few : recency.byKey.length ≤ capacity) (inner : Cache) (excess : Nat) :
    evict capacity recency inner excess = (recency, inner) := by
  cases excess with
  | zero => rfl
  | succ excess => rw [evict, if_neg (Nat.not_lt_of_le few)]

theorem Lists.evict_last {last : CacheKey × CachedValue}
    (lists : Lists recency entries (list ++ [last])) (full : list.length = capacity)
    {excess : Nat} (some : 0 < excess) (inner : Cache) :
    ∃ left, Cache.evict capacity recency inner excess = (left, (inner.remove last.1).2) ∧
      Lists left (Entries.erase entries last.1) list := by
  obtain ⟨excess, rfl⟩ := Nat.exists_eq_succ_of_ne_zero some.ne'
  obtain ⟨left, popped, kept⟩ := lists.popEldest
  have crowded : capacity < recency.byKey.length := by
    rw [lists.length_byKey, List.length_append, full]
    exact Nat.lt_succ_self _
  refine ⟨left, ?_, kept⟩
  rw [Cache.evict, if_pos crowded, popped]
  exact evict_of_length_le (by rw [kept.length_byKey, full]) _ _

theorem Lists.evict (lists : Lists recency entries list) (few : list.length ≤ capacity + 1)
    {excess : Nat} (some : 0 < excess) :
    ∃ left kept, evict capacity recency (.perpetual entries) excess = (left, .perpetual kept) ∧
      Lists left kept (trimmed capacity list) := by
  by_cases full : capacity < list.length
  · have nonempty : list ≠ [] := List.ne_nil_of_length_pos (Nat.zero_lt_of_lt full)
    obtain ⟨front, last, rfl⟩ := (List.eq_nil_or_concat' list).resolve_left nonempty
    have filled : front.length = capacity := by
      rw [List.length_append, List.length_singleton] at few full
      omega
    obtain ⟨left, evicted, kept⟩ := lists.evict_last filled some (.perpetual entries)
    exact ⟨left, _, evicted, by rwa [trimmed, if_pos full, List.dropLast_concat]⟩
  · rw [evict_of_length_le (lists.length_byKey.trans_le (Nat.le_of_not_lt full)), trimmed,
      if_neg full]
    exact ⟨recency, entries, rfl, lists⟩

theorem length_trimmed (few : list.length ≤ capacity + 1) :
    (trimmed capacity list).length ≤ capacity := by
  rw [trimmed]
  split
  · rw [List.length_dropLast]
    omega
  · omega

/-! ## Requests -/

inductive Request
  | put (key : CacheKey) (value : CachedValue)
  | get (key : CacheKey)
  | remove (key : CacheKey)
  | clear

namespace Request

def WellFormed : Request → Prop
  | put key _ | get key | remove key => key.WellFormed
  | clear => True

def onCache : Request → Cache → Option CachedValue × Cache
  | put key value, cache => (none, cache.put key value)
  | get key, cache => cache.get? key
  | remove key, cache => cache.remove key
  | clear, cache => (none, cache.clear)

/-- What a request answers and what it makes of a recency list of at most so many entries. -/
def onList (capacity : Nat) : Request → Entries CachedValue → Option CachedValue × Entries CachedValue
  | put key value, list => (none, trimmed capacity ((key, value) :: Entries.erase list key))
  | get key, list =>
      match Entries.get? list key with
      | some value => (some value, (key, value) :: Entries.erase list key)
      | none => (none, list)
  | remove key, list => (Entries.get? list key, Entries.erase list key)
  | clear, _ => (none, [])

/-- The answers to requests, each with the size behind it, and what they make of a state. -/
def serve {σ : Type} (act : Request → σ → Option CachedValue × σ) (size : σ → Nat) :
    List Request → σ → List (Option CachedValue × Nat) × σ
  | [], state => ([], state)
  | request :: rest, state =>
      let (answer, next) := act request state
      let (answers, last) := serve act size rest next
      ((answer, size next) :: answers, last)

end Request

theorem Lists.request (lists : Lists recency entries list) (within : list.length ≤ capacity)
    {request : Request} (wellFormed : request.WellFormed) :
    ∃ left kept, request.onCache (.bounded capacity recency (.perpetual entries)) =
        ((request.onList capacity list).1, .bounded capacity left (.perpetual kept)) ∧
      Lists left kept (request.onList capacity list).2 ∧
        (request.onList capacity list).2.length ≤ capacity := by
  cases request with
  | put key value =>
      have self : key.same key := CacheKey.WellFormed.same_self wellFormed
      have touched := lists.touch self (lists.agree.put key value)
      -- one entry too many at most, which the eviction takes off the end
      have few : ((key, value) :: Entries.erase list key).length ≤ capacity + 1 := by
        rw [Entries.length_moved lists.agree.right]
        split <;> omega
      have some : 0 < (recency.touch key).byKey.length := by
        rw [touched.length_byKey]
        exact Nat.succ_pos _
      obtain ⟨left, kept, evicted, after⟩ := touched.evict few some
      refine ⟨left, kept, ?_, after, length_trimmed few⟩
      show (none, Cache.put _ key value) = _
      rw [Cache.put, Cache.put, evicted]
      rfl
  | get key =>
      have self : key.same key := CacheKey.WellFormed.same_self wellFormed
      have looked : Request.onCache (.get key) (.bounded capacity recency (.perpetual entries)) =
          (Entries.get? list key, .bounded capacity
            (if (Entries.get? list key).isSome then recency.touch key else recency)
            (.perpetual entries)) := by
        rw [← lists.agree.get?]
        rfl
      rw [looked, Request.onList]
      cases found : Entries.get? list key with
      | none => exact ⟨recency, entries, rfl, lists, within⟩
      | some value =>
          refine ⟨recency.touch key, entries, rfl, lists.touch self (lists.agree.moved found), ?_⟩
          dsimp only
          rw [Entries.length_moved lists.agree.right, found]
          exact within
  | remove key =>
      refine ⟨recency.forget key, Entries.erase entries key, ?_, lists.forget key,
        (List.length_filter_le _ _).trans within⟩
      show (Entries.get? entries key, _) = _
      rw [lists.agree.get?]
      rfl
  | clear => exact ⟨{}, [], rfl, lists_new, Nat.zero_le _⟩

theorem Lists.serve (lists : Lists recency entries list) (within : list.length ≤ capacity)
    {requests : List Request} (wellFormed : ∀ request ∈ requests, request.WellFormed) :
    ∃ left kept, Request.serve Request.onCache size requests
        (.bounded capacity recency (.perpetual entries)) =
          ((Request.serve (Request.onList capacity) List.length requests list).1,
            .bounded capacity left (.perpetual kept)) ∧
      Lists left kept (Request.serve (Request.onList capacity) List.length requests list).2 ∧
        (Request.serve (Request.onList capacity) List.length requests list).2.length ≤ capacity := by
  induction requests generalizing recency entries list with
  | nil => exact ⟨recency, entries, rfl, lists, within⟩
  | cons request rest ih =>
      obtain ⟨first, others⟩ := List.forall_mem_cons.1 wellFormed
      obtain ⟨recency, entries, went, lists, within⟩ := lists.request within first
      obtain ⟨left, kept, served, last, fits⟩ := ih lists within others
      have sized : size (.bounded capacity recency (.perpetual entries)) =
          (request.onList capacity _).2.length := lists.agree.length
      refine ⟨left, kept, ?_, last, fits⟩
      simp only [Request.serve, went, served, sized]

theorem Lists.present (lists : Lists recency entries list) (key : CacheKey) :
    (Entries.get? recency.byKey key).isSome = (Entries.get? entries key).isSome := by
  have named : recency.marks.map Prod.fst = recency.byTick.map Prod.snd := List.map_map
  have keyed {α : Type} (entries : Entries α) : (Entries.get? entries key).isSome ↔
      ∃ own ∈ entries.map Prod.fst, own.same key := by
    simp [Entries.isSome_get?]
  rw [lists.books.agree.get?, lists.agree.get?, Bool.eq_iff_iff, keyed, keyed, lists.keys, named]
  simp only [List.mem_reverse]

/-- For any capacity and any requests, a new bounded cache over a perpetual one gives the answers and
has the sizes of a recency list, which never holds more than its capacity, at least one, of distinct
keys. The two books of touches stay inverse to each other, and list the keys of the inner cache. -/
theorem answers_boundedBy (capacity : Nat) (requests : List Request)
    (wellFormed : ∀ request ∈ requests, request.WellFormed) :
    let held := max capacity 1
    let served := Request.serve Request.onCache size requests (boundedBy capacity empty)
    let listed := Request.serve (Request.onList held) List.length requests []
    served.1 = listed.1 ∧ listed.2.length ≤ held ∧ listed.2.Distinct ∧
      ∃ recency entries, served.2 = .bounded held recency (.perpetual entries) ∧
        recency.byKey.Distinct ∧ recency.byTick.Pairwise (fun a b => a.1 < b.1) ∧
        (∀ key tick, Entries.get? recency.byKey key = some tick ↔
          ∃ own, (tick, own) ∈ recency.byTick ∧ own.same key) ∧
        entries.Distinct ∧
        ∀ key, (Entries.get? recency.byKey key).isSome = (Entries.get? entries key).isSome := by
  obtain ⟨left, kept, served, lists, within⟩ :=
    lists_new.serve (Nat.zero_le (max capacity 1)) wellFormed
  have started : boundedBy capacity empty = .bounded (max capacity 1) {} (.perpetual []) := rfl
  intro held answered listed
  have same : answered = (listed.1, .bounded held left (.perpetual kept)) := served
  rw [same]
  exact ⟨rfl, within, lists.agree.right, left, kept, rfl, lists.books.agree.left, lists.books.grows,
    fun key tick => lists.books.inverse, lists.agree.left, lists.present⟩

theorem answers_boundedBy_two :
    let a : CacheKey := ⟨[.text "a"]⟩
    let b : CacheKey := ⟨[.text "b"]⟩
    let zero : CacheKey := ⟨[.float .zero]⟩
    let minus : CacheKey := ⟨[.float (.neg .zero)]⟩
    (Request.serve Request.onCache size
      [.put a .null, .put b .null, .get a, .put zero (.rows []), .get b, .get a, .remove minus]
      (boundedBy 2 empty)).1 =
      [(none, 1), (none, 2), (some .null, 2), (none, 2), (none, 2), (some .null, 2),
        (some (.rows []), 1)] := by
  intro a b zero minus
  have wellFormed : ∀ request ∈ [Request.put a .null, .put b .null, .get a, .put zero (.rows []),
      .get b, .get a, .remove minus], request.WellFormed := by
    simp [Request.WellFormed, CacheKey.WellFormed, Value.documentsItems, Value.documents, a, b, zero,
      minus]
  exact (answers_boundedBy 2 _ wellFormed).1.trans (by rfl)

end Cache

end MappedSql
