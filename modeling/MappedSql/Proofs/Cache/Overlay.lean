import Mathlib.Logic.Function.Basic
import MappedSql.Proofs.Cache.Publishing

/-!
# Staged writes as an overlay

Any number of units of work read, stage, clear, commit and roll back at shared caches, in any order.
Each of them sees its own writes since it last ended or cleared the cache, below them nothing if it
cleared the cache, else the cache as it is; and a commit, in whatever order it writes the staged
entries, makes the caches what the unit of work saw (`Staging.seen_of_reaches`).
-/

namespace MappedSql

variable {ι : Type} [DecidableEq ι]

namespace Entries

variable {α : Type}

theorem same_congr {a b : CacheKey} (equal : a.same b) (c : CacheKey) : a.same c = b.same c := by
  rw [Bool.eq_iff_iff]
  exact ⟨CacheKey.same_trans (CacheKey.same_symm equal), CacheKey.same_trans equal⟩

theorem get?_put (entries : Entries α) (key other : CacheKey) (value : α) :
    get? (put entries key value) other =
      if key.same other then some value else get? entries other := by
  induction entries with
  | nil => rfl
  | cons entry rest ih =>
      obtain ⟨k, old⟩ := entry
      by_cases here : k.same key
      · rw [put, if_pos here, get?, get?, same_congr here]
        split <;> rfl
      · rw [put, if_neg here, get?, ih, get?]
        by_cases first : k.same other
        · have apart : ¬key.same other := fun same =>
            here (CacheKey.same_trans first (CacheKey.same_symm same))
          rw [if_pos first, if_neg apart, if_pos first]
        · rw [if_neg first, if_neg first]

def Distinct (entries : Entries α) : Prop :=
  entries.Pairwise fun a b => ¬a.1.same b.1

theorem distinct_nil : Distinct ([] : Entries α) :=
  List.Pairwise.nil

theorem Distinct.put {entries : Entries α} (distinct : entries.Distinct) (key : CacheKey)
    (value : α) : (Entries.put entries key value).Distinct := by
  induction entries with
  | nil => exact List.pairwise_singleton _ _
  | cons head rest ih =>
      obtain ⟨k, old⟩ := head
      obtain ⟨apart, others⟩ := List.pairwise_cons.1 distinct
      by_cases here : k.same key
      · rw [Entries.put, if_pos here]
        exact List.pairwise_cons.2 ⟨apart, others⟩
      · rw [Entries.put, if_neg here]
        refine List.pairwise_cons.2 ⟨fun entry mem => ?_, ih others⟩
        rcases of_mem_put mem with among | ⟨rfl | matched, -⟩
        · exact apart entry among
        · exact here
        · exact fun same => here (CacheKey.same_trans same (CacheKey.same_symm matched))

theorem get?_eq_some {entries : Entries α} (distinct : entries.Distinct) {key : CacheKey}
    {value : α} : get? entries key = some value ↔
      ∃ entry ∈ entries, entry.1.same key ∧ entry.2 = value := by
  refine ⟨mem_of_get?, ?_⟩
  rintro ⟨entry, mem, same, rfl⟩
  induction entries with
  | nil => cases mem
  | cons head rest ih =>
      obtain ⟨apart, others⟩ := List.pairwise_cons.1 distinct
      rcases List.mem_cons.1 mem with rfl | mem
      · rw [get?, if_pos same]
      · have differs : ¬head.1.same key := fun equal =>
          apart entry mem (CacheKey.same_trans equal (CacheKey.same_symm same))
        rw [get?, if_neg differs]
        exact ih others mem

theorem Distinct.perm {entries order : Entries α} (distinct : entries.Distinct)
    (perm : order.Perm entries) : order.Distinct :=
  (perm.pairwise_iff fun apart same => apart (CacheKey.same_symm same)).2 distinct

theorem get?_perm {entries order : Entries α} (distinct : entries.Distinct)
    (perm : order.Perm entries) (key : CacheKey) : get? order key = get? entries key := by
  ext value
  rw [get?_eq_some (distinct.perm perm), get?_eq_some distinct]
  simp only [perm.mem_iff]

end Entries

namespace SharedCaches

def lookUp (shared : SharedCaches) (id : String) (key : CacheKey) : Option CachedValue :=
  (Fields.get? shared id).bind fun cache => (cache.get? key).1

end SharedCaches

namespace StagedWrites

theorem get?_publishEntries {order : Entries CachedValue} (distinct : order.Distinct)
    (entries : Entries CachedValue) (key : CacheKey) :
    ((publishEntries order (.perpetual entries)).get? key).1 =
      (Entries.get? order key).or (Entries.get? entries key) := by
  induction order generalizing entries with
  | nil => rfl
  | cons write rest ih =>
      obtain ⟨k, value⟩ := write
      obtain ⟨apart, others⟩ := List.pairwise_cons.1 distinct
      have published : ((publishEntries rest (.perpetual (Entries.put entries k value))).get? key).1 =
          (Entries.get? rest key).or (Entries.get? (Entries.put entries k value) key) :=
        ih others _
      rw [publishEntries, Cache.put, published, Entries.get?_put, Entries.get?]
      by_cases own : k.same key
      · have unwritten : Entries.get? rest key = none := by
          rw [Option.eq_none_iff_forall_ne_some]
          rintro value found
          obtain ⟨entry, mem, same, -⟩ := Entries.mem_of_get? found
          exact apart entry mem (CacheKey.same_trans own (CacheKey.same_symm same))
        rw [if_pos own, if_pos own, unwritten]
        rfl
      · rw [if_neg own, if_neg own]

end StagedWrites

namespace Staging

/-- The touched caches take the staged entries in some order, cleared before if the work cleared
them. -/
def Commits (staging : Staging) (before after : SharedCaches) : Prop :=
  ∀ id, ∃ order : Entries CachedValue, order.Perm (of staging id).entries ∧
    Fields.get? after id = (Fields.get? before id).map fun cache =>
      StagedWrites.publishEntries order (if (of staging id).cleared then cache.clear else cache)

theorem commits_publish (drain : DrainOrder) (staging : Staging) (shared : SharedCaches) :
    Commits staging shared (publish staging shared drain) :=
  fun id => ⟨staging.drained drain id, drain.perm id _, get?_publish drain staging shared id⟩

theorem get?_of_known (staging : Staging) {shared : SharedCaches} {id : String}
    (known : (Fields.get? shared id).isSome) (key : CacheKey) :
    (get? staging id key shared).1 = (Entries.get? (of staging id).entries key).or
      (if (of staging id).cleared then none else shared.lookUp id key) := by
  obtain ⟨cache, found⟩ := Option.isSome_iff_exists.1 known
  rw [SharedCaches.lookUp, found]
  simp only [get?, found, StagedWrites.get?, Option.bind_some]
  cases Entries.get? (of staging id).entries key with
  | some value => rfl
  | none => cases (of staging id).cleared <;> rfl

def Distinct (staging : Staging) : Prop :=
  ∀ id, (of staging id).entries.Distinct

theorem distinct_nil : Distinct [] :=
  fun _ => Entries.distinct_nil

theorem Distinct.put {staging : Staging} (distinct : staging.Distinct) (own : String)
    (key : CacheKey) (value : CachedValue) : (Staging.put staging own key value).Distinct := by
  intro id
  rw [of_put]
  split
  · exact (distinct own).put key value
  · exact distinct id

theorem Distinct.clear {staging : Staging} (distinct : staging.Distinct) (own : String) :
    (Staging.clear staging own).Distinct := by
  intro id
  rw [of_clear]
  split
  · exact Entries.distinct_nil
  · exact distinct id

/-- After a commit to perpetual caches an entry is found if it was staged, else if it was there and the
cache was not cleared, in whatever order the entries were written. -/
theorem Commits.lookUp {staging : Staging} {before after : SharedCaches}
    (commits : staging.Commits before after) (perpetual : before.Perpetual)
    (distinct : staging.Distinct) {id : String} (known : (Fields.get? before id).isSome)
    (key : CacheKey) :
    after.lookUp id key = (Entries.get? (of staging id).entries key).or
      (if (of staging id).cleared then none else before.lookUp id key) := by
  obtain ⟨cache, found⟩ := Option.isSome_iff_exists.1 known
  obtain ⟨entries, rfl⟩ := perpetual id cache found
  obtain ⟨order, perm, committed⟩ := commits id
  have apart := (distinct id).perm perm
  rw [SharedCaches.lookUp, committed, found, SharedCaches.lookUp, found,
    ← Entries.get?_perm (distinct id) perm]
  cases (of staging id).cleared with
  | false => exact StagedWrites.get?_publishEntries apart entries key
  | true => exact StagedWrites.get?_publishEntries apart [] key

theorem of_eq_of_idle {staging : Staging} (idle : staging.isPending = false) (id : String) :
    of staging id = {} := by
  unfold of
  cases found : Fields.get? staging id with
  | none => rfl
  | some staged =>
      obtain ⟨cleared, entries⟩ := staged
      have quiet : StagedWrites.isPending ⟨cleared, entries⟩ = false := by
        rw [isPending, List.any_eq_false] at idle
        simpa using idle _ (Fields.mem_of_get? found)
      simp only [StagedWrites.isPending, Bool.or_eq_false_iff, Bool.not_eq_false',
        List.isEmpty_iff] at quiet
      obtain ⟨rfl, rfl⟩ := quiet
      rfl

/-- What a unit of work may do with the shared caches. -/
inductive Operation
  | get (id : String) (key : CacheKey)
  | put (id : String) (key : CacheKey) (value : CachedValue)
  | clear (id : String)
  | commit
  | rollback

/-- What an operation makes of the staged writes and of the shared caches. A commit may pass over
everything if nothing is pending. -/
inductive Step (staging : Staging) (shared : SharedCaches) :
    Operation → Staging → SharedCaches → Prop
  | get (id : String) (key : CacheKey) :
      Step staging shared (.get id key) staging (Staging.get? staging id key shared).2
  | put (id : String) (key : CacheKey) (value : CachedValue) :
      Step staging shared (.put id key value) (Staging.put staging id key value) shared
  | clear (id : String) : Step staging shared (.clear id) (Staging.clear staging id) shared
  | commit {after : SharedCaches} (commits : staging.Commits shared after) :
      Step staging shared .commit [] after
  | skip (idle : staging.isPending = false) : Step staging shared .commit staging shared
  | rollback : Step staging shared .rollback [] shared

/-- Units of work over shared caches, and what each of them has staged. -/
structure Crew (ι : Type) where
  staging : ι → Staging
  shared : SharedCaches

/-- The crews that operations lead to, the last operation first. -/
inductive Reaches (start : SharedCaches) : List (ι × Operation) → Crew ι → Prop
  | start : Reaches start [] ⟨fun _ => [], start⟩
  | step {history : List (ι × Operation)} {crew : Crew ι} (reached : Reaches start history crew)
      (work : ι) {operation : Operation} {staging : Staging} {shared : SharedCaches}
      (stepped : Step (crew.staging work) crew.shared operation staging shared) :
      Reaches start ((work, operation) :: history)
        ⟨Function.update crew.staging work staging, shared⟩

/-- The value that a unit of work put last under a key since it ended or cleared the cache. -/
def written (work : ι) (id : String) (key : CacheKey) : List (ι × Operation) → Option CachedValue
  | [] => none
  | (who, operation) :: earlier =>
      if who = work then
        match operation with
        | .get _ _ => written work id key earlier
        | .put own k value =>
            if own = id ∧ k.same key then some value else written work id key earlier
        | .clear own => if own = id then none else written work id key earlier
        | .commit | .rollback => none
      else written work id key earlier

def cleared (work : ι) (id : String) : List (ι × Operation) → Bool
  | [] => false
  | (who, operation) :: earlier =>
      if who = work then
        match operation with
        | .get _ _ | .put _ _ _ => cleared work id earlier
        | .clear own => own = id || cleared work id earlier
        | .commit | .rollback => false
      else cleared work id earlier

/-- What a unit of work sees of a cache: what it wrote, else nothing if it cleared the cache, else
what is there. -/
def seen (work : ι) (id : String) (key : CacheKey) (history : List (ι × Operation))
    (shared : SharedCaches) : Option CachedValue :=
  (written work id key history).or
    (if cleared work id history then none else shared.lookUp id key)

structure Records (staging : Staging) (work : ι) (history : List (ι × Operation)) : Prop where
  entries : ∀ id key, Entries.get? (of staging id).entries key = written work id key history
  cleared : ∀ id, (of staging id).cleared = Staging.cleared work id history
  distinct : staging.Distinct

variable {work : ι} {history : List (ι × Operation)} {staging staging' : Staging}
  {shared shared' : SharedCaches} {operation : Operation}

theorem written_of_ne {who : ι} (apart : who ≠ work) (operation : Operation) (id : String)
    (key : CacheKey) :
    written work id key ((who, operation) :: history) = written work id key history := by
  cases operation <;> exact if_neg apart

theorem cleared_of_ne {who : ι} (apart : who ≠ work) (operation : Operation) (id : String) :
    cleared work id ((who, operation) :: history) = cleared work id history := by
  cases operation <;> exact if_neg apart

theorem Records.other {who : ι} (records : staging.Records work history) (apart : who ≠ work)
    (operation : Operation) : staging.Records work ((who, operation) :: history) where
  entries := fun id key => by rw [written_of_ne apart, records.entries]
  cleared := fun id => by rw [cleared_of_ne apart, records.cleared]
  distinct := records.distinct

theorem records_ended (work : ι) {history : List (ι × Operation)} {operation : Operation}
    (ends : operation = .commit ∨ operation = .rollback) :
    Records [] work ((work, operation) :: history) := by
  rcases ends with rfl | rfl
  all_goals exact
    { entries := fun id key => by simp only [written, if_true]; rfl
      cleared := fun id => by simp only [Staging.cleared, if_true]; rfl
      distinct := fun id => Entries.distinct_nil }

theorem Records.step (records : staging.Records work history)
    (stepped : Step staging shared operation staging' shared') :
    staging'.Records work ((work, operation) :: history) := by
  cases stepped with
  | get id key =>
      exact ⟨fun other k => by rw [written, if_pos rfl, records.entries],
        fun other => by rw [Staging.cleared, if_pos rfl, records.cleared], records.distinct⟩
  | put id key value =>
      refine ⟨fun other k => ?_, fun other => ?_, records.distinct.put id key value⟩
      · rw [written, if_pos rfl, of_put]
        by_cases own : id = other
        · subst own
          simp only [if_true, true_and, StagedWrites.put, Entries.get?_put, records.entries]
        · simp only [own, if_false, false_and, records.entries]
      · rw [Staging.cleared, if_pos rfl, of_put, ← records.cleared]
        split
        · next own => rw [own, StagedWrites.put]
        · rfl
  | clear id =>
      refine ⟨fun other k => ?_, fun other => ?_, records.distinct.clear id⟩
      · rw [written, if_pos rfl, of_clear]
        by_cases own : id = other
        · simp only [own, if_true, Entries.get?]
        · simp only [own, if_false, records.entries]
      · rw [Staging.cleared, if_pos rfl, of_clear]
        by_cases own : id = other
        · simp only [own, if_true, decide_true, Bool.true_or]
        · simp only [own, if_false, decide_false, Bool.false_or, records.cleared]
  | commit commits => exact records_ended work (.inl rfl)
  | skip idle =>
      refine ⟨fun id key => ?_, fun id => ?_, records.distinct⟩
      · rw [written, if_pos rfl, of_eq_of_idle idle]
        rfl
      · rw [Staging.cleared, if_pos rfl, of_eq_of_idle idle]
  | rollback => exact records_ended work (.inr rfl)

theorem Step.perpetual (stepped : Step staging shared operation staging' shared')
    (perpetual : shared.Perpetual) : shared'.Perpetual := by
  cases stepped with
  | get id key => exact perpetual.of_sameContents (sameContents_get? perpetual staging id key)
  | commit commits =>
      intro id cache found
      obtain ⟨order, -, committed⟩ := commits id
      rw [committed, Option.map_eq_some_iff] at found
      obtain ⟨before, present, rfl⟩ := found
      obtain ⟨entries, rfl⟩ := perpetual id before present
      cases (of staging id).cleared with
      | false =>
          obtain ⟨after, published, -⟩ := StagedWrites.publishEntries_perpetual order entries
          exact ⟨after, published⟩
      | true =>
          obtain ⟨after, published, -⟩ := StagedWrites.publishEntries_perpetual order []
          exact ⟨after, published⟩
  | put | clear | skip | rollback => exact perpetual

theorem Step.sameContents (stepped : Step staging shared operation staging' shared')
    (perpetual : shared.Perpetual) (uncommitted : operation ≠ .commit) :
    shared.SameContents shared' := by
  cases stepped with
  | get id key => exact sameContents_get? perpetual staging id key
  | put | clear | rollback => exact .refl _
  | commit | skip => exact absurd rfl uncommitted

theorem Records.get?_eq_seen (records : staging.Records work history) {id : String}
    (known : (Fields.get? shared id).isSome) (key : CacheKey) :
    (get? staging id key shared).1 = seen work id key history shared := by
  rw [seen, ← records.entries, ← records.cleared]
  exact get?_of_known staging known key

theorem Records.lookUp_eq_seen (records : staging.Records work history)
    (perpetual : shared.Perpetual) (stepped : Step staging shared .commit staging' shared')
    {id : String} (known : (Fields.get? shared id).isSome) (key : CacheKey) :
    shared'.lookUp id key = seen work id key history shared := by
  rw [seen, ← records.entries, ← records.cleared]
  cases stepped with
  | skip idle =>
      rw [of_eq_of_idle idle]
      rfl
  | commit commits => exact commits.lookUp perpetual records.distinct known key

structure Crew.Follows (crew : Crew ι) (history : List (ι × Operation)) : Prop where
  perpetual : crew.shared.Perpetual
  records : ∀ work, (crew.staging work).Records work history

theorem follows_of_reaches {start : SharedCaches} (perpetual : start.Perpetual) {crew : Crew ι}
    (reached : Reaches start history crew) : crew.Follows history := by
  induction reached with
  | start =>
      exact ⟨perpetual, fun work => ⟨fun _ _ => rfl, fun _ => rfl, fun _ => Entries.distinct_nil⟩⟩
  | step reached who stepped ih =>
      refine ⟨stepped.perpetual ih.perpetual, fun work => ?_⟩
      by_cases same : work = who
      · subst same
        simp only [Function.update_self]
        exact (ih.records work).step stepped
      · simp only [Function.update_of_ne same]
        exact (ih.records work).other (Ne.symm same) _

/-- Whatever units of work did before, each of them finds in a cache what it sees of it; what is no
commit leaves the shared caches as they are; and a commit leaves nothing pending, and in every cache
what the unit of work saw there. -/
theorem seen_of_reaches {start : SharedCaches} (perpetual : start.Perpetual)
    {history : List (ι × Operation)} {crew : Crew ι} (reached : Reaches start history crew) :
    (∀ work id key, (Fields.get? crew.shared id).isSome →
      (get? (crew.staging work) id key crew.shared).1 = seen work id key history crew.shared) ∧
    ∀ work operation staging shared,
      Step (crew.staging work) crew.shared operation staging shared →
        (operation ≠ .commit → crew.shared.SameContents shared) ∧
        (operation = .commit → staging.isPending = false ∧
          ∀ id key, (Fields.get? crew.shared id).isSome →
            shared.lookUp id key = seen work id key history crew.shared) := by
  have follows := follows_of_reaches perpetual reached
  refine ⟨fun work id key known => (follows.records work).get?_eq_seen known key, ?_⟩
  intro work operation staging shared stepped
  refine ⟨stepped.sameContents follows.perpetual, ?_⟩
  rintro rfl
  refine ⟨?_, fun id key known =>
    (follows.records work).lookUp_eq_seen follows.perpetual stepped known key⟩
  cases stepped with
  | commit => rfl
  | skip idle => exact idle

/-- One unit of work publishes a row, another one clears the cache and stages a row of its own: the
two see different caches until the second one commits. -/
theorem seen_of_reaches_two_works :
    let first : CacheKey := ⟨[.int 1]⟩
    let second : CacheKey := ⟨[.int 2]⟩
    let rows : CachedValue := .rows [.int 7]
    SharedCaches.Perpetual [("c", .empty)] ∧
    ∃ crew : Crew Bool,
      Reaches [("c", .empty)]
        [(true, .put "c" second rows), (true, .clear "c"), (false, .commit),
          (false, .put "c" first rows)] crew ∧
      (get? (crew.staging false) "c" first crew.shared).1 = some rows ∧
      (get? (crew.staging true) "c" first crew.shared).1 = none ∧
      ∀ drain, (publish (crew.staging true) crew.shared drain).lookUp "c" first = none ∧
        (publish (crew.staging true) crew.shared drain).lookUp "c" second = some rows := by
  intro first second rows
  have perpetual : SharedCaches.Perpetual [("c", .empty)] := by
    intro id cache found
    obtain ⟨-, rfl⟩ := Prod.mk.inj (List.mem_singleton.1 (Fields.mem_of_get? found))
    exact ⟨[], rfl⟩
  have fresh : Reaches [("c", .empty)] [] (⟨fun _ => [], [("c", .empty)]⟩ : Crew Bool) := .start
  have reached := (((fresh.step false (.put "c" first rows)).step false
    (.commit (commits_publish .asStaged _ _))).step true (.clear "c")).step true
      (.put "c" second rows)
  obtain ⟨gets, steps⟩ := seen_of_reaches perpetual reached
  refine ⟨perpetual, _, reached, gets false "c" first rfl, gets true "c" first rfl, fun drain => ?_⟩
  have committed := (steps true .commit _ _ (.commit (commits_publish drain _ _))).2 rfl
  exact ⟨committed.2 "c" first rfl, committed.2 "c" second rfl⟩

end Staging

namespace SharedCaches

structure FoundAlike (left right : SharedCaches) : Prop where
  perpetual : left.Perpetual
  perpetual_right : right.Perpetual
  known : ∀ id, (Fields.get? left id).isSome = (Fields.get? right id).isSome
  lookUp : ∀ id key, left.lookUp id key = right.lookUp id key

theorem FoundAlike.refl {shared : SharedCaches} (perpetual : shared.Perpetual) :
    shared.FoundAlike shared :=
  ⟨perpetual, perpetual, fun _ => rfl, fun _ _ => rfl⟩

theorem lookUp_of_unknown {shared : SharedCaches} {id : String}
    (unknown : (Fields.get? shared id).isSome = false) (key : CacheKey) :
    shared.lookUp id key = none := by
  rw [lookUp, Option.not_isSome_iff_eq_none.1 (Bool.eq_false_iff.1 unknown)]
  rfl

variable {left right left' right' : SharedCaches}

theorem SameContents.lookUp_eq (same : left.SameContents left') (id : String) (key : CacheKey) :
    left'.lookUp id key = left.lookUp id key := by
  rw [lookUp, same id, lookUp]

theorem FoundAlike.of_sameContents (alike : left.FoundAlike right)
    (same : left.SameContents left') (same' : right.SameContents right') :
    left'.FoundAlike right' where
  perpetual := alike.perpetual.of_sameContents same
  perpetual_right := alike.perpetual_right.of_sameContents same'
  known := fun id => by rw [same id, same' id, alike.known]
  lookUp := fun id key => by rw [same.lookUp_eq, same'.lookUp_eq, alike.lookUp]

theorem FoundAlike.get? (alike : left.FoundAlike right) (staging : Staging) (id : String)
    (key : CacheKey) :
    (Staging.get? staging id key left).1 = (Staging.get? staging id key right).1 ∧
      (Staging.get? staging id key left).2.FoundAlike (Staging.get? staging id key right).2 := by
  refine ⟨?_, alike.of_sameContents (Staging.sameContents_get? alike.perpetual staging id key)
    (Staging.sameContents_get? alike.perpetual_right staging id key)⟩
  have same := alike.known id
  cases known : (Fields.get? left id).isSome with
  | true =>
      rw [known] at same
      rw [Staging.get?_of_known staging known, Staging.get?_of_known staging same.symm, alike.lookUp]
  | false =>
      rw [known] at same
      simp only [Staging.get?, Option.not_isSome_iff_eq_none.1 (Bool.eq_false_iff.1 known),
        Option.not_isSome_iff_eq_none.1 (Bool.eq_false_iff.1 same.symm)]

theorem FoundAlike.publish (alike : left.FoundAlike right) {staging : Staging}
    (distinct : staging.Distinct) (drain drain' : DrainOrder) :
    (staging.publish left drain).FoundAlike (staging.publish right drain') where
  perpetual := alike.perpetual.publish drain staging
  perpetual_right := alike.perpetual_right.publish drain' staging
  known := fun id => by
    rw [Staging.get?_publish, Staging.get?_publish, Option.isSome_map, Option.isSome_map, alike.known]
  lookUp := fun id key => by
    have same := alike.known id
    cases known : (Fields.get? left id).isSome with
    | true =>
        rw [known] at same
        rw [(Staging.commits_publish drain staging left).lookUp alike.perpetual distinct known,
          (Staging.commits_publish drain' staging right).lookUp alike.perpetual_right distinct
            same.symm, alike.lookUp]
    | false =>
        rw [known] at same
        rw [lookUp_of_unknown, lookUp_of_unknown]
        · rw [Staging.get?_publish, Option.isSome_map]
          exact same.symm
        · rw [Staging.get?_publish, Option.isSome_map]
          exact known

end SharedCaches

/-- The shared caches of two units of work that have staged the same: the same caches, which take
what is staged in the same orders, or caches in which the same is found, whatever the orders. -/
structure Sharing (staging : Staging) (left right : SharedCaches) (drains drains' : Drains) : Prop where
  distinct : staging.Distinct
  alike : (left = right ∧ drains = drains') ∨ left.FoundAlike right

namespace Sharing

variable {staging : Staging} {left right : SharedCaches} {drains drains' : Drains}

theorem opened {shared : SharedCaches} (same : drains = drains' ∨ shared.Perpetual) :
    Sharing [] shared shared drains drains' :=
  ⟨Staging.distinct_nil, same.imp (fun orders => ⟨rfl, orders⟩) .refl⟩

theorem restage (sharing : Sharing staging left right drains drains') {staging' : Staging}
    (distinct : staging'.Distinct) : Sharing staging' left right drains drains' :=
  ⟨distinct, sharing.alike⟩

theorem get? (sharing : Sharing staging left right drains drains') (id : String) (key : CacheKey) :
    (staging.get? id key left).1 = (staging.get? id key right).1 ∧
      Sharing staging (staging.get? id key left).2 (staging.get? id key right).2 drains drains' := by
  obtain ⟨distinct, ⟨rfl, orders⟩ | alike⟩ := sharing
  · exact ⟨rfl, distinct, .inl ⟨rfl, orders⟩⟩
  · exact ⟨(alike.get? staging id key).1, distinct, .inr (alike.get? staging id key).2⟩

theorem publish (sharing : Sharing staging left right drains drains') :
    Sharing [] (staging.publish left (drains 0)) (staging.publish right (drains' 0)) drains.rest
      drains'.rest := by
  obtain ⟨distinct, ⟨rfl, rfl⟩ | alike⟩ := sharing
  · exact ⟨Staging.distinct_nil, .inl ⟨rfl, rfl⟩⟩
  · exact ⟨Staging.distinct_nil, .inr (alike.publish distinct (drains 0) (drains' 0))⟩

end Sharing

end MappedSql
