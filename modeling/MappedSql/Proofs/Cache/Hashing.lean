import MappedSql.Proofs.Cache.Contents
import MappedSql.Proofs.Value.Documents

namespace MappedSql

theorem Binary64.eq_of_isZero {x y : Binary64} (left : x.isZero) (right : y.isZero)
    (sign : x.isNegative = y.isNegative) : x = y := by
  rcases bits_of_isZero left with rfl | rfl <;> rcases bits_of_isZero right with rfl | rfl
  · rfl
  · exact absurd sign (by decide)
  · exact absurd sign (by decide)
  · rfl

namespace Json

def zeroSign? : Json → Option Bool
  | float x => if x.isZero then some x.isNegative else none
  | _ => none

def zeroSigns (j : Json) : List (Option Bool) :=
  j.leaves.map zeroSign?

theorem length_zeroSigns {a b : Json} (equal : a.same b) :
    a.zeroSigns.length = b.zeroSigns.length := by
  rw [zeroSigns, zeroSigns, List.length_map, List.length_map, (forall₂_leaves equal).length_eq]

theorem eq_of_zeroSign? : ∀ {a b : Json}, a.isLeaf = true → a.same b →
    a.zeroSign? = b.zeroSign? → a = b
  | .null, .null, _, _, _ => rfl
  | .bool _, .bool _, _, equal, _ => congrArg bool (eq_of_beq equal)
  | .int _, .int _, _, equal, _ => congrArg int (eq_of_beq equal)
  | .str _, .str _, _, equal, _ => congrArg str (eq_of_beq equal)
  | .float x, .float y, _, equal, sign => by
      simp only [same, Binary64.numEq, Bool.and_eq_true, Bool.or_eq_true] at equal
      rcases equal.2 with bits | ⟨zero, zero'⟩
      · rw [Binary64.eq_of_bits bits]
      · simp only [zeroSign?, zero, zero', if_true, Option.some.injEq] at sign
        rw [Binary64.eq_of_isZero zero zero' sign]

theorem eq_of_map_zeroSign? {ls ms : List Json}
    (equal : List.Forall₂ (fun l m => l.same m = true) ls ms)
    (leaves : ∀ leaf ∈ ls, leaf.isLeaf = true) (signs : ls.map zeroSign? = ms.map zeroSign?) :
    ls = ms := by
  induction equal with
  | nil => rfl
  | cons head _ ih =>
      obtain ⟨first, rest⟩ := List.cons.inj signs
      obtain ⟨isLeaf, leaves⟩ := List.forall_mem_cons.1 leaves
      rw [eq_of_zeroSign? isLeaf head first, ih leaves rest]

theorem eq_of_zeroSigns {a b : Json} (equal : a.same b) (signs : a.zeroSigns = b.zeroSigns) :
    a = b :=
  eq_of_leaves equal
    (eq_of_map_zeroSign? (forall₂_leaves equal) (fun _ => isLeaf_of_mem_leaves) signs)

end Json

namespace Value

mutual

/-- The signs of the float zeros in the documents that a value contains. -/
def documentZeros : Value → List (Option Bool)
  | json j => j.zeroSigns
  | list items => documentZerosItems items
  | map fields => documentZerosFields fields
  | record _ fields => documentZerosFields fields
  | _ => []

def documentZerosItems : List Value → List (Option Bool)
  | [] => []
  | item :: rest => documentZeros item ++ documentZerosItems rest

def documentZerosFields : List (String × Value) → List (Option Bool)
  | [] => []
  | (_, value) :: rest => documentZeros value ++ documentZerosFields rest

end

mutual

theorem documentZeros_unsigned : ∀ value : Value, value.unsigned.documentZeros = value.documentZeros
  | .list items => documentZerosItems_unsignedItems items
  | .map fields => documentZerosFields_unsignedFields fields
  | .record _ fields => documentZerosFields_unsignedFields fields
  | .null | .bool _ | .int _ | .float _ | .text _ | .timestamp _ | .json _ | .blob _ => rfl

theorem documentZerosItems_unsignedItems : ∀ items : List Value,
    documentZerosItems (unsignedItems items) = documentZerosItems items
  | [] => rfl
  | item :: rest => by
      rw [unsignedItems, documentZerosItems, documentZerosItems, documentZeros_unsigned item,
        documentZerosItems_unsignedItems rest]

theorem documentZerosFields_unsignedFields : ∀ fields : List (String × Value),
    documentZerosFields (unsignedFields fields) = documentZerosFields fields
  | [] => rfl
  | (name, value) :: rest => by
      rw [unsignedFields, documentZerosFields, documentZerosFields, documentZeros_unsigned value,
        documentZerosFields_unsignedFields rest]

end

mutual

theorem length_documentZeros : ∀ {a b : Value}, a.same b →
    a.documentZeros.length = b.documentZeros.length
  | .json _, .json _, equal => Json.length_zeroSigns equal
  | .list _, .list _, equal => length_documentZerosItems equal
  | .map _, .map _, equal => length_documentZerosFields equal
  | .record _ _, .record _ _, equal => by
      rw [same, Bool.and_eq_true] at equal
      exact length_documentZerosFields equal.2
  | .null, .null, _ | .bool _, .bool _, _ | .int _, .int _, _ | .float _, .float _, _
  | .text _, .text _, _ | .timestamp _, .timestamp _, _ | .blob _, .blob _, _ => rfl

theorem length_documentZerosItems : ∀ {as bs : List Value}, sameItems as bs →
    (documentZerosItems as).length = (documentZerosItems bs).length
  | [], [], _ => rfl
  | _ :: _, _ :: _, equal => by
      rw [sameItems, Bool.and_eq_true] at equal
      simp [documentZerosItems, length_documentZeros equal.1, length_documentZerosItems equal.2]

theorem length_documentZerosFields : ∀ {as bs : List (String × Value)}, sameFields as bs →
    (documentZerosFields as).length = (documentZerosFields bs).length
  | [], [], _ => rfl
  | (_, _) :: _, (_, _) :: _, equal => by
      rw [sameFields, Bool.and_eq_true, Bool.and_eq_true] at equal
      simp [documentZerosFields, length_documentZeros equal.1.2,
        length_documentZerosFields equal.2]

end

theorem length_eq_of_sameItems : ∀ {as bs : List Value}, sameItems as bs → as.length = bs.length
  | [], [], _ => rfl
  | _ :: _, _ :: _, equal => by
      rw [sameItems, Bool.and_eq_true] at equal
      rw [List.length_cons, List.length_cons, length_eq_of_sameItems equal.2]

theorem length_eq_of_sameFields : ∀ {as bs : List (String × Value)}, sameFields as bs →
    as.length = bs.length
  | [], [], _ => rfl
  | (_, _) :: _, (_, _) :: _, equal => by
      rw [sameFields, Bool.and_eq_true, Bool.and_eq_true] at equal
      rw [List.length_cons, List.length_cons, length_eq_of_sameFields equal.2]

theorem feed_float_of_same {x y : Binary64} (equal : x.same y) :
    (float x).feed = (float y).feed := by
  simp only [Binary64.same, Binary64.numEq, Bool.or_eq_true, Bool.and_eq_true] at equal
  rcases equal with ⟨-, bits | ⟨zero, zero'⟩⟩ | bits
  · rw [Binary64.eq_of_bits bits]
  · simp only [feed, zero, zero', if_true]
  · rw [Binary64.eq_of_bits bits]

mutual

theorem feed_eq_of_documentZeros : ∀ {a b : Value}, a.same b → a.documentZeros = b.documentZeros →
    a.feed = b.feed
  | .null, .null, _, _ => rfl
  | .bool _, .bool _, equal, _ => by rw [eq_of_beq equal]
  | .int _, .int _, equal, _ => by rw [eq_of_beq equal]
  | .float _, .float _, equal, _ => feed_float_of_same equal
  | .text _, .text _, equal, _ => by rw [eq_of_beq equal]
  | .timestamp _, .timestamp _, equal, _ => by rw [eq_of_beq equal]
  | .blob _, .blob _, equal, _ => by rw [eq_of_beq equal]
  | .json _, .json _, equal, zeros => by rw [Json.eq_of_zeroSigns equal zeros]
  | .list _, .list _, equal, zeros => by
      rw [feed, feed, length_eq_of_sameItems equal, feedItems_eq_of_documentZeros equal zeros]
  | .map _, .map _, equal, zeros => by
      rw [feed, feed, length_eq_of_sameFields equal, feedFields_eq_of_documentZeros equal zeros]
  | .record _ _, .record _ _, equal, zeros => by
      rw [same, Bool.and_eq_true] at equal
      rw [feed, feed, eq_of_beq equal.1, length_eq_of_sameFields equal.2,
        feedFields_eq_of_documentZeros equal.2 zeros]

theorem feedItems_eq_of_documentZeros : ∀ {as bs : List Value}, sameItems as bs →
    documentZerosItems as = documentZerosItems bs → feedItems as = feedItems bs
  | [], [], _, _ => rfl
  | _ :: _, _ :: _, equal, zeros => by
      rw [sameItems, Bool.and_eq_true] at equal
      -- equal values have equally many leaves, so both lists of signs split at the same place
      obtain ⟨first, rest⟩ := List.append_inj zeros (length_documentZeros equal.1)
      rw [feedItems, feedItems, feed_eq_of_documentZeros equal.1 first,
        feedItems_eq_of_documentZeros equal.2 rest]

theorem feedFields_eq_of_documentZeros : ∀ {as bs : List (String × Value)}, sameFields as bs →
    documentZerosFields as = documentZerosFields bs → feedFields as = feedFields bs
  | [], [], _, _ => rfl
  | (_, _) :: _, (_, _) :: _, equal, zeros => by
      rw [sameFields, Bool.and_eq_true, Bool.and_eq_true] at equal
      obtain ⟨first, rest⟩ := List.append_inj zeros (length_documentZeros equal.1.2)
      rw [feedFields, feedFields, eq_of_beq equal.1.1, feed_eq_of_documentZeros equal.1.2 first,
        feedFields_eq_of_documentZeros equal.2 rest]

end

theorem feed_eq_iff {a b : Value} (equal : a.same b) :
    a.feed = b.feed ↔ a.documentZeros = b.documentZeros := by
  refine ⟨fun fed => ?_, feed_eq_of_documentZeros equal⟩
  -- what is fed determines a value up to the signs of zeros outside its documents
  rw [← documentZeros_unsigned a, unsigned_eq_of_same equal fed, documentZeros_unsigned]

theorem sameItems_iff_forall₂ : ∀ {as bs : List Value},
    sameItems as bs = true ↔ List.Forall₂ (fun a b => a.same b = true) as bs
  | [], [] => by simp [sameItems]
  | [], _ :: _ | _ :: _, [] => by simp [sameItems]
  | _ :: _, _ :: _ => by
      rw [sameItems, Bool.and_eq_true, List.forall₂_cons, sameItems_iff_forall₂]

end Value

namespace CacheKey

variable {hash : List FeedItem → Int64} {xs ys : List Value}

theorem sameBy_iff : sameBy hash ⟨xs⟩ ⟨ys⟩ = true ↔
    digest hash ⟨xs⟩ = digest hash ⟨ys⟩ ∧ List.Forall₂ (fun a b => a.same b = true) xs ys := by
  rw [sameBy, Bool.and_eq_true, beq_iff_eq, Value.sameItems_iff_forall₂]

theorem digest_eq_of_feed {a b : CacheKey} (fed : a.feed = b.feed) :
    a.digest hash = b.digest hash := by
  rw [digest, digest, fed]

theorem sameBy_eq_same {a b : CacheKey}
    (apart : a.digest hash = b.digest hash → a.feed = b.feed) : a.sameBy hash b = a.same b := by
  rw [sameBy, same, Bool.and_comm]
  congr 1
  rw [Bool.eq_iff_iff, beq_iff_eq, beq_iff_eq]
  exact ⟨apart, digest_eq_of_feed⟩

theorem feed_eq_iff (equal : List.Forall₂ (fun a b => a.same b = true) xs ys) :
    feed ⟨xs⟩ = feed ⟨ys⟩ ↔ xs.map Value.documentZeros = ys.map Value.documentZeros := by
  unfold feed
  induction equal with
  | nil => simp
  | cons head _ ih => simp only [List.map_cons, List.cons.injEq, Value.feed_eq_iff head, ih]

theorem same_iff_forall₂ : same ⟨xs⟩ ⟨ys⟩ = true ↔
    List.Forall₂ (fun a b => a.same b = true) xs ys ∧
      xs.map Value.documentZeros = ys.map Value.documentZeros := by
  rw [same, Bool.and_eq_true, beq_iff_eq, Value.sameItems_iff_forall₂]
  exact and_congr_right feed_eq_iff

/-- Equal values feed a hasher alike exactly if the zeros in their documents have the same signs.
Keys that are equal under a hasher have equal parts. Conversely equal parts make equal keys under
every hasher if the zeros in their documents have the same signs, and under a hasher that tells the
keys apart by what they feed it only then. -/
theorem sameBy_iff_forall₂ (hash : List FeedItem → Int64) (xs ys : List Value) :
    (∀ a b : Value, a.same b = true → (a.feed = b.feed ↔ a.documentZeros = b.documentZeros)) ∧
      (sameBy hash ⟨xs⟩ ⟨ys⟩ = true → List.Forall₂ (fun a b => a.same b = true) xs ys) ∧
      (xs.map Value.documentZeros = ys.map Value.documentZeros →
        (sameBy hash ⟨xs⟩ ⟨ys⟩ = true ↔ List.Forall₂ (fun a b => a.same b = true) xs ys)) ∧
      ((digest hash ⟨xs⟩ = digest hash ⟨ys⟩ → feed ⟨xs⟩ = feed ⟨ys⟩) →
        (sameBy hash ⟨xs⟩ ⟨ys⟩ = true ↔ List.Forall₂ (fun a b => a.same b = true) xs ys ∧
          xs.map Value.documentZeros = ys.map Value.documentZeros)) := by
  refine ⟨fun a b => Value.feed_eq_iff, fun equal => (sameBy_iff.1 equal).2, fun zeros => ?_,
    fun apart => ?_⟩
  · refine ⟨fun equal => (sameBy_iff.1 equal).2, fun parts => ?_⟩
    exact sameBy_iff.2 ⟨digest_eq_of_feed ((feed_eq_iff parts).2 zeros), parts⟩
  · rw [sameBy_eq_same apart, same_iff_forall₂]

def minusZero : Binary64 := .pack true 0

theorem sameBy_iff_forall₂_minusZero :
    sameBy (fun fed => .ofNat fed.length) ⟨[.float .zero, .list [.json (.arr [.float minusZero])]]⟩
      ⟨[.float minusZero, .list [.json (.arr [.float minusZero])]]⟩ = true := by
  have zeros :
      [Value.float .zero, .list [.json (.arr [.float minusZero])]].map Value.documentZeros =
        [Value.float minusZero, .list [.json (.arr [.float minusZero])]].map Value.documentZeros :=
    rfl
  exact ((sameBy_iff_forall₂ _ _ _).2.2.1 zeros).2 (.cons (by decide) (.cons (by decide) .nil))

/-- Equal documents that feed differently, and a hasher under which they are different keys. -/
theorem exists_feed_ne :
    ∃ a b : Value, a.same b = true ∧ a.feed ≠ b.feed ∧
      ∃ hash, sameBy hash ⟨[a]⟩ ⟨[b]⟩ = false := by
  have equal : (Value.json (.float .zero)).same (.json (.float minusZero)) = true := by decide
  have differ : (Value.json (.float .zero)).feed ≠ (Value.json (.float minusZero)).feed := by
    rw [ne_eq, Value.feed_eq_iff equal]
    decide
  refine ⟨_, _, equal, differ,
    fun fed => if fed = (Value.json (.float .zero)).feed then 1 else 0, ?_⟩
  rw [← Bool.not_eq_true, sameBy_iff]
  rintro ⟨alike, -⟩
  have sums := congrArg KeyDigest.checksum alike
  simp [digest, feed, KeyDigest.update, KeyDigest.empty, differ.symm] at sums

end CacheKey

end MappedSql
