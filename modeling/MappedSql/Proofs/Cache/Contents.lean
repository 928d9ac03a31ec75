import MappedSql.Proofs.Cache.Keys

namespace MappedSql

namespace Binary64

theorem bits_of_isZero {x : Binary64} (zero : x.isZero) : x = pack false 0 ∨ x = pack true 0 := by
  obtain ⟨bits⟩ := x
  have small : bits.toNat < 2 ^ 64 := bits.toNat_lt
  simp only [isZero, exponentField, fractionField, Bool.and_eq_true, beq_iff_eq] at zero
  have cases : bits.toNat = 0 ∨ bits.toNat = 2 ^ 63 := by
    simp only [Nat.pow_eq] at zero
    omega
  rcases cases with none | sign
  · left
    have : bits = 0 := UInt64.toNat_inj.mp (by simpa using none)
    subst this
    rfl
  · right
    have : bits = 9223372036854775808 := UInt64.toNat_inj.mp (by simpa using sign)
    subst this
    rfl

theorem eq_of_bits {x y : Binary64} (equal : (x.bits == y.bits) = true) : x = y := by
  obtain ⟨x⟩ := x
  obtain ⟨y⟩ := y
  have bits : x = y := eq_of_beq equal
  rw [bits]

end Binary64

namespace Json

theorem float_of_written {x y : Binary64} (equal : x.numEq y) {s t : List Char}
    (written : (NumberNotation.json.write x).toList ++ s =
      (NumberNotation.json.write y).toList ++ t) : x = y ∧ s = t := by
  simp only [Binary64.numEq, Bool.and_eq_true, Bool.or_eq_true] at equal
  have alike (same : x = y) : x = y ∧ s = t := by
    subst same
    exact ⟨rfl, List.append_cancel_left written⟩
  rcases equal.2 with bits | ⟨left, right⟩
  · exact alike (Binary64.eq_of_bits bits)
  · have plus : (NumberNotation.json.write (.pack false 0)).toList = ['0', '.', '0'] := by decide +kernel
    have minus : (NumberNotation.json.write (.pack true 0)).toList = ['-', '0', '.', '0'] := by
      decide +kernel
    rcases Binary64.bits_of_isZero left with rfl | rfl <;>
      rcases Binary64.bits_of_isZero right with rfl | rfl
    · exact alike rfl
    · rw [plus, minus] at written
      cases written
    · rw [plus, minus] at written
      cases written
    · exact alike rfl

def tailChars (written : List String) : List Char :=
  written.flatMap fun item => ',' :: item.toList

theorem toList_intercalate_cons (first : String) (rest : List String) :
    (String.intercalate "," (first :: rest)).toList = first.toList ++ tailChars rest := by
  induction rest generalizing first with
  | nil => simp [tailChars]
  | cons second rest ih =>
      rw [String.intercalate_cons_cons, String.toList_append, String.toList_append, ih]
      simp [tailChars]

mutual

theorem eq_of_written : ∀ {a b : Json}, a.same b → ∀ {s t : List Char},
    a.compact.toList ++ s = b.compact.toList ++ t → a = b ∧ s = t
  -- only equality is matched on: it alone excludes documents of different kinds
  | .null, .null, _ => fun written => ⟨rfl, List.append_cancel_left written⟩
  | .bool _, .bool _, equal => by
      obtain rfl := eq_of_beq equal
      exact fun written => ⟨rfl, List.append_cancel_left written⟩
  | .int _, .int _, equal => by
      obtain rfl := eq_of_beq equal
      exact fun written => ⟨rfl, List.append_cancel_left written⟩
  | .float _, .float _, equal => fun written => by
      obtain ⟨rfl, rest⟩ := float_of_written equal written
      exact ⟨rfl, rest⟩
  | .str _, .str _, equal => by
      obtain rfl := eq_of_beq equal
      exact fun written => ⟨rfl, List.append_cancel_left written⟩
  | .arr [], .arr [], _ => fun written => ⟨rfl, List.append_cancel_left written⟩
  | .arr (a :: as), .arr (b :: bs), equal => fun written => by
      rw [same, sameItems, Bool.and_eq_true] at equal
      simp only [compact, compactItems, String.toList_append, toList_intercalate_cons,
        List.append_assoc] at written
      obtain ⟨rfl, rest⟩ := eq_of_written equal.1 (List.append_cancel_left written)
      obtain ⟨rfl, closing⟩ := items_of_written equal.2 rest
      exact ⟨rfl, List.append_cancel_left closing⟩
  | .obj [], .obj [], _ => fun written => ⟨rfl, List.append_cancel_left written⟩
  | .obj ((k, a) :: as), .obj ((l, b) :: bs), equal => fun written => by
      rw [same, sameFields, Bool.and_eq_true, Bool.and_eq_true] at equal
      obtain rfl := eq_of_beq equal.1.1
      simp only [compact, compactFields, String.toList_append, toList_intercalate_cons,
        List.append_assoc] at written
      have value := List.append_cancel_left (List.append_cancel_left (List.append_cancel_left written))
      obtain ⟨rfl, rest⟩ := eq_of_written equal.1.2 value
      obtain ⟨rfl, closing⟩ := fields_of_written equal.2 rest
      exact ⟨rfl, List.append_cancel_left closing⟩

theorem items_of_written : ∀ {as bs : List Json} {s t : List Char}, sameItems as bs →
    tailChars (compactItems as) ++ s = tailChars (compactItems bs) ++ t → as = bs ∧ s = t
  | [], [], _, _, _, written => ⟨rfl, written⟩
  | a :: as, b :: bs, _, _, equal, written => by
      rw [sameItems, Bool.and_eq_true] at equal
      simp only [compactItems, tailChars, List.flatMap_cons, List.cons_append, List.append_assoc,
        List.cons.injEq, true_and] at written
      obtain ⟨rfl, rest⟩ := eq_of_written equal.1 written
      obtain ⟨rfl, follows⟩ := items_of_written equal.2 rest
      exact ⟨rfl, follows⟩

theorem fields_of_written : ∀ {as bs : List (String × Json)} {s t : List Char}, sameFields as bs →
    tailChars (compactFields as) ++ s = tailChars (compactFields bs) ++ t → as = bs ∧ s = t
  | [], [], _, _, _, written => ⟨rfl, written⟩
  | (k, a) :: as, (l, b) :: bs, _, _, equal, written => by
      rw [sameFields, Bool.and_eq_true, Bool.and_eq_true] at equal
      obtain rfl := eq_of_beq equal.1.1
      simp only [compactFields, tailChars, List.flatMap_cons, List.cons_append, String.toList_append,
        List.append_assoc, List.cons.injEq, true_and] at written
      have value := List.append_cancel_left (List.append_cancel_left written)
      obtain ⟨rfl, rest⟩ := eq_of_written equal.1.2 value
      obtain ⟨rfl, follows⟩ := fields_of_written equal.2 rest
      exact ⟨rfl, follows⟩

end

theorem eq_of_compact {a b : Json} (equal : a.same b) (written : a.compact = b.compact) : a = b := by
  have alike : a.compact.toList ++ [] = b.compact.toList ++ [] := by rw [written]
  exact (eq_of_written equal alike).1

end Json

namespace Value

mutual

/-- The value with every float zero made positive, except those inside documents. -/
def unsigned : Value → Value
  | float x => float (if x.isZero then Binary64.zero else x)
  | list items => list (unsignedItems items)
  | map fields => map (unsignedFields fields)
  | record typeName fields => record typeName (unsignedFields fields)
  | value => value

def unsignedItems : List Value → List Value
  | [] => []
  | item :: rest => unsigned item :: unsignedItems rest

def unsignedFields : List (String × Value) → List (String × Value)
  | [] => []
  | (name, value) :: rest => (name, unsigned value) :: unsignedFields rest

end

mutual

theorem length_feed : ∀ {a b : Value}, a.same b → a.feed.length = b.feed.length
  | .null, .null, _ => by simp only [feed, List.length_cons, List.length_nil]
  | .bool _, .bool _, _ => by simp only [feed, List.length_cons, List.length_nil]
  | .int _, .int _, _ => by simp only [feed, List.length_cons, List.length_nil]
  | .float _, .float _, _ => by simp only [feed, List.length_cons, List.length_nil]
  | .text _, .text _, _ => by simp only [feed, List.length_cons, List.length_nil]
  | .timestamp _, .timestamp _, _ => by simp only [feed, List.length_cons, List.length_nil]
  | .json _, .json _, _ => by simp only [feed, List.length_cons, List.length_nil]
  | .blob _, .blob _, equal => by rw [eq_of_beq equal]
  | .list _, .list _, equal => by simp [feed, length_feedItems equal]
  | .map _, .map _, equal => by simp [feed, length_feedFields equal]
  | .record _ _, .record _ _, equal => by
      rw [same, Bool.and_eq_true] at equal
      simp [feed, length_feedFields equal.2]

theorem length_feedItems : ∀ {as bs : List Value}, sameItems as bs →
    (feedItems as).length = (feedItems bs).length
  | [], [], _ => rfl
  | _ :: _, _ :: _, equal => by
      rw [sameItems, Bool.and_eq_true] at equal
      simp [feedItems, length_feed equal.1, length_feedItems equal.2]

theorem length_feedFields : ∀ {as bs : List (String × Value)}, sameFields as bs →
    (feedFields as).length = (feedFields bs).length
  | [], [], _ => rfl
  | (_, _) :: _, (_, _) :: _, equal => by
      rw [sameFields, Bool.and_eq_true, Bool.and_eq_true] at equal
      simp [feedFields, length_feed equal.1.2, length_feedFields equal.2]

end

theorem float_of_fed {x y : Binary64} (fed : (float x).feed = (float y).feed) :
    (float x).unsigned = (float y).unsigned := by
  simp only [feed, List.cons.injEq, FeedItem.number.injEq, Int.natCast_inj, UInt64.toNat_inj,
    true_and, and_true] at fed
  have same : (if x.isZero then Binary64.zero else x) = if y.isZero then Binary64.zero else y :=
    Binary64.eq_of_bits (beq_iff_eq.2 fed)
  rw [unsigned, unsigned, same]

mutual

theorem unsigned_eq_of_same : ∀ {a b : Value}, a.same b → a.feed = b.feed →
    a.unsigned = b.unsigned
  | .null, .null, _, _ => rfl
  | .bool _, .bool _, equal, _ => by rw [eq_of_beq equal]
  | .int _, .int _, equal, _ => by rw [eq_of_beq equal]
  | .float _, .float _, _, fed => float_of_fed fed
  | .text _, .text _, equal, _ => by rw [eq_of_beq equal]
  | .timestamp _, .timestamp _, equal, _ => by rw [eq_of_beq equal]
  | .json _, .json _, equal, fed => by
      simp only [feed, List.cons.injEq, FeedItem.text.injEq, true_and, and_true] at fed
      rw [Json.eq_of_compact equal fed]
  | .blob _, .blob _, equal, _ => by rw [eq_of_beq equal]
  | .list _, .list _, equal, fed => by
      simp only [feed, List.cons.injEq, true_and] at fed
      rw [unsigned, unsigned, unsignedItems_eq_of_same equal fed.2]
  | .map _, .map _, equal, fed => by
      simp only [feed, List.cons.injEq, true_and] at fed
      rw [unsigned, unsigned, unsignedFields_eq_of_same equal fed.2]
  | .record _ _, .record _ _, equal, fed => by
      rw [same, Bool.and_eq_true] at equal
      simp only [feed, List.cons.injEq, true_and] at fed
      rw [unsigned, unsigned, eq_of_beq equal.1, unsignedFields_eq_of_same equal.2 fed.2.2]

theorem unsignedItems_eq_of_same : ∀ {as bs : List Value}, sameItems as bs →
    feedItems as = feedItems bs → unsignedItems as = unsignedItems bs
  | [], [], _, _ => rfl
  | _ :: _, _ :: _, equal, fed => by
      rw [sameItems, Bool.and_eq_true] at equal
      obtain ⟨head, tail⟩ := List.append_inj fed (length_feed equal.1)
      rw [unsignedItems, unsignedItems, unsigned_eq_of_same equal.1 head,
        unsignedItems_eq_of_same equal.2 tail]

theorem unsignedFields_eq_of_same : ∀ {as bs : List (String × Value)}, sameFields as bs →
    feedFields as = feedFields bs → unsignedFields as = unsignedFields bs
  | [], [], _, _ => rfl
  | (_, _) :: _, (_, _) :: _, equal, fed => by
      rw [sameFields, Bool.and_eq_true, Bool.and_eq_true] at equal
      simp only [feedFields, List.cons_append, List.cons.injEq] at fed
      obtain ⟨head, tail⟩ := List.append_inj fed.2 (length_feed equal.1.2)
      rw [unsignedFields, unsignedFields, eq_of_beq equal.1.1, unsigned_eq_of_same equal.1.2 head,
        unsignedFields_eq_of_same equal.2 tail]

end

end Value

theorem CacheKey.unsigned_eq_of_same {a b : CacheKey} (equal : a.same b) :
    a.parts.map Value.unsigned = b.parts.map Value.unsigned := by
  obtain ⟨as⟩ := a
  obtain ⟨bs⟩ := b
  simp only [same, feed, Bool.and_eq_true, beq_iff_eq] at equal
  obtain ⟨parts, fed⟩ := equal
  induction as generalizing bs with
  | nil =>
      cases bs with
      | nil => rfl
      | cons b bs => simp [Value.sameItems] at parts
  | cons a as ih =>
      cases bs with
      | nil => simp [Value.sameItems] at parts
      | cons b bs =>
          rw [Value.sameItems, Bool.and_eq_true] at parts
          simp only [List.map_cons, List.cons.injEq] at fed ⊢
          exact ⟨Value.unsigned_eq_of_same parts.1 fed.1, ih bs parts.2 fed.2⟩

end MappedSql
