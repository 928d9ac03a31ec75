import Mathlib.Data.List.Forall2
import MappedSql.Json.Basic
import MappedSql.Proofs.Number.Nearest
import MappedSql.Proofs.Number.Numerals
import MappedSql.Value.Print

namespace MappedSql

namespace Json

def isLeaf : Json → Bool
  | arr _ | obj _ => false
  | _ => true

mutual

def leaves : Json → List Json
  | arr items => leavesItems items
  | obj fields => leavesFields fields
  | leaf => [leaf]

def leavesItems : List Json → List Json
  | [] => []
  | item :: rest => leaves item ++ leavesItems rest

def leavesFields : List (String × Json) → List Json
  | [] => []
  | (_, value) :: rest => leaves value ++ leavesFields rest

end

mutual

def mapLeaves (f : Json → Json) : Json → Json
  | arr items => arr (mapLeavesItems f items)
  | obj fields => obj (mapLeavesFields f fields)
  | leaf => f leaf

def mapLeavesItems (f : Json → Json) : List Json → List Json
  | [] => []
  | item :: rest => mapLeaves f item :: mapLeavesItems f rest

def mapLeavesFields (f : Json → Json) : List (String × Json) → List (String × Json)
  | [] => []
  | (name, value) :: rest => (name, mapLeaves f value) :: mapLeavesFields f rest

end

mutual

theorem isLeaf_of_mem_leaves : ∀ {j leaf : Json}, leaf ∈ j.leaves → leaf.isLeaf = true
  | .arr _, _, mem => isLeaf_of_mem_leavesItems mem
  | .obj _, _, mem => isLeaf_of_mem_leavesFields mem
  | .null, _, mem | .bool _, _, mem | .int _, _, mem | .float _, _, mem | .str _, _, mem => by
      rw [List.mem_singleton.1 mem]
      rfl

theorem isLeaf_of_mem_leavesItems : ∀ {items : List Json} {leaf : Json},
    leaf ∈ leavesItems items → leaf.isLeaf = true
  | item :: rest, leaf, mem => by
      rcases List.mem_append.1 mem with inside | behind
      · exact isLeaf_of_mem_leaves inside
      · exact isLeaf_of_mem_leavesItems behind

theorem isLeaf_of_mem_leavesFields : ∀ {fields : List (String × Json)} {leaf : Json},
    leaf ∈ leavesFields fields → leaf.isLeaf = true
  | (_, value) :: rest, leaf, mem => by
      rcases List.mem_append.1 mem with inside | behind
      · exact isLeaf_of_mem_leaves inside
      · exact isLeaf_of_mem_leavesFields behind

end

mutual

theorem mapLeaves_congr {f g : Json → Json} : ∀ {j : Json}, (∀ leaf ∈ j.leaves, f leaf = g leaf) →
    j.mapLeaves f = j.mapLeaves g
  | .arr _, alike => congrArg arr (mapLeavesItems_congr alike)
  | .obj _, alike => congrArg obj (mapLeavesFields_congr alike)
  | .null, alike | .bool _, alike | .int _, alike | .float _, alike | .str _, alike =>
      alike _ List.mem_cons_self

theorem mapLeavesItems_congr {f g : Json → Json} : ∀ {items : List Json},
    (∀ leaf ∈ leavesItems items, f leaf = g leaf) → mapLeavesItems f items = mapLeavesItems g items
  | [], _ => rfl
  | item :: rest, alike => by
      obtain ⟨inside, behind⟩ := List.forall_mem_append.1 alike
      rw [mapLeavesItems, mapLeavesItems, mapLeaves_congr inside, mapLeavesItems_congr behind]

theorem mapLeavesFields_congr {f g : Json → Json} : ∀ {fields : List (String × Json)},
    (∀ leaf ∈ leavesFields fields, f leaf = g leaf) →
      mapLeavesFields f fields = mapLeavesFields g fields
  | [], _ => rfl
  | (_, value) :: rest, alike => by
      obtain ⟨inside, behind⟩ := List.forall_mem_append.1 alike
      rw [mapLeavesFields, mapLeavesFields, mapLeaves_congr inside, mapLeavesFields_congr behind]

end

mutual

theorem mapLeaves_eq_self_iff {f : Json → Json} : ∀ {j : Json},
    j.mapLeaves f = j ↔ ∀ leaf ∈ j.leaves, f leaf = leaf
  | .arr _ => by rw [mapLeaves, arr.injEq, mapLeavesItems_eq_self_iff, leaves]
  | .obj _ => by rw [mapLeaves, obj.injEq, mapLeavesFields_eq_self_iff, leaves]
  | .null | .bool _ | .int _ | .float _ | .str _ => by simp [mapLeaves, leaves]

theorem mapLeavesItems_eq_self_iff {f : Json → Json} : ∀ {items : List Json},
    mapLeavesItems f items = items ↔ ∀ leaf ∈ leavesItems items, f leaf = leaf
  | [] => by simp [mapLeavesItems, leavesItems]
  | item :: rest => by
      rw [mapLeavesItems, List.cons.injEq, mapLeaves_eq_self_iff, mapLeavesItems_eq_self_iff,
        leavesItems, List.forall_mem_append]

theorem mapLeavesFields_eq_self_iff {f : Json → Json} : ∀ {fields : List (String × Json)},
    mapLeavesFields f fields = fields ↔ ∀ leaf ∈ leavesFields fields, f leaf = leaf
  | [] => by simp [mapLeavesFields, leavesFields]
  | (name, value) :: rest => by
      rw [mapLeavesFields, List.cons.injEq, Prod.mk.injEq, mapLeaves_eq_self_iff,
        mapLeavesFields_eq_self_iff, leavesFields, List.forall_mem_append]
      simp

end

mutual

theorem same_mapLeaves_iff {f : Json → Json} : ∀ {j : Json},
    (j.mapLeaves f).same j ↔ ∀ leaf ∈ j.leaves, (f leaf).same leaf
  | .arr _ => by rw [mapLeaves, same, sameItems_mapLeaves_iff, leaves]
  | .obj _ => by rw [mapLeaves, same, sameFields_mapLeaves_iff, leaves]
  | .null | .bool _ | .int _ | .float _ | .str _ => by simp [mapLeaves, leaves]

theorem sameItems_mapLeaves_iff {f : Json → Json} : ∀ {items : List Json},
    sameItems (mapLeavesItems f items) items ↔ ∀ leaf ∈ leavesItems items, (f leaf).same leaf
  | [] => by simp [mapLeavesItems, leavesItems, sameItems]
  | item :: rest => by
      rw [mapLeavesItems, sameItems, Bool.and_eq_true, same_mapLeaves_iff, sameItems_mapLeaves_iff,
        leavesItems, List.forall_mem_append]

theorem sameFields_mapLeaves_iff {f : Json → Json} : ∀ {fields : List (String × Json)},
    sameFields (mapLeavesFields f fields) fields ↔
      ∀ leaf ∈ leavesFields fields, (f leaf).same leaf
  | [] => by simp [mapLeavesFields, leavesFields, sameFields]
  | (name, value) :: rest => by
      rw [mapLeavesFields, sameFields, Bool.and_eq_true, Bool.and_eq_true, same_mapLeaves_iff,
        sameFields_mapLeaves_iff, leavesFields, List.forall_mem_append]
      simp

end

mutual

theorem forall₂_leaves : ∀ {a b : Json}, a.same b →
    List.Forall₂ (fun l m => l.same m = true) a.leaves b.leaves
  | .arr _, .arr _, equal => forall₂_leavesItems equal
  | .obj _, .obj _, equal => forall₂_leavesFields equal
  | .null, .null, equal | .bool _, .bool _, equal | .int _, .int _, equal
  | .float _, .float _, equal | .str _, .str _, equal => .cons equal .nil

theorem forall₂_leavesItems : ∀ {as bs : List Json}, sameItems as bs →
    List.Forall₂ (fun l m => l.same m = true) (leavesItems as) (leavesItems bs)
  | [], [], _ => .nil
  | _ :: _, _ :: _, equal => by
      rw [sameItems, Bool.and_eq_true] at equal
      exact List.rel_append (forall₂_leaves equal.1) (forall₂_leavesItems equal.2)

theorem forall₂_leavesFields : ∀ {as bs : List (String × Json)}, sameFields as bs →
    List.Forall₂ (fun l m => l.same m = true) (leavesFields as) (leavesFields bs)
  | [], [], _ => .nil
  | (_, _) :: _, (_, _) :: _, equal => by
      rw [sameFields, Bool.and_eq_true, Bool.and_eq_true] at equal
      exact List.rel_append (forall₂_leaves equal.1.2) (forall₂_leavesFields equal.2)

end

mutual

theorem eq_of_leaves : ∀ {a b : Json}, a.same b → a.leaves = b.leaves → a = b
  | .arr _, .arr _, equal, alike => congrArg arr (eq_of_leavesItems equal alike)
  | .obj _, .obj _, equal, alike => congrArg obj (eq_of_leavesFields equal alike)
  | .null, .null, _, alike | .bool _, .bool _, _, alike | .int _, .int _, _, alike
  | .float _, .float _, _, alike | .str _, .str _, _, alike => (List.cons.inj alike).1

theorem eq_of_leavesItems : ∀ {as bs : List Json}, sameItems as bs →
    leavesItems as = leavesItems bs → as = bs
  | [], [], _, _ => rfl
  | _ :: _, _ :: _, equal, alike => by
      rw [sameItems, Bool.and_eq_true] at equal
      -- without equality the leaves of the first item could run into those of the others
      obtain ⟨first, rest⟩ := List.append_inj alike (forall₂_leaves equal.1).length_eq
      rw [eq_of_leaves equal.1 first, eq_of_leavesItems equal.2 rest]

theorem eq_of_leavesFields : ∀ {as bs : List (String × Json)}, sameFields as bs →
    leavesFields as = leavesFields bs → as = bs
  | [], [], _, _ => rfl
  | (_, _) :: _, (_, _) :: _, equal, alike => by
      rw [sameFields, Bool.and_eq_true, Bool.and_eq_true] at equal
      obtain ⟨first, rest⟩ := List.append_inj alike (forall₂_leaves equal.1.2).length_eq
      rw [eq_of_beq equal.1.1, eq_of_leaves equal.1.2 first, eq_of_leavesFields equal.2 rest]

end

/-- The numbers of a document that was read: integers of a signed or an unsigned machine word, and
finite floats. -/
structure WellFormed (j : Json) : Prop where
  words : ∀ {n}, .int n ∈ j.leaves → -2 ^ 63 ≤ n ∧ n < 2 ^ 64
  finite : ∀ {x}, .float x ∈ j.leaves → x.isFinite = true

def Signed (j : Json) : Prop :=
  ∀ n, .int n ∈ j.leaves → n < 2 ^ 63

def narrowed : Json → Json
  | int n => if n < 2 ^ 63 then int n else float (Binary64.ofInt n)
  | leaf => leaf

variable {j leaf : Json}

theorem narrowed_eq_iff : leaf.narrowed = leaf ↔ ∀ n, leaf = int n → n < 2 ^ 63 := by
  cases leaf <;> simp [narrowed]

theorem narrowed_same_iff (finite : ∀ {x}, leaf = float x → x.isFinite = true)
    (isLeaf : leaf.isLeaf = true) : leaf.narrowed.same leaf ↔ ∀ n, leaf = int n → n < 2 ^ 63 := by
  cases leaf with
  | int n =>
      rw [narrowed]
      split
      · next small => simpa [same] using small
      · next past => simpa [same] using past
  | float x => simp [narrowed, same, Binary64.numEq_iff_scaled (finite rfl) (finite rfl)]
  | arr _ | obj _ => cases isLeaf
  | _ => simp [narrowed, same]

theorem signed_iff : j.Signed ↔ ∀ leaf ∈ j.leaves, ∀ n, leaf = int n → n < 2 ^ 63 :=
  ⟨fun signed _ mem n eq => signed n (eq ▸ mem), fun signed n mem => signed _ mem n rfl⟩

end Json

namespace Value

variable {j leaf : Json}

mutual

theorem toJson_ofJson_eq_mapLeaves : ∀ j : Json,
    (ofJson j).toJson = j.mapLeaves fun leaf => (ofJson leaf).toJson
  | .arr items => congrArg Json.arr (itemsToJson_ofJsonItems items)
  | .obj fields => congrArg Json.obj (fieldsToJson_ofJsonFields fields)
  | .null | .bool _ | .int _ | .float _ | .str _ => rfl

theorem itemsToJson_ofJsonItems : ∀ items : List Json, itemsToJson (ofJsonItems items) =
    Json.mapLeavesItems (fun leaf => (ofJson leaf).toJson) items
  | [] => rfl
  | item :: rest => by
      rw [ofJsonItems, itemsToJson, Json.mapLeavesItems, toJson_ofJson_eq_mapLeaves item,
        itemsToJson_ofJsonItems rest]

theorem fieldsToJson_ofJsonFields : ∀ fields : List (String × Json),
    fieldsToJson (ofJsonFields fields) =
      Json.mapLeavesFields (fun leaf => (ofJson leaf).toJson) fields
  | [] => rfl
  | (name, value) :: rest => by
      rw [ofJsonFields, fieldsToJson, Json.mapLeavesFields, toJson_ofJson_eq_mapLeaves value,
        fieldsToJson_ofJsonFields rest]

end

theorem toJson_ofJson_int {n : Int} (low : -2 ^ 63 ≤ n) (high : n < 2 ^ 64) :
    (ofJson (.int n)).toJson = (Json.int n).narrowed := by
  rw [ofJson, Number.int64?, Json.narrowed]
  by_cases small : n < 2 ^ 63
  · rw [if_pos (Number.fitsInt64_iff.2 ⟨low, small⟩), if_pos small]
    exact congrArg Json.int (Int64.toInt_ofInt_of_le low small)
  · have finite := (Binary64.scaled_ofInt (n := n) (by omega)).1
    rw [if_neg fun fits => small (Number.fitsInt64_iff.1 fits).2, if_neg small]
    exact if_pos finite

theorem toJson_ofJson_leaf (wellFormed : j.WellFormed) (mem : leaf ∈ j.leaves) :
    (ofJson leaf).toJson = leaf.narrowed := by
  have isLeaf := Json.isLeaf_of_mem_leaves mem
  cases leaf with
  | int n =>
      obtain ⟨low, high⟩ := wellFormed.words mem
      exact toJson_ofJson_int low high
  | float x => exact if_pos (wellFormed.finite mem)
  | arr _ | obj _ => cases isLeaf
  | _ => rfl

/-- A document comes back from a value with the integers past the signed range as floats. So it is
the same document, and an equal one, exactly if it has no such integer. -/
theorem toJson_ofJson (wellFormed : j.WellFormed) :
    (ofJson j).toJson = j.mapLeaves Json.narrowed ∧
      ((ofJson j).toJson = j ↔ j.Signed) ∧ ((ofJson j).toJson.same j = true ↔ j.Signed) := by
  have back : (ofJson j).toJson = j.mapLeaves Json.narrowed := by
    rw [toJson_ofJson_eq_mapLeaves]
    exact Json.mapLeaves_congr fun leaf mem => toJson_ofJson_leaf wellFormed mem
  refine ⟨back, ?_, ?_⟩
  · rw [back, Json.mapLeaves_eq_self_iff, Json.signed_iff]
    exact forall₂_congr fun leaf mem => Json.narrowed_eq_iff
  · rw [back, Json.same_mapLeaves_iff, Json.signed_iff]
    refine forall₂_congr fun leaf mem => ?_
    exact Json.narrowed_same_iff (fun eq => wellFormed.finite (eq ▸ mem))
      (Json.isLeaf_of_mem_leaves mem)

def nestedNumbers : Json :=
  .obj [("a", .arr [.int (-2 ^ 63), .arr [.float ⟨0x3FF8000000000000⟩, .null]]),
    ("b", .obj [("c", .int (2 ^ 63 - 1)), ("d", .str "1")])]

theorem toJson_ofJson_nestedNumbers :
    nestedNumbers.WellFormed ∧ nestedNumbers.Signed ∧
      (ofJson nestedNumbers).toJson = nestedNumbers := by
  have leaves : nestedNumbers.leaves = [.int (-2 ^ 63), .float ⟨0x3FF8000000000000⟩, .null,
    .int (2 ^ 63 - 1), .str "1"] := rfl
  have wellFormed : nestedNumbers.WellFormed := by
    constructor <;> simp [leaves]
    decide
  have signed : nestedNumbers.Signed := by simp [Json.Signed, leaves]
  exact ⟨wellFormed, signed, (toJson_ofJson wellFormed).2.1.2 signed⟩

/-- The first integer past the signed range comes back as a document that does not equal it. -/
theorem exists_toJson_ofJson_ne :
    ∃ j : Json, j.WellFormed ∧ (ofJson j).toJson.same j = false ∧ (ofJson j).toJson ≠ j := by
  have back : (ofJson (.int (2 ^ 63))).toJson = .float (.ofInt (2 ^ 63)) := by
    rw [toJson_ofJson_int (by decide) (by decide), Json.narrowed, if_neg (by decide)]
  refine ⟨.int (2 ^ 63), ⟨fun mem => ?_, fun mem => ?_⟩, ?_, ?_⟩
  · obtain rfl := Json.int.inj (List.mem_singleton.1 mem)
    decide
  · cases List.mem_singleton.1 mem
  · rw [back]
    rfl
  · rw [back]
    exact Json.noConfusion

end Value

end MappedSql
