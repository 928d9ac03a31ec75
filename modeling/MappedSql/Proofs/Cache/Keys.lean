import MappedSql.Cache.Key

namespace MappedSql

namespace Binary64

theorem numEq_symm {x y : Binary64} (same : x.numEq y) : y.numEq x := by
  simp only [numEq, Bool.and_eq_true, Bool.or_eq_true, beq_iff_eq, Bool.not_eq_true'] at same ⊢
  obtain ⟨⟨left, right⟩, equal | zeros⟩ := same
  · exact ⟨⟨right, left⟩, .inl equal.symm⟩
  · exact ⟨⟨right, left⟩, .inr zeros.symm⟩

theorem numEq_trans {x y z : Binary64} (first : x.numEq y) (second : y.numEq z) : x.numEq z := by
  simp only [numEq, isZero, Bool.and_eq_true, Bool.or_eq_true, beq_iff_eq,
    Bool.not_eq_true'] at first second ⊢
  refine ⟨⟨first.1.1, second.1.2⟩, ?_⟩
  rcases first.2 with equal | zeros
  · rcases second.2 with equal' | zeros'
    · exact .inl (equal.trans equal')
    · rw [exponentField, fractionField] at zeros'
      rw [← equal] at zeros'
      exact .inr ⟨zeros'.1, zeros'.2⟩
  · rcases second.2 with equal' | zeros'
    · refine .inr ⟨zeros.1, ?_⟩
      simpa only [exponentField, fractionField, equal'] using zeros.2
    · exact .inr ⟨zeros.1, zeros'.2⟩

theorem same_symm {x y : Binary64} (equal : x.same y) : y.same x := by
  simp only [same, Bool.or_eq_true, beq_iff_eq] at equal ⊢
  exact equal.imp numEq_symm Eq.symm

theorem same_trans {x y z : Binary64} (first : x.same y) (second : y.same z) : x.same z := by
  obtain ⟨x⟩ := x
  obtain ⟨y⟩ := y
  obtain ⟨z⟩ := z
  simp only [same, Bool.or_eq_true, beq_iff_eq] at first second ⊢
  rcases first with first | rfl
  · rcases second with second | rfl
    · exact .inl (numEq_trans first second)
    · exact .inl first
  · exact second

end Binary64

theorem beq_symm {α : Type} [BEq α] [LawfulBEq α] {a b : α} (equal : (a == b) = true) :
    (b == a) = true :=
  beq_iff_eq.2 (beq_iff_eq.1 equal).symm

theorem beq_trans {α : Type} [BEq α] [LawfulBEq α] {a b c : α} (first : (a == b) = true)
    (second : (b == c) = true) : (a == c) = true :=
  beq_iff_eq.2 ((beq_iff_eq.1 first).trans (beq_iff_eq.1 second))

namespace Json

mutual

theorem same_symm : ∀ {a b : Json}, a.same b → b.same a
  | .null, .null, _ => rfl
  | .bool _, .bool _, equal => beq_symm equal
  | .int _, .int _, equal => beq_symm equal
  | .float _, .float _, equal => Binary64.numEq_symm equal
  | .str _, .str _, equal => beq_symm equal
  | .arr _, .arr _, equal => sameItems_symm equal
  | .obj _, .obj _, equal => sameFields_symm equal

theorem sameItems_symm : ∀ {a b : List Json}, sameItems a b → sameItems b a
  | [], [], _ => rfl
  | _ :: _, _ :: _, equal => by
      simp only [sameItems, Bool.and_eq_true] at equal ⊢
      exact ⟨same_symm equal.1, sameItems_symm equal.2⟩

theorem sameFields_symm : ∀ {a b : List (String × Json)}, sameFields a b → sameFields b a
  | [], [], _ => rfl
  | (_, _) :: _, (_, _) :: _, equal => by
      simp only [sameFields, Bool.and_eq_true] at equal ⊢
      exact ⟨⟨beq_symm equal.1.1, same_symm equal.1.2⟩, sameFields_symm equal.2⟩

end

mutual

theorem same_trans : ∀ {a b c : Json}, a.same b → b.same c → a.same c
  | .null, .null, .null, _, _ => rfl
  | .bool _, .bool _, .bool _, first, second => beq_trans first second
  | .int _, .int _, .int _, first, second => beq_trans first second
  | .float _, .float _, .float _, first, second => Binary64.numEq_trans first second
  | .str _, .str _, .str _, first, second => beq_trans first second
  | .arr _, .arr _, .arr _, first, second => sameItems_trans first second
  | .obj _, .obj _, .obj _, first, second => sameFields_trans first second

theorem sameItems_trans : ∀ {a b c : List Json}, sameItems a b → sameItems b c → sameItems a c
  | [], [], [], _, _ => rfl
  | _ :: _, _ :: _, _ :: _, first, second => by
      simp only [sameItems, Bool.and_eq_true] at first second ⊢
      exact ⟨same_trans first.1 second.1, sameItems_trans first.2 second.2⟩

theorem sameFields_trans : ∀ {a b c : List (String × Json)}, sameFields a b → sameFields b c →
    sameFields a c
  | [], [], [], _, _ => rfl
  | (_, _) :: _, (_, _) :: _, (_, _) :: _, first, second => by
      simp only [sameFields, Bool.and_eq_true] at first second ⊢
      exact ⟨⟨beq_trans first.1.1 second.1.1, same_trans first.1.2 second.1.2⟩,
        sameFields_trans first.2 second.2⟩

end

end Json

namespace Value

mutual

theorem same_symm : ∀ {a b : Value}, a.same b → b.same a
  | .null, .null, _ => rfl
  | .bool _, .bool _, equal => beq_symm equal
  | .int _, .int _, equal => beq_symm equal
  | .float _, .float _, equal => Binary64.same_symm equal
  | .text _, .text _, equal => beq_symm equal
  | .timestamp _, .timestamp _, equal => beq_symm equal
  | .json _, .json _, equal => Json.same_symm equal
  | .blob _, .blob _, equal => beq_symm equal
  | .list _, .list _, equal => sameItems_symm equal
  | .map _, .map _, equal => sameFields_symm equal
  | .record _ _, .record _ _, equal => by
      simp only [same, Bool.and_eq_true] at equal ⊢
      exact ⟨beq_symm equal.1, sameFields_symm equal.2⟩

theorem sameItems_symm : ∀ {a b : List Value}, sameItems a b → sameItems b a
  | [], [], _ => rfl
  | _ :: _, _ :: _, equal => by
      simp only [sameItems, Bool.and_eq_true] at equal ⊢
      exact ⟨same_symm equal.1, sameItems_symm equal.2⟩

theorem sameFields_symm : ∀ {a b : List (String × Value)}, sameFields a b → sameFields b a
  | [], [], _ => rfl
  | (_, _) :: _, (_, _) :: _, equal => by
      simp only [sameFields, Bool.and_eq_true] at equal ⊢
      exact ⟨⟨beq_symm equal.1.1, same_symm equal.1.2⟩, sameFields_symm equal.2⟩

end

mutual

theorem same_trans : ∀ {a b c : Value}, a.same b → b.same c → a.same c
  | .null, .null, .null, _, _ => rfl
  | .bool _, .bool _, .bool _, first, second => beq_trans first second
  | .int _, .int _, .int _, first, second => beq_trans first second
  | .float _, .float _, .float _, first, second => Binary64.same_trans first second
  | .text _, .text _, .text _, first, second => beq_trans first second
  | .timestamp _, .timestamp _, .timestamp _, first, second => beq_trans first second
  | .json _, .json _, .json _, first, second => Json.same_trans first second
  | .blob _, .blob _, .blob _, first, second => beq_trans first second
  | .list _, .list _, .list _, first, second => sameItems_trans first second
  | .map _, .map _, .map _, first, second => sameFields_trans first second
  | .record _ _, .record _ _, .record _ _, first, second => by
      simp only [same, Bool.and_eq_true] at first second ⊢
      exact ⟨beq_trans first.1 second.1, sameFields_trans first.2 second.2⟩

theorem sameItems_trans : ∀ {a b c : List Value}, sameItems a b → sameItems b c → sameItems a c
  | [], [], [], _, _ => rfl
  | _ :: _, _ :: _, _ :: _, first, second => by
      simp only [sameItems, Bool.and_eq_true] at first second ⊢
      exact ⟨same_trans first.1 second.1, sameItems_trans first.2 second.2⟩

theorem sameFields_trans : ∀ {a b c : List (String × Value)}, sameFields a b → sameFields b c →
    sameFields a c
  | [], [], [], _, _ => rfl
  | (_, _) :: _, (_, _) :: _, (_, _) :: _, first, second => by
      simp only [sameFields, Bool.and_eq_true] at first second ⊢
      exact ⟨⟨beq_trans first.1.1 second.1.1, same_trans first.1.2 second.1.2⟩,
        sameFields_trans first.2 second.2⟩

end

end Value

namespace CacheKey

theorem same_symm {a b : CacheKey} (equal : a.same b) : b.same a := by
  simp only [same, Bool.and_eq_true] at equal ⊢
  exact ⟨Value.sameItems_symm equal.1, beq_symm equal.2⟩

theorem same_trans {a b c : CacheKey} (first : a.same b) (second : b.same c) : a.same c := by
  simp only [same, Bool.and_eq_true] at first second ⊢
  exact ⟨Value.sameItems_trans first.1 second.1, beq_trans first.2 second.2⟩

def Matches (a b : CacheKey) : Prop :=
  a = b ∨ a.same b

theorem Matches.refl (key : CacheKey) : key.Matches key :=
  .inl rfl

theorem Matches.trans {a b c : CacheKey} (first : a.Matches b) (second : b.Matches c) :
    a.Matches c := by
  rcases first with rfl | first
  · exact second
  · rcases second with rfl | second
    · exact .inr first
    · exact .inr (same_trans first second)

end CacheKey

end MappedSql
