import Mathlib.Algebra.Order.Ring.Int
import MappedSql.Number.Binary64

namespace MappedSql.Binary64

/-- The number one in units of `2 ^ -1074`, the least positive number. -/
def unitsInOne : Nat :=
  Nat.pow 2 1074

theorem unitsInOne_eq : unitsInOne = 2 ^ 1074 :=
  Nat.pow_eq

theorem unitsInOne_pos : 0 < unitsInOne :=
  Nat.pow_pos (by decide)

def body (x : Binary64) : Nat :=
  x.bits.toNat % 2 ^ 63

def bodySize (body : Nat) : Nat :=
  if body / 2 ^ 52 = 0 then body else (body % 2 ^ 52 + 2 ^ 52) * 2 ^ (body / 2 ^ 52 - 1)

theorem body_lt (x : Binary64) : x.body < 2 ^ 63 :=
  Nat.mod_lt _ (by decide)

theorem exponentField_eq (x : Binary64) : x.exponentField = x.body / 2 ^ 52 := by
  simp only [exponentField, body, Nat.pow_eq]
  omega

theorem fractionField_eq (x : Binary64) : x.fractionField = x.body % 2 ^ 52 := by
  simp only [fractionField, body, Nat.pow_eq]
  omega

theorem isFinite_iff {x : Binary64} : x.isFinite = true ↔ x.body < infinityBody := by
  have small := x.body_lt
  simp only [isFinite, bne_iff_ne, exponentField_eq, infinityBody, Nat.pow_eq]
  omega

theorem isNaN_eq_false {x : Binary64} (finite : x.isFinite = true) : x.isNaN = false := by
  simp only [isFinite, bne_iff_ne] at finite
  simp [isNaN, finite]

theorem magnitude_eq_bodySize (x : Binary64) : x.magnitude = bodySize x.body := by
  simp only [magnitude, significand, unitExponent, exponentField_eq, fractionField_eq, bodySize,
    Nat.pow_eq]
  split
  · next subnormal =>
      rw [subnormal, Nat.pow_zero, Nat.mul_one, Nat.mod_eq_of_lt (by omega)]
  · rfl

theorem strictMono_bodySize : StrictMono bodySize := by
  refine strictMono_nat_of_lt_succ fun body => ?_
  unfold bodySize
  by_cases last : body % 2 ^ 52 + 1 = 2 ^ 52
  · -- the next number is the first of the next exponent
    have quotient : (body + 1) / 2 ^ 52 = body / 2 ^ 52 + 1 := by omega
    have remainder : (body + 1) % 2 ^ 52 = 0 := by omega
    rw [quotient, remainder, if_neg (Nat.succ_ne_zero _), Nat.add_sub_cancel, Nat.zero_add]
    split
    · next subnormal =>
        rw [subnormal, Nat.pow_zero]
        omega
    · next normal =>
        obtain ⟨e, shift⟩ := Nat.exists_eq_succ_of_ne_zero normal
        have positive := Nat.two_pow_pos e
        rw [shift, Nat.succ_sub_one, Nat.pow_succ 2 e, Nat.mul_comm (2 ^ e) 2, ← Nat.mul_assoc]
        exact Nat.mul_lt_mul_of_pos_right (by omega) positive
  · have quotient : (body + 1) / 2 ^ 52 = body / 2 ^ 52 := by omega
    have remainder : (body + 1) % 2 ^ 52 = body % 2 ^ 52 + 1 := by omega
    rw [quotient, remainder]
    split
    · exact Nat.lt_succ_self body
    · exact Nat.mul_lt_mul_of_pos_right (by omega) (Nat.two_pow_pos _)

theorem eq_of_body {x y : Binary64} (sign : x.isNegative = y.isNegative) (bits : x.body = y.body) :
    x = y := by
  obtain ⟨x⟩ := x
  obtain ⟨y⟩ := y
  have small := x.toNat_lt
  have small' := y.toNat_lt
  simp only [isNegative, body, Nat.pow_eq, decide_eq_decide] at sign bits
  have same : x = y := UInt64.toNat_inj.mp (by omega)
  rw [same]

theorem isZero_iff {x : Binary64} : x.isZero = true ↔ x.magnitude = 0 := by
  have least : bodySize 0 = 0 := by decide
  rw [magnitude_eq_bodySize, ← least, strictMono_bodySize.injective.eq_iff]
  simp only [isZero, exponentField_eq, fractionField_eq, Bool.and_eq_true, beq_iff_eq]
  omega

theorem scaled_eq_zero {x : Binary64} : x.scaled = 0 ↔ x.magnitude = 0 := by
  unfold scaled
  split <;> omega

theorem numEq_iff_scaled {x y : Binary64} (left : x.isFinite = true) (right : y.isFinite = true) :
    x.numEq y = true ↔ x.scaled = y.scaled := by
  simp only [numEq, isNaN_eq_false left, isNaN_eq_false right, Bool.not_false, Bool.true_and,
    Bool.or_eq_true, Bool.and_eq_true, beq_iff_eq, isZero_iff]
  constructor
  · rintro (bits | ⟨zero, zero'⟩)
    · obtain ⟨x⟩ := x
      obtain ⟨y⟩ := y
      obtain rfl : x = y := bits
      rfl
    · rw [scaled_eq_zero.2 zero, scaled_eq_zero.2 zero']
  · intro same
    by_cases zero : x.magnitude = 0
    · exact .inr ⟨zero, scaled_eq_zero.1 (same ▸ scaled_eq_zero.2 zero)⟩
    · have sizes : x.isNegative = y.isNegative ∧ x.magnitude = y.magnitude := by
        unfold scaled at same
        cases sign : x.isNegative <;> cases sign' : y.isNegative <;>
          simp only [sign, sign', Bool.false_eq_true, if_true, if_false, reduceCtorEq, true_and,
            false_and] at same ⊢ <;> omega
      rw [magnitude_eq_bodySize, magnitude_eq_bodySize] at sizes
      rw [eq_of_body sizes.1 (strictMono_bodySize.injective sizes.2)]
      exact .inl rfl

section

variable {negative : Bool} {size : Nat}

theorem toNat_bits_pack (small : size < 2 ^ 63) :
    (pack negative size).bits.toNat = (if negative then 2 ^ 63 else 0) + size := by
  simp only [pack, UInt64.toNat_ofNat', Nat.pow_eq]
  exact Nat.mod_eq_of_lt (by split <;> omega)

theorem body_pack (small : size < 2 ^ 63) : (pack negative size).body = size := by
  rw [body, toNat_bits_pack small]
  cases negative
  · simpa using small
  · simpa using small

theorem isNegative_pack (small : size < 2 ^ 63) : (pack negative size).isNegative = negative := by
  rw [isNegative, toNat_bits_pack small, Nat.pow_eq]
  cases negative
  · simpa using small
  · simp

end

theorem bodySize_encodeBody {significand unit : Nat} (normal : 2 ^ 52 ≤ significand ∨ unit = 0)
    (bounded : significand ≤ 2 ^ 53) (fits : unit ≤ 2044) :
    encodeBody significand unit < infinityBody ∧
      bodySize (encodeBody significand unit) = significand * 2 ^ unit := by
  simp only [encodeBody, infinityBody, Nat.pow_eq]
  split
  · next small =>
      obtain rfl : unit = 0 := normal.resolve_left (by omega)
      have none : significand / 2 ^ 52 = 0 := by omega
      refine ⟨by omega, ?_⟩
      rw [bodySize, if_pos none, Nat.pow_zero, Nat.mul_one]
  · next large =>
      have finite : unit * 2 ^ 52 + significand < 2047 * 2 ^ 52 := by omega
      rw [Nat.min_eq_left finite.le]
      refine ⟨finite, ?_⟩
      unfold bodySize
      by_cases full : significand = 2 ^ 53
      · subst full
        have quotient : (unit * 2 ^ 52 + 2 ^ 53) / 2 ^ 52 = unit + 1 + 1 := by omega
        have remainder : (unit * 2 ^ 52 + 2 ^ 53) % 2 ^ 52 = 0 := by omega
        rw [quotient, remainder, if_neg (Nat.succ_ne_zero _), Nat.add_sub_cancel, Nat.zero_add,
          Nat.pow_succ 2 unit, Nat.mul_comm (2 ^ unit) 2, ← Nat.mul_assoc,
          show 2 ^ 52 * 2 = 2 ^ 53 by decide]
      · have quotient : (unit * 2 ^ 52 + significand) / 2 ^ 52 = unit + 1 := by omega
        have remainder : (unit * 2 ^ 52 + significand) % 2 ^ 52 = significand - 2 ^ 52 := by omega
        rw [quotient, remainder, if_neg (Nat.succ_ne_zero _), Nat.add_sub_cancel,
          Nat.sub_add_cancel (by omega)]

theorem scaled_pack_encodeBody (negative : Bool) {significand unit : Nat}
    (normal : 2 ^ 52 ≤ significand ∨ unit = 0) (bounded : significand ≤ 2 ^ 53)
    (fits : unit ≤ 2044) :
    (pack negative (encodeBody significand unit)).isFinite = true ∧
      (pack negative (encodeBody significand unit)).scaled =
        if negative then -((significand * 2 ^ unit : Nat) : Int)
        else ((significand * 2 ^ unit : Nat) : Int) := by
  obtain ⟨finite, size⟩ := bodySize_encodeBody normal bounded fits
  have small : encodeBody significand unit < 2 ^ 63 := Nat.lt_trans finite (by decide)
  refine ⟨isFinite_iff.2 (by rwa [body_pack small]), ?_⟩
  rw [scaled, isNegative_pack small, magnitude_eq_bodySize, body_pack small, size]

section

variable {num den : Nat}

theorem roundQuotient_cases (num den : Nat) :
    (roundQuotient num den = num / den ∧ 2 * (num % den) ≤ den) ∨
      (roundQuotient num den = num / den + 1 ∧ den ≤ 2 * (num % den)) := by
  unfold roundQuotient
  dsimp only
  split
  · exact .inl ⟨rfl, by omega⟩
  · split
    · exact .inr ⟨rfl, by omega⟩
    · split
      · exact .inl ⟨rfl, by omega⟩
      · exact .inr ⟨rfl, by omega⟩

theorem roundQuotient_nearest (positive : 0 < den) (factor : Nat) :
    ((num : Int) - (roundQuotient num den * den : Nat)).natAbs ≤
      ((num : Int) - (factor * den : Nat)).natAbs := by
  have parts := Nat.div_add_mod num den
  have small := Nat.mod_lt num positive
  rw [Nat.mul_comm] at parts
  -- no multiple lies strictly between the one below and the one above
  have sides : factor * den ≤ num / den * den ∨ num / den * den + den ≤ factor * den := by
    rcases Nat.lt_or_ge (num / den) factor with above | below
    · right
      rw [← Nat.succ_mul]
      exact Nat.mul_le_mul_right den above
    · exact .inl (Nat.mul_le_mul_right den below)
  rcases roundQuotient_cases num den with ⟨down, half⟩ | ⟨up, half⟩
  · rw [down]
    omega
  · rw [up, Nat.succ_mul]
    omega

theorem roundQuotient_of_dvd (positive : 0 < den) (exact : den ∣ num) :
    roundQuotient num den * den = num := by
  obtain ⟨factor, rfl⟩ := exact
  simp [roundQuotient, Nat.mul_div_cancel_left factor positive, positive, Nat.mul_comm]

theorem roundQuotient_mul_right (num den : Nat) {factor : Nat} (positive : 0 < factor) :
    roundQuotient (num * factor) (den * factor) = roundQuotient num den := by
  have scale : 2 * (num % den * factor) = 2 * (num % den) * factor := (Nat.mul_assoc _ _ _).symm
  simp only [roundQuotient, Nat.mul_div_mul_right _ _ positive, Nat.mul_mod_mul_right, scale,
    Nat.mul_lt_mul_right positive]

end

def unitOf (n : Nat) : Nat :=
  2 ^ (n.log2 - 52)

/-- The nearest number of at most 53 significant bits, on a tie the one that is even in its unit. -/
def significant (n : Nat) : Nat :=
  roundQuotient n (unitOf n) * unitOf n

theorem unitOf_pos (n : Nat) : 0 < unitOf n :=
  Nat.two_pow_pos _

theorem significant_of_dvd {n : Nat} (exact : unitOf n ∣ n) : significant n = n :=
  roundQuotient_of_dvd (unitOf_pos n) exact

theorem significant_of_small {n : Nat} (small : n < 2 ^ 53) : significant n = n := by
  refine significant_of_dvd ?_
  have one : unitOf n = 1 := by
    rcases Nat.eq_zero_or_pos n with rfl | positive
    · decide
    · have short := (Nat.log2_lt (Nat.ne_of_gt positive)).2 small
      rw [unitOf, Nat.sub_eq_zero_of_le (by omega), Nat.pow_zero]
  rw [one]
  exact Nat.one_dvd n

theorem log2_mul_two_pow {n : Nat} (positive : n ≠ 0) (k : Nat) :
    (n * 2 ^ k).log2 = n.log2 + k := by
  have power := Nat.two_pow_pos k
  rw [Nat.log2_eq_iff (Nat.mul_ne_zero positive (Nat.ne_of_gt power)), Nat.pow_add,
    Nat.add_right_comm, Nat.pow_add]
  exact ⟨Nat.mul_le_mul_right _ (Nat.log2_self_le positive),
    Nat.mul_lt_mul_of_pos_right Nat.lt_log2_self power⟩

theorem significant_mul_two_pow (n k : Nat) : significant (n * 2 ^ k) = significant n * 2 ^ k := by
  rcases Nat.eq_zero_or_pos n with rfl | positive
  · simp [significant, roundQuotient, unitOf]
  have shifted := log2_mul_two_pow (Nat.ne_of_gt positive) k
  rcases Nat.lt_or_ge n.log2 52 with short | long
  · have small : n < 2 ^ 53 :=
      Nat.lt_trans ((Nat.log2_lt (Nat.ne_of_gt positive)).1 short) (by decide)
    rw [significant_of_small small]
    refine significant_of_dvd (Nat.dvd_mul_left_of_dvd ?_ n)
    exact Nat.pow_dvd_pow 2 (by omega)
  · have unit : unitOf (n * 2 ^ k) = unitOf n * 2 ^ k := by
      rw [unitOf, unitOf, shifted, ← Nat.pow_add]
      congr 1
      omega
    rw [significant, significant, unit, roundQuotient_mul_right _ _ (Nat.two_pow_pos k),
      Nat.mul_assoc]

theorem roundQuotient_unitOf (n : Nat) :
    (2 ^ 52 ≤ roundQuotient n (unitOf n) ∨ n.log2 - 52 = 0) ∧
      roundQuotient n (unitOf n) ≤ 2 ^ 53 := by
  have positive := unitOf_pos n
  have cases := roundQuotient_cases n (unitOf n)
  have above : n / unitOf n < 2 ^ 53 := by
    rw [Nat.div_lt_iff_lt_mul positive, unitOf, ← Nat.pow_add]
    exact Nat.lt_of_lt_of_le Nat.lt_log2_self (Nat.pow_le_pow_right (by decide) (by omega))
  refine ⟨?_, by omega⟩
  rcases Nat.lt_or_ge 52 n.log2 with long | short
  · left
    have nonzero : n ≠ 0 := by
      rintro rfl
      exact absurd long (by decide)
    have below : 2 ^ 52 ≤ n / unitOf n := by
      rw [Nat.le_div_iff_mul_le positive, unitOf, ← Nat.pow_add,
        show 52 + (n.log2 - 52) = n.log2 by omega]
      exact Nat.log2_self_le nonzero
    omega
  · right
    omega

theorem le_significant {n : Nat} (large : 2 ^ 53 ≤ n) : 2 ^ 53 ≤ significant n := by
  have nonzero : n ≠ 0 := by omega
  have long : 53 ≤ n.log2 := by
    by_contra short
    have small := (Nat.log2_lt nonzero).1 (show n.log2 < 53 by omega)
    omega
  have digits : 2 ^ 52 ≤ roundQuotient n (unitOf n) :=
    (roundQuotient_unitOf n).1.resolve_right (by omega)
  have unit : 2 ≤ unitOf n := Nat.le_self_pow (by omega) 2
  calc 2 ^ 53 = 2 ^ 52 * 2 := by decide
    _ ≤ significant n := Nat.mul_le_mul digits unit

theorem magnitude_grid (x : Binary64) (k : Nat) :
    (∃ factor, x.magnitude = factor * 2 ^ k) ∨ (0 < k ∧ x.magnitude < 2 ^ 52 * 2 ^ k) := by
  have significand : x.significand < 2 ^ 53 := by
    have fraction : x.fractionField < 2 ^ 52 := Nat.mod_lt _ (by decide)
    simp only [Binary64.significand, Nat.pow_eq]
    split <;> omega
  rcases Nat.lt_or_ge x.unitExponent k with finer | coarser
  · refine .inr ⟨by omega, ?_⟩
    calc x.magnitude < 2 ^ 53 * 2 ^ x.unitExponent :=
          Nat.mul_lt_mul_of_pos_right significand (Nat.two_pow_pos _)
      _ ≤ 2 ^ 52 * 2 ^ k := by
          rw [← Nat.pow_add, ← Nat.pow_add]
          exact Nat.pow_le_pow_right (by decide) (by omega)
  · refine .inl ⟨x.significand * 2 ^ (x.unitExponent - k), ?_⟩
    rw [Nat.mul_assoc, ← Nat.pow_add, Nat.sub_add_cancel coarser]
    rfl

theorem significant_nearest (n : Nat) (x : Binary64) :
    ((n : Int) - significant n).natAbs ≤ ((n : Int) - x.magnitude).natAbs := by
  have positive := unitOf_pos n
  rcases magnitude_grid x (n.log2 - 52) with ⟨factor, multiple⟩ | ⟨coarse, below⟩
  · rw [multiple]
    exact roundQuotient_nearest positive factor
  · -- the number lies below the binade, whose lower end is a multiple of the unit
    have nonzero : n ≠ 0 := by
      rintro rfl
      exact absurd coarse (by decide)
    have lower : 2 ^ 52 * 2 ^ (n.log2 - 52) ≤ n := by
      rw [← Nat.pow_add, show 52 + (n.log2 - 52) = n.log2 by omega]
      exact Nat.log2_self_le nonzero
    have nearest : ((n : Int) - significant n).natAbs ≤ _ := roundQuotient_nearest positive (2 ^ 52)
    rw [unitOf] at nearest
    omega

def rounded (n : Int) : Int :=
  if n < 0 then -(significant n.natAbs : Int) else significant n.natAbs

theorem rounded_of_small {n : Int} (small : n.natAbs < 2 ^ 53) : rounded n = n := by
  rw [rounded, significant_of_small small]
  split <;> omega

theorem rounded_eq_iff_of_small {m n : Int} (small : m.natAbs < 2 ^ 53) :
    rounded m = rounded n ↔ m = n := by
  refine ⟨fun same => ?_, fun same => by rw [same]⟩
  rw [rounded_of_small small] at same
  rcases Nat.lt_or_ge n.natAbs (2 ^ 53) with small' | large
  · rwa [rounded_of_small small'] at same
  · have far := le_significant large
    unfold rounded at same
    split at same <;> omega

theorem scaled_ofRatio_one (negative : Bool) {n : Nat} (fits : n.log2 ≤ 2096) :
    (ofRatio negative n 1).isFinite = true ∧
      (ofRatio negative n 1).scaled =
        if negative then -(significant n : Int) else (significant n : Int) := by
  obtain ⟨normal, bounded⟩ := roundQuotient_unitOf n
  have packed := scaled_pack_encodeBody negative normal bounded (by omega)
  rw [ofRatio, Nat.div_one, Nat.one_mul, Nat.pow_eq]
  exact packed

theorem log2_mul_unitsInOne {n : Nat} (positive : n ≠ 0) :
    (n * unitsInOne).log2 = n.log2 + 1074 := by
  have shifted := log2_mul_two_pow positive 1074
  rwa [← unitsInOne_eq] at shifted

theorem significant_mul_unitsInOne (n : Nat) :
    significant (n * unitsInOne) = significant n * unitsInOne := by
  have scaled := significant_mul_two_pow n 1074
  rwa [← unitsInOne_eq] at scaled

theorem ofInt_eq (n : Int) : ofInt n = ofRatio (n < 0) (n.natAbs * unitsInOne) 1 := by
  unfold ofInt unitsInOne
  rfl

/-- An integer of a signed or an unsigned machine word becomes the floating-point number that is its
nearest one of 53 significant bits. -/
theorem scaled_ofInt {n : Int} (word : n.natAbs < 2 ^ 64) :
    (ofInt n).isFinite = true ∧ (ofInt n).scaled = rounded n * unitsInOne := by
  have fits : (n.natAbs * unitsInOne).log2 ≤ 2096 := by
    rcases Nat.eq_zero_or_pos n.natAbs with zero | positive
    · rw [zero, Nat.zero_mul]
      decide
    · have short := (Nat.log2_lt (Nat.ne_of_gt positive)).2 word
      rw [log2_mul_unitsInOne (Nat.ne_of_gt positive)]
      omega
  obtain ⟨finite, scaled⟩ := scaled_ofRatio_one (decide (n < 0)) fits
  rw [ofInt_eq]
  refine ⟨finite, ?_⟩
  rw [scaled, significant_mul_unitsInOne, Int.natCast_mul, rounded]
  simp only [decide_eq_true_eq]
  split
  · rw [Int.neg_mul]
  · rfl

theorem rounded_nearest (n : Int) (x : Binary64) :
    (n * unitsInOne - rounded n * unitsInOne).natAbs ≤ (n * unitsInOne - x.scaled).natAbs := by
  have nearest := significant_nearest (n.natAbs * unitsInOne) x
  have nearestZero := significant_nearest (n.natAbs * unitsInOne) zero
  rw [significant_mul_unitsInOne] at nearest nearestZero
  rw [show zero.magnitude = 0 by decide] at nearestZero
  have value : n * unitsInOne =
      if n < 0 then -((n.natAbs * unitsInOne : Nat) : Int) else (n.natAbs * unitsInOne : Nat) := by
    split
    · rw [Int.natCast_mul, ← Int.neg_mul, Int.ofNat_natAbs_of_nonpos (by omega), Int.neg_neg]
    · rw [Int.natCast_mul, Int.natAbs_of_nonneg (by omega)]
  have result : rounded n * unitsInOne =
      if n < 0 then -((significant n.natAbs * unitsInOne : Nat) : Int)
      else (significant n.natAbs * unitsInOne : Nat) := by
    rw [rounded, Int.natCast_mul]
    split
    · rw [Int.neg_mul]
    · rfl
  rw [value, result, scaled]
  generalize n.natAbs * unitsInOne = size at *
  generalize significant n.natAbs * unitsInOne = size' at *
  split <;> split <;> omega

theorem numEq_ofInt {m n : Int} (left : m.natAbs < 2 ^ 64) (right : n.natAbs < 2 ^ 64) :
    (ofInt m).numEq (ofInt n) = true ↔ rounded m = rounded n := by
  obtain ⟨finite, scaled⟩ := scaled_ofInt left
  obtain ⟨finite', scaled'⟩ := scaled_ofInt right
  have positive := unitsInOne_pos
  rw [numEq_iff_scaled finite finite', scaled, scaled']
  exact Int.mul_eq_mul_right_iff (by omega)

end MappedSql.Binary64
