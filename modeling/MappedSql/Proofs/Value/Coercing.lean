import MappedSql.Proofs.Number.Nearest
import MappedSql.Value.Coercion

namespace MappedSql.Value

variable {target : ValueType} {value converted : Value}

structure FitsType (target : ValueType) (value : Value) : Prop where
  scalar : value.isComposite = false
  kind : target ≠ .any → value.kind = target

theorem fitsType_of_map {α : Type} {answer : Option α} {make : α → Value}
    (made : ∀ a, (make a).FitsType target) (some : answer.map make = some converted) :
    converted.FitsType target := by
  obtain ⟨a, -, rfl⟩ := Option.map_eq_some_iff.1 some
  exact made a

theorem fitsType_of_convert? (some : value.convert? target = some converted) :
    converted.FitsType target := by
  revert some
  fun_cases convert? target value with
  | case1 =>
      rintro ⟨⟩
      refine ⟨?_, fun typed => absurd rfl typed⟩
      split
      · rfl
      · next scalar => exact Bool.eq_false_iff.2 scalar
  | case2 | case3 | case8 | case9 | case10 | case11 | case13 | case14 =>
      exact fitsType_of_map fun _ => ⟨rfl, fun _ => rfl⟩
  | case4 | case5 | case6 | case12 | case15 | case16 | case17 =>
      rintro ⟨⟩
      exact ⟨rfl, fun _ => rfl⟩
  | case7 | case18 => nofun

theorem ne_null_of_convert? (present : value ≠ null) (some : value.convert? target = some converted) :
    converted ≠ null := by
  rintro rfl
  by_cases typed : target = .any
  · subst typed
    have same := Option.some.inj some
    split at same
    · cases same
    · exact present same
  · exact typed ((fitsType_of_convert? some).kind typed).symm

theorem FitsType.convert? (fits : value.FitsType target) (present : value ≠ null) :
    value.convert? target = some value := by
  obtain ⟨scalar, kind⟩ := fits
  by_cases typed : target = .any
  · subst typed
    exact congrArg some (if_neg (Bool.eq_false_iff.1 scalar))
  · rw [← kind typed]
    cases value with
    | null => exact absurd rfl present
    | list _ | map _ | record _ _ => cases scalar
    | _ => rfl

theorem coerce_of_ne_null (present : value ≠ null) : value.coerce target =
    match value.convert? target with
    | some converted => .ok converted
    | none => failWith (.binding value.display
        s!"cannot convert a {value.kind.name} value to {target.name}") := by
  cases value with
  | null => exact absurd rfl present
  | _ => rfl

theorem coerce_eq_ok_iff : value.coerce target = .ok converted ↔
    (value = null ∧ converted = null) ∨
      (value ≠ null ∧ value.convert? target = some converted) := by
  by_cases null : value = null
  · subst null
    exact ⟨fun coerced => .inl ⟨rfl, (Except.ok.inj coerced).symm⟩, fun split => by
      obtain ⟨-, rfl⟩ | ⟨present, -⟩ := split
      · rfl
      · exact absurd rfl present⟩
  · rw [coerce_of_ne_null null]
    cases some : value.convert? target <;> simp [null, failWith]

theorem coerce_eq_self_iff :
    value.coerce target = .ok value ↔ value = null ∨ value.FitsType target := by
  rw [coerce_eq_ok_iff]
  constructor
  · rintro (⟨null, -⟩ | ⟨-, some⟩)
    · exact .inl null
    · exact .inr (fitsType_of_convert? some)
  · intro settled
    by_cases null : value = null
    · exact .inl ⟨null, null⟩
    · exact .inr ⟨null, (settled.resolve_left null).convert? null⟩

/-- A coercion answers null for null alone, and otherwise a scalar of the type that was asked for; it
answers itself when it is coerced again. -/
theorem coerce_coerced (coerced : value.coerce target = .ok converted) :
    (converted = null ↔ value = null) ∧
      (target ≠ .any → converted = null ∨ converted.kind = target) ∧
      (target = .any → converted.isComposite = false) ∧
      converted.coerce target = .ok converted := by
  rcases coerce_eq_ok_iff.1 coerced with ⟨rfl, rfl⟩ | ⟨present, some⟩
  · exact ⟨Iff.rfl, fun _ => .inl rfl, fun _ => rfl, rfl⟩
  · have fits := fitsType_of_convert? some
    have still := ne_null_of_convert? present some
    exact ⟨⟨fun null => absurd null still, fun null => absurd null present⟩,
      fun typed => .inr (fits.kind typed), fun _ => fits.scalar,
      coerce_eq_self_iff.2 (.inr fits)⟩

def nestedBytes : Value := .list [.int 1, .record "row" [("k", .blob [255]), ("n", .null)]]

theorem coerce_coerced_nestedBytes :
    nestedBytes.coerce .text = .ok (.text "[1,\x7b\"k\":[255],\"n\":null\x7d]") ∧
      (Value.text "[1,\x7b\"k\":[255],\"n\":null\x7d]").coerce .text =
        .ok (.text "[1,\x7b\"k\":[255],\"n\":null\x7d]") := by
  have coerced : nestedBytes.coerce .text =
      .ok (.text "[1,\x7b\"k\":[255],\"n\":null\x7d]") := by rfl
  obtain ⟨-, -, -, still⟩ := coerce_coerced coerced
  exact ⟨coerced, still⟩

end MappedSql.Value

namespace MappedSql

namespace Binary64

variable {x : Binary64}

theorem natAbs_scaled (x : Binary64) : x.scaled.natAbs = x.magnitude := by
  unfold scaled
  split <;> simp

theorem isWhole_eq (finite : x.isFinite = true) :
    x.isWhole = (x.magnitude % unitsInOne == 0) := by
  rw [isWhole, finite, Bool.true_and]
  unfold unitsInOne
  rfl

theorem isWhole_iff (finite : x.isFinite = true) :
    x.isWhole = true ↔ (unitsInOne : Int) ∣ x.scaled := by
  rw [isWhole_eq finite, beq_iff_eq, ← Nat.dvd_iff_mod_eq_zero, ← natAbs_scaled,
    Int.ofNat_dvd_left]

theorem truncated_eq (x : Binary64) :
    x.truncated = if x.isNegative then -((x.magnitude / unitsInOne : Nat) : Int)
      else (x.magnitude / unitsInOne : Nat) := by
  unfold truncated unitsInOne
  rfl

theorem truncated_mul (whole : (unitsInOne : Int) ∣ x.scaled) :
    x.truncated * unitsInOne = x.scaled := by
  have size : x.magnitude / unitsInOne * unitsInOne = x.magnitude := by
    rw [Int.ofNat_dvd_left, natAbs_scaled] at whole
    exact Nat.div_mul_cancel whole
  rw [truncated_eq, scaled]
  split
  · rw [Int.neg_mul, ← Int.natCast_mul, size]
  · rw [← Int.natCast_mul, size]

end Binary64

namespace Number

theorem toInt_clampInt64 (n : Int) :
    (clampInt64 n).toInt = max (-2 ^ 63) (min n (2 ^ 63 - 1)) := by
  have bound : ((Nat.pow 2 63 : Nat) : Int) = 2 ^ 63 := rfl
  rw [clampInt64, bound]
  exact Int64.toInt_ofInt_of_le (by omega) (by omega)

theorem clampInt64_nearest (n : Int) (m : Int64) :
    (n - (clampInt64 n).toInt).natAbs ≤ (n - m.toInt).natAbs := by
  have low := m.le_toInt
  have high := m.toInt_lt
  rw [toInt_clampInt64]
  omega

end Number

namespace Value

open Binary64 (unitsInOne)

/-- The number that a value denotes, in units of `2 ^ -1074`. Infinities and NaN denote none. -/
def number? : Value → Option Int
  | int n => some (n.toInt * unitsInOne)
  | float x => if x.isFinite then some x.scaled else none
  | _ => none

theorem number?_eq_some {value : Value} {number : Int} (denotes : value.number? = some number) :
    (∃ n, value = int n ∧ number = n.toInt * unitsInOne) ∨
      ∃ x, value = float x ∧ x.isFinite = true ∧ number = x.scaled := by
  cases value with
  | int n => exact .inl ⟨n, rfl, (Option.some.inj denotes).symm⟩
  | float x =>
      obtain ⟨finite, eq⟩ := Option.ite_none_right_eq_some.1 denotes
      exact .inr ⟨x, rfl, finite, (Option.some.inj eq).symm⟩
  | _ => cases denotes

/-- A value of a type denotes a number, and no value of that type one that is nearer to another. -/
structure IsNearest (type : ValueType) (number : Int) (value : Value) : Prop where
  kind : value.kind = type
  nearest : ∃ own, value.number? = some own ∧ ∀ (other : Value) (own' : Int), other.kind = type →
    other.number? = some own' → (number - own).natAbs ≤ (number - own').natAbs

variable {type : ValueType} {number : Int} {value : Value}

theorem isNearest_of_denotes (kind : value.kind = type) (denotes : value.number? = some number) :
    value.IsNearest type number :=
  ⟨kind, number, denotes, fun _ _ _ _ => by simp⟩

theorem IsNearest.denotes (near : value.IsNearest type number)
    (held : ∃ other : Value, other.kind = type ∧ other.number? = some number) :
    value.number? = some number := by
  obtain ⟨other, kind, denotes⟩ := held
  obtain ⟨own, found, nearest⟩ := near.nearest
  have close := nearest other number kind denotes
  rw [found, show own = number by omega]

theorem isNearest_clampInt64 (n : Int) :
    (int (Number.clampInt64 n)).IsNearest .int (n * unitsInOne) := by
  refine ⟨rfl, _, rfl, fun other own kind denotes => ?_⟩
  obtain ⟨m, rfl, rfl⟩ | ⟨x, rfl, -, -⟩ := number?_eq_some denotes
  · rw [← Int.sub_mul, ← Int.sub_mul, Int.natAbs_mul, Int.natAbs_mul]
    exact Nat.mul_le_mul_right _ (Number.clampInt64_nearest n m)
  · cases kind

theorem isNearest_ofInt (n : Int64) :
    (float (Binary64.ofInt n.toInt)).IsNearest .float (n.toInt * unitsInOne) := by
  have low := n.le_toInt
  have high := n.toInt_lt
  obtain ⟨finite, scaled⟩ := Binary64.scaled_ofInt (n := n.toInt) (by omega)
  refine ⟨rfl, _, if_pos finite, fun other own kind denotes => ?_⟩
  obtain ⟨m, rfl, -⟩ | ⟨x, rfl, -, rfl⟩ := number?_eq_some denotes
  · cases kind
  · rw [scaled]
    exact Binary64.rounded_nearest n.toInt x

theorem coerce_float_int (x : Binary64) : (float x).coerce .int =
    if x.isWhole then .ok (int (Number.clampInt64 x.truncated))
    else failWith (.binding (float x).display "cannot convert a float value to int") := by
  rw [coerce, convert?]
  cases x.isWhole <;> rfl

theorem exists_coerce_nearest (numeric : type = .int ∨ type = .float)
    (denotes : value.number? = some number) (whole : type = .int → (unitsInOne : Int) ∣ number) :
    ∃ converted, value.coerce type = .ok converted ∧ converted.IsNearest type number := by
  obtain ⟨n, rfl, rfl⟩ | ⟨x, rfl, finite, rfl⟩ := number?_eq_some denotes
  · rcases numeric with rfl | rfl
    · exact ⟨int n, rfl, isNearest_of_denotes rfl denotes⟩
    · exact ⟨float (.ofInt n.toInt), rfl, isNearest_ofInt n⟩
  · rcases numeric with rfl | rfl
    · have clamped := isNearest_clampInt64 x.truncated
      rw [Binary64.truncated_mul (whole rfl)] at clamped
      have coerced := coerce_float_int x
      rw [if_pos ((Binary64.isWhole_iff finite).2 (whole rfl))] at coerced
      exact ⟨_, coerced, clamped⟩
    · exact ⟨float x, rfl, isNearest_of_denotes rfl denotes⟩

theorem coerce_fraction (denotes : value.number? = some number)
    (fraction : ¬ (unitsInOne : Int) ∣ number) :
    value.coerce .int = failWith (.binding value.display
      s!"cannot convert a {value.kind.name} value to {ValueType.int.name}") := by
  obtain ⟨n, rfl, rfl⟩ | ⟨x, rfl, finite, rfl⟩ := number?_eq_some denotes
  · exact absurd (Int.dvd_mul_left _ _) fraction
  · rw [coerce_float_int, if_neg fun whole => fraction ((Binary64.isWhole_iff finite).1 whole)]
    rfl

/-- Coercing a number to a numeric type keeps the number wherever some value of the type denotes it,
and refuses a fraction where an integer is asked for. A whole number that no value of the type
denotes becomes the nearest one. -/
theorem coerce_number (numeric : type = .int ∨ type = .float)
    (denotes : value.number? = some number) :
    ((∃ held : Value, held.kind = type ∧ held.number? = some number) →
      ∃ converted, value.coerce type = .ok converted ∧ converted.kind = type ∧
        converted.number? = some number) ∧
    (type = .int → ¬ (unitsInOne : Int) ∣ number →
      value.coerce type = failWith
        (.binding value.display s!"cannot convert a {value.kind.name} value to {type.name}")) ∧
    ((type = .int → (unitsInOne : Int) ∣ number) →
      ∃ converted, value.coerce type = .ok converted ∧ converted.IsNearest type number) := by
  refine ⟨fun held => ?_, fun whole fraction => ?_, exists_coerce_nearest numeric denotes⟩
  · have whole : type = .int → (unitsInOne : Int) ∣ number := by
      rintro rfl
      obtain ⟨other, kind, found⟩ := held
      obtain ⟨n, rfl, rfl⟩ | ⟨x, rfl, -, -⟩ := number?_eq_some found
      · exact Int.dvd_mul_left _ _
      · cases kind
    obtain ⟨converted, coerced, near⟩ := exists_coerce_nearest numeric denotes whole
    exact ⟨converted, coerced, near.kind, near.denotes held⟩
  · subst whole
    exact coerce_fraction denotes fraction

def leastFloat : Binary64 := ⟨0xC3E0000000000000⟩

def leastNumber : Int := -(2 ^ 63 * unitsInOne : Nat)

theorem coerce_number_leastFloat :
    (float leastFloat).number? = some leastNumber ∧
      (int Int64.minValue).number? = some leastNumber ∧
      ∃ converted, (float leastFloat).coerce .int = .ok converted ∧ converted.kind = .int ∧
        converted.number? = some leastNumber := by
  have denotes : (float leastFloat).number? = some leastNumber := by decide +kernel
  have same : (int Int64.minValue).number? = some leastNumber := by decide +kernel
  exact ⟨denotes, same, (coerce_number (.inl rfl) denotes).1 ⟨_, rfl, same⟩⟩

/-- The float past all integers becomes the largest one, and an integer of 54 significant bits the
float below it. -/
theorem exists_coerce_number_ne :
    (∃ x n, x.isFinite = true ∧ (float x).coerce .int = .ok (int n) ∧
      (int n).number? ≠ (float x).number?) ∧
    ∃ n x, (int n).coerce .float = .ok (float x) ∧ (float x).number? ≠ (int n).number? := by
  have coerced := coerce_float_int ⟨0x43E0000000000000⟩
  rw [if_pos (by decide +kernel)] at coerced
  refine ⟨⟨⟨0x43E0000000000000⟩, _, by decide, coerced, by decide +kernel⟩, ?_⟩
  exact ⟨9007199254740993, _, rfl, by decide +kernel⟩

end Value

end MappedSql
