import Mathlib.Algebra.Ring.Int.Defs
import MappedSql.Number.Reading

namespace MappedSql.Number

theorem isDigit_of_mem_toDigits {n : Nat} {c : Char} (mem : c ∈ Nat.toDigits 10 n) : c.isDigit :=
  Nat.isDigit_of_mem_toDigits (by decide) (by decide) mem

theorem readDigits?_toDigits (n : Nat) : readDigits? (Nat.toDigits 10 n) = some n := by
  have digits : (Nat.toDigits 10 n).all Char.isDigit = true :=
    List.all_eq_true.2 fun c mem => isDigit_of_mem_toDigits mem
  have value : digitsValue (Nat.toDigits 10 n) = n :=
    Nat.ofDigitChars_toDigits (by decide) (by decide)
  rw [readDigits?, digits, value]
  simp [Nat.toDigits_ne_nil]

theorem ne_of_isDigit {c d : Char} (digit : c.isDigit) (other : d.isDigit = false) : c ≠ d := by
  rintro rfl
  rw [digit] at other
  contradiction

theorem readInteger?_toDigits (n : Nat) : readInteger? (Nat.toDigits 10 n) = some (n : Int) := by
  have signless : ∀ c rest, Nat.toDigits 10 n = c :: rest → c.isDigit := fun c rest eq =>
    isDigit_of_mem_toDigits (eq ▸ List.mem_cons_self)
  unfold readInteger?
  split
  · next rest eq => exact absurd rfl (ne_of_isDigit (signless '-' rest eq) (by decide))
  · next rest eq => exact absurd rfl (ne_of_isDigit (signless '+' rest eq) (by decide))
  · rw [readDigits?_toDigits]
    rfl

theorem fitsInt64_iff {n : Int} : fitsInt64 n = true ↔ -2 ^ 63 ≤ n ∧ n < 2 ^ 63 := by
  have bound : ((Nat.pow 2 63 : Nat) : Int) = 2 ^ 63 := rfl
  simp only [fitsInt64, Bool.and_eq_true, decide_eq_true_eq, bound]

theorem readInt64?_toDigits {value : Int64} (positive : 0 ≤ value.toInt) :
    readInt64? (Nat.toDigits 10 value.toInt.toNat) = some value := by
  have fits : fitsInt64 value.toInt = true := fitsInt64_iff.2 ⟨value.le_toInt, value.toInt_lt⟩
  rw [readInt64?, readInteger?_toDigits, Option.bind_some, Int.toNat_of_nonneg positive,
    int64?, if_pos fits, Int64.ofInt_toInt]

theorem readIndex?_toDigits {n : Nat} (fits : n < Nat.pow 2 64) :
    readIndex? (Nat.toDigits 10 n) = some n := by
  have bounded : (some n).filter (· < Nat.pow 2 64) = some n :=
    Option.filter_eq_some_iff.2 ⟨rfl, decide_eq_true fits⟩
  unfold readIndex?
  dsimp only
  split
  · next rest eq =>
      have digit := isDigit_of_mem_toDigits (eq ▸ List.mem_cons_self)
      exact absurd rfl (ne_of_isDigit digit (by decide))
  · rw [readDigits?_toDigits, bounded]

end MappedSql.Number
