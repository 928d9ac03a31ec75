namespace MappedSql

structure Binary64 where
  bits : UInt64
  deriving DecidableEq

namespace Binary64

def isNegative (x : Binary64) : Bool :=
  Nat.pow 2 63 ≤ x.bits.toNat

def exponentField (x : Binary64) : Nat :=
  x.bits.toNat / Nat.pow 2 52 % Nat.pow 2 11

def fractionField (x : Binary64) : Nat :=
  x.bits.toNat % Nat.pow 2 52

def isFinite (x : Binary64) : Bool :=
  x.exponentField != 2047

def isNaN (x : Binary64) : Bool :=
  x.exponentField == 2047 && x.fractionField != 0

def significand (x : Binary64) : Nat :=
  if x.exponentField = 0 then x.fractionField else x.fractionField + Nat.pow 2 52

def unitExponent (x : Binary64) : Nat :=
  x.exponentField - 1

def magnitude (x : Binary64) : Nat :=
  x.significand * Nat.pow 2 x.unitExponent

def isZero (x : Binary64) : Bool :=
  x.exponentField == 0 && x.fractionField == 0

def scaled (x : Binary64) : Int :=
  if x.isNegative then -(x.magnitude : Int) else x.magnitude

def pack (negative : Bool) (body : Nat) : Binary64 :=
  ⟨UInt64.ofNat ((if negative then Nat.pow 2 63 else 0) + body)⟩

def infinityBody : Nat := 2047 * Nat.pow 2 52

def zero : Binary64 := pack false 0

def infinity (negative : Bool) : Binary64 := pack negative infinityBody

def nan : Binary64 := pack false (infinityBody + Nat.pow 2 51)

def roundQuotient (num den : Nat) : Nat :=
  let quotient := num / den
  let twice := 2 * (num % den)
  if twice < den then quotient
  else if den < twice then quotient + 1
  else if quotient % 2 = 0 then quotient else quotient + 1

/-- Encodes a significand of at most `2 ^ 53`; a number past the largest becomes infinite. -/
def encodeBody (significand unitExponent : Nat) : Nat :=
  if significand < Nat.pow 2 52 then significand
  else min (unitExponent * Nat.pow 2 52 + significand) infinityBody

def ofRatio (negative : Bool) (num den : Nat) : Binary64 :=
  let unitExponent := Nat.log2 (num / den) - 52
  pack negative (encodeBody (roundQuotient num (den * Nat.pow 2 unitExponent)) unitExponent)

def ofDecimal (negative : Bool) (digits : Nat) (exponent : Int) : Binary64 :=
  if digits = 0 then pack negative 0
  else if 310 < exponent then infinity negative
  else if exponent + (Nat.log2 digits + 1 : Nat) < -330 then pack negative 0
  else if 0 ≤ exponent then
    ofRatio negative (digits * Nat.pow 10 exponent.toNat * Nat.pow 2 1074) 1
  else ofRatio negative (digits * Nat.pow 2 1074) (Nat.pow 10 (-exponent).toNat)

def ofInt (n : Int) : Binary64 :=
  ofRatio (n < 0) (n.natAbs * Nat.pow 2 1074) 1

def numEq (x y : Binary64) : Bool :=
  !x.isNaN && !y.isNaN && (x.bits == y.bits || (x.isZero && y.isZero))

def key (x : Binary64) : Int :=
  let body := (x.bits.toNat % Nat.pow 2 63 : Nat)
  if x.isNegative then -(body : Int) else body

def compare? (x y : Binary64) : Option Ordering :=
  if x.isNaN || y.isNaN then none else some (compare x.key y.key)

def same (x y : Binary64) : Bool :=
  x.numEq y || x.bits == y.bits

def neg (x : Binary64) : Binary64 :=
  pack (!x.isNegative) (x.bits.toNat % Nat.pow 2 63)

def add (x y : Binary64) : Binary64 :=
  if x.isNaN || y.isNaN then nan
  else if !x.isFinite then
    if !y.isFinite && x.isNegative != y.isNegative then nan else x
  else if !y.isFinite then y
  else
    let sum := x.scaled + y.scaled
    if sum = 0 then pack (x.isNegative && y.isNegative) 0
    else ofRatio (sum < 0) sum.natAbs 1

def sub (x y : Binary64) : Binary64 :=
  x.add y.neg

def divideBy (x : Binary64) (divisor : Binary64) : Binary64 :=
  ofRatio x.isNegative (x.magnitude * Nat.pow 2 1074) divisor.magnitude

def times (x y : Binary64) : Binary64 :=
  ofRatio (x.isNegative != y.isNegative) (x.magnitude * y.magnitude) (Nat.pow 2 1074)

def isWhole (x : Binary64) : Bool :=
  x.isFinite && x.magnitude % Nat.pow 2 1074 == 0

def truncated (x : Binary64) : Int :=
  let size : Nat := x.magnitude / Nat.pow 2 1074
  if x.isNegative then -(size : Int) else size

end Binary64

end MappedSql
