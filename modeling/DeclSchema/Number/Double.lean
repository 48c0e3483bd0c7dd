/-!
Double-precision numbers as 64-bit words, and the rounding of exact fractions to them. All
arithmetic is on natural numbers: the fraction is scaled to the last place of the result and
rounded to nearest, a half to the even neighbour.
-/

namespace DeclSchema.Number

structure Double where
  bits : UInt64
deriving DecidableEq, Inhabited

namespace Double

def isNegative (x : Double) : Bool := x.bits.toNat / Nat.pow 2 63 = 1
def exponentField (x : Double) : Nat := x.bits.toNat / Nat.pow 2 52 % Nat.pow 2 11
def fractionField (x : Double) : Nat := x.bits.toNat % Nat.pow 2 52

def isFinite (x : Double) : Bool := x.exponentField < 2047
def isNaN (x : Double) : Bool := x.exponentField = 2047 && x.fractionField != 0

-- A finite value is `significand * 2 ^ power`, up to its sign.
def significand (x : Double) : Nat :=
  if x.exponentField = 0 then x.fractionField else Nat.pow 2 52 + x.fractionField
def power (x : Double) : Int :=
  if x.exponentField = 0 then -1074 else (x.exponentField : Int) - 1075

def ofFields (negative : Bool) (exponent fraction : Nat) : Double :=
  ⟨((if negative then Nat.pow 2 63 else 0) + exponent * Nat.pow 2 52 + fraction).toUInt64⟩

def zero (negative : Bool) : Double := ofFields negative 0 0
def infinity (negative : Bool) : Double := ofFields negative 2047 0
def nan (negative : Bool) : Double := ofFields negative 2047 (Nat.pow 2 51)

end Double

-- The quotient, rounded to nearest; a half goes to the even neighbour.
def roundDiv (num den : Nat) : Nat :=
  let q := num / den
  let twice := 2 * (num % den)
  if twice < den then q
  else if twice > den then q + 1
  else if q % 2 = 0 then q else q + 1

-- The power of two that a positive fraction reaches but does not double.
def binaryOrder (num den : Nat) : Int :=
  let k : Int := (num.log2 : Int) - den.log2
  if den * Nat.pow 2 k.toNat ≤ num * Nat.pow 2 (-k).toNat then k else k - 1

-- The double nearest to a positive fraction.
def Double.ofRatio (negative : Bool) (num den : Nat) : Double :=
  let power := max (binaryOrder num den - 52) (-1074)
  let rounded := roundDiv (num * Nat.pow 2 (-power).toNat) (den * Nat.pow 2 power.toNat)
  let (significand, power) :=
    if rounded = Nat.pow 2 53 then (Nat.pow 2 52, power + 1) else (rounded, power)
  if significand < Nat.pow 2 52 then .ofFields negative 0 significand
  else if power > 971 then .infinity negative
  else .ofFields negative (power + 1075).toNat (significand - Nat.pow 2 52)

-- The double nearest to `digits * 10 ^ exponent`. Numbers far outside of the range are settled
-- by their order of magnitude alone, so no large power is computed for them.
def Double.ofDecimal (negative : Bool) (digits : Nat) (exponent : Int) : Double :=
  let order := exponent + (Nat.toDigits 10 digits).length
  if digits = 0 || order < -400 then .zero negative
  else if order > 400 then .infinity negative
  else .ofRatio negative (digits * Nat.pow 10 exponent.toNat) (Nat.pow 10 (-exponent).toNat)

end DeclSchema.Number
