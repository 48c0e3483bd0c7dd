import DeclSchema.Number.Double

/-!
The shortest decimal of a double: the fewest digits that read back, the nearest such decimal when
there are two, and the even one when both are as near. It is written positionally from 10^-4 up to 10^16 and with a signed exponent of at
least two digits otherwise.
-/

namespace DeclSchema.Number

-- A positive decimal `digits * 10 ^ exponent`.
structure Decimal where
  digits : Nat
  exponent : Int

namespace Double

def magnitude (x : Double) : Nat × Nat :=
  (x.significand * Nat.pow 2 x.power.toNat, Nat.pow 2 (-x.power).toNat)

-- The least k with `value < 10 ^ k`, searched upwards from an estimate that is never too large.
def decimalOrder (num den : Nat) : Int :=
  let start := (binaryOrder num den * 30103 / 100000) - 1
  let exceeds (k : Int) : Bool := num * Nat.pow 10 (-k).toNat < den * Nat.pow 10 k.toNat
  if exceeds start then start
  else if exceeds (start + 1) then start + 1
  else if exceeds (start + 2) then start + 2
  else start + 3

def readsBack (x : Double) (d : Decimal) : Bool :=
  d.digits > 0 && (Double.ofDecimal x.isNegative d.digits d.exponent).bits = x.bits

-- The neighbours of the value on the grid of `size` digits, if they read back.
def candidate (x : Double) (order : Int) (size : Nat) : Option Decimal :=
  let (num, den) := x.magnitude
  let exponent := order - size
  let scaledNum := num * Nat.pow 10 (-exponent).toNat
  let scaledDen := den * Nat.pow 10 exponent.toNat
  let below : Decimal := ⟨scaledNum / scaledDen, exponent⟩
  let above : Decimal := ⟨scaledNum / scaledDen + 1, exponent⟩
  let twice := 2 * (scaledNum % scaledDen)
  let takeBelow := twice < scaledDen || (twice = scaledDen && below.digits % 2 = 0)
  match x.readsBack below, x.readsBack above with
  | true, true => some (if takeBelow then below else above)
  | true, false => some below
  | false, true => some above
  | false, false => none

def shortest (x : Double) : Decimal :=
  let (num, den) := x.magnitude
  let order := decimalOrder num den
  let sizes := List.range 17
  (sizes.findSome? fun n => candidate x order (n + 1)).getD
    ⟨x.significand * Nat.pow 2 x.power.toNat * Nat.pow 5 (-x.power).toNat, min x.power 0⟩

end Double

def stripZeros : Nat → Decimal → Decimal
  | 0, d => d
  | fuel + 1, d =>
    if d.digits % 10 = 0 && d.digits > 0 then stripZeros fuel ⟨d.digits / 10, d.exponent + 1⟩
    else d

def decimalText (n : Nat) : List Char := Nat.toDigits 10 n

-- Digits and the place of the point, counted from the front of the digits.
def layout (digits : List Char) (point : Int) : List Char :=
  if point ≤ -4 || point > 16 then
    let shown := match digits with
      | [] => []
      | [d] => [d]
      | d :: more => d :: '.' :: more
    let scale := point - 1
    let size := decimalText scale.natAbs
    shown ++ ['e', if scale < 0 then '-' else '+'] ++
      (if size.length < 2 then '0' :: size else size)
  else if point ≤ 0 then ['0', '.'] ++ List.replicate (-point).toNat '0' ++ digits
  else
    let whole := point.toNat
    if digits.length ≤ whole then
      digits ++ List.replicate (whole - digits.length) '0' ++ ['.', '0']
    else digits.take whole ++ '.' :: digits.drop whole

def Double.display (x : Double) : String :=
  let sign := if x.isNegative then ['-'] else []
  if x.isNaN then "nan"
  else if !x.isFinite then String.ofList (sign ++ "inf".toList)
  else if x.significand = 0 then String.ofList (sign ++ "0.0".toList)
  else
    let d := stripZeros 20 x.shortest
    let digits := decimalText d.digits
    String.ofList (sign ++ layout digits (d.exponent + digits.length))

end DeclSchema.Number
