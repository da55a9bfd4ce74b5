import SelectionAlgebra.Double.Basic

/-!
Arithmetic on doubles: the exact result, rounded once. An operand that is NaN passes through, and an
operation without a meaning gives the indefinite NaN.
-/

namespace SelectionAlgebra.Double

def neg (x : Double) : Double :=
  ofMagnitude (!x.negative) x.magnitude

def abs (x : Double) : Double :=
  ofMagnitude false x.magnitude

def signedSignificand (x : Double) : Int :=
  if x.negative then -(x.significand : Int) else x.significand

def addFinite (x y : Double) : Double :=
  let e := min x.exponent y.exponent
  let sum := x.signedSignificand * Nat.pow 2 (x.exponent - e).toNat
    + y.signedSignificand * Nat.pow 2 (y.exponent - e).toNat
  if sum = 0 then ofMagnitude (x.negative && y.negative) 0
  else ofScaled (decide (sum < 0)) sum.natAbs e

def add (x y : Double) : Double :=
  if x.isNaN then x
  else if y.isNaN then y
  else if x.isFinite && y.isFinite then addFinite x y
  else if x.isFinite then y
  else if y.isFinite || x.negative == y.negative then x
  else indefinite

def sub (x y : Double) : Double :=
  if x.isNaN then x else if y.isNaN then y else add x y.neg

def mul (x y : Double) : Double :=
  let sign := x.negative != y.negative
  if x.isNaN then x
  else if y.isNaN then y
  else if x.isFinite && y.isFinite then
    ofScaled sign (x.significand * y.significand) (x.exponent + y.exponent)
  else if x.isZero || y.isZero then indefinite
  else ofMagnitude sign infinite

def div (x y : Double) : Double :=
  let sign := x.negative != y.negative
  if x.isNaN then x
  else if y.isNaN then y
  else if x.isFinite && y.isFinite then
    if y.isZero then if x.isZero then indefinite else ofMagnitude sign infinite
    else
      let e := x.exponent - y.exponent
      ofRatio sign (x.significand * Nat.pow 2 e.toNat) (y.significand * Nat.pow 2 (-e).toNat)
  else if x.isFinite then ofMagnitude sign 0
  else if y.isFinite then ofMagnitude sign infinite
  else indefinite

/-- Greatest whole number whose square is at most `n`. Each step adds the last bit of the root, and
as many steps are taken as the root may have bits. -/
def rootFloor (n : Nat) : Nat → Nat
  | 0 => 0
  | bits + 1 =>
    let high := 2 * rootFloor (n / 4) bits
    if (high + 1) * (high + 1) ≤ n then high + 1 else high

/-- Square root of a finite positive double. The significand is widened until its root has more
bits than a double, and a last bit records whether the root is exact. -/
def sqrtFinite (x : Double) : Double :=
  let half := (x.exponent - 128) / 2
  let wide := x.significand * Nat.pow 2 (x.exponent - 2 * half).toNat
  let root := rootFloor wide 96
  ofScaled false (2 * root + if root * root = wide then 0 else 1) (half - 1)

def sqrt (x : Double) : Double :=
  if x.isNaN || x.isZero then x
  else if x.negative then indefinite
  else if x.isFinite then sqrtFinite x
  else x

/-- The greater of two numbers; NaN gives way to the other operand. -/
def max (x y : Double) : Double :=
  if x.isNaN then y else if le y x || y.isNaN then x else y

end SelectionAlgebra.Double
