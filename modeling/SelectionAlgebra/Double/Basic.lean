/-!
Double precision numbers as their 64 bits: a sign, eleven bits of exponent, fifty-two of fraction.
Order and equality are read off an integer rank, so that they can be reasoned about without a
machine number. Equality `==` is that of numbers (the two zeros agree, NaN differs from itself);
`=` tells any two bit patterns apart.
-/

namespace SelectionAlgebra

structure Double where
  bits : UInt64
deriving DecidableEq, Inhabited

namespace Double

def signWeight : Nat := 0x8000000000000000

def magnitude (x : Double) : Nat :=
  x.bits.toNat % signWeight

def negative (x : Double) : Bool :=
  decide (signWeight ≤ x.bits.toNat)

def ofMagnitude (negative : Bool) (magnitude : Nat) : Double :=
  ⟨UInt64.ofNat ((if negative then signWeight else 0) + magnitude)⟩

/-- Weight of the last bit of the exponent. In a significand it is that of the leading bit, which
the fraction leaves out. -/
def leadingWeight : Nat := 0x10000000000000

/-- The magnitude of infinity; those above it belong to NaN. -/
def infinite : Nat := 2047 * leadingWeight

def isNaN (x : Double) : Bool :=
  decide (infinite < x.magnitude)

def isFinite (x : Double) : Bool :=
  decide (x.magnitude < infinite)

def isZero (x : Double) : Bool :=
  decide (x.magnitude = 0)

def zero : Double := ofMagnitude false 0

def infinity : Double := ofMagnitude false infinite

/-- The NaN that stands for an invalid operation: quiet and negative. -/
def indefinite : Double := ofMagnitude true (infinite + leadingWeight / 2)

/-- Position on the number line, in steps of one bit pattern; both zeros are at the origin. -/
def rank (x : Double) : Int :=
  if x.negative then -(x.magnitude : Int) else x.magnitude

/-- Position in the total order of all bit patterns: negative zero lies below zero, and each NaN
beyond the infinity of its sign. -/
def totalRank (x : Double) : Int :=
  if x.negative then -(x.magnitude : Int) - 1 else x.magnitude

instance : BEq Double where
  beq x y := !x.isNaN && !y.isNaN && decide (x.rank = y.rank)

def le (x y : Double) : Bool :=
  !x.isNaN && !y.isNaN && decide (x.rank ≤ y.rank)

def lt (x y : Double) : Bool :=
  !x.isNaN && !y.isNaN && decide (x.rank < y.rank)

/-- The whole number whose multiple by `2 ^ exponent` a finite double is, up to its sign. -/
def significand (x : Double) : Nat :=
  if x.magnitude < leadingWeight then x.magnitude
  else leadingWeight + x.magnitude % leadingWeight

def exponent (x : Double) : Int :=
  (max (x.magnitude / leadingWeight) 1 : Nat) - 1075

/-- The quotient rounded to a whole number, a half to the even neighbour. -/
def roundHalfEven (num den : Nat) : Nat :=
  let q := num / den
  let r := num % den
  if 2 * r < den then q else if den < 2 * r then q + 1 else q + q % 2

/-- The greatest `e` with `2 ^ e ≤ num / den`, for positive arguments. -/
def binaryPlace (num den : Nat) : Int :=
  let guess : Int := (num.log2 : Int) - den.log2
  if den * Nat.pow 2 guess.toNat ≤ num * Nat.pow 2 (-guess).toNat then guess else guess - 1

/-- Magnitude of the double nearest to a quotient; of two equally near, the even one. Beyond the
greatest finite double this is infinity. -/
def nearestMagnitude (num den : Nat) : Nat :=
  if num = 0 then 0
  else
    let e := max (binaryPlace num den - 52) (-1074)
    let q := roundHalfEven (num * Nat.pow 2 (-e).toNat) (den * Nat.pow 2 e.toNat)
    min ((e + 1074).toNat * leadingWeight + q) infinite

def ofRatio (negative : Bool) (num den : Nat) : Double :=
  ofMagnitude negative (nearestMagnitude num den)

def ofScaled (negative : Bool) (m : Nat) (e : Int) : Double :=
  ofRatio negative (m * Nat.pow 2 e.toNat) (Nat.pow 2 (-e).toNat)

def ofInt (n : Int) : Double :=
  ofRatio (decide (n < 0)) n.natAbs 1

end Double

end SelectionAlgebra
