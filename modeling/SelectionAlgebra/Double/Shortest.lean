import SelectionAlgebra.Double.Basic

/-!
The fewest decimal digits that identify a double: of all decimals that lie nearer to it than to any
other double, one with the fewest digits, and of those the nearest.
-/

namespace SelectionAlgebra.Double

inductive Tie where
  | up
  | even
deriving DecidableEq

/-- A positive decimal: a digit string and the power of ten of its first digit. -/
structure Digits where
  digits : List Char
  place : Int
deriving DecidableEq

def stripZeros (digits : List Char) : List Char :=
  (digits.reverse.dropWhile (· == '0')).reverse

def Digits.ofNat (n : Nat) (e : Int) : Digits :=
  let digits := Nat.toDigits 10 n
  ⟨stripZeros digits, e + digits.length - 1⟩

/-- The reals that round to a positive finite double, as numerators over one common denominator,
with the double itself between the ends. -/
structure Interval where
  low : Nat
  value : Nat
  high : Nat
  den : Nat
  closed : Bool

/-- The lower end lies only half as far away where the spacing of doubles changes. -/
def interval (x : Double) : Interval :=
  let m := x.significand
  let e := x.exponent - 2
  let below := if m = leadingWeight && decide (2 * leadingWeight ≤ x.magnitude) then 1 else 2
  let scale := Nat.pow 2 e.toNat
  ⟨(4 * m - below) * scale, 4 * m * scale, (4 * m + 2) * scale, Nat.pow 2 (-e).toNat,
    m % 2 == 0⟩

def Interval.contains (i : Interval) (n : Nat) (e : Int) : Bool :=
  let num := n * Nat.pow 10 e.toNat * i.den
  let unit := Nat.pow 10 (-e).toNat
  if i.closed then decide (i.low * unit ≤ num) && decide (num ≤ i.high * unit)
  else decide (i.low * unit < num) && decide (num < i.high * unit)

/-- The greatest `p` with `10 ^ p` at most the value. -/
def Interval.decimalPlace (i : Interval) : Int :=
  let guess := binaryPlace i.value i.den * 30103 / 100000
  let reached (p : Int) : Bool :=
    decide (Nat.pow 10 p.toNat * i.den ≤ i.value * Nat.pow 10 (-p).toNat)
  if reached (guess + 1) then guess + 1 else if reached guess then guess else guess - 1

/-- The multiple of `10 ^ e` that lies in the interval and nearest to its value. -/
def Interval.onGrid? (i : Interval) (tie : Tie) (e : Int) : Option Nat :=
  let num := i.value * Nat.pow 10 (-e).toNat
  let den := i.den * Nat.pow 10 e.toNat
  let n := num / den
  let rest := num % den
  let upper := match tie with
    | .up => decide (den ≤ 2 * rest)
    | .even => decide (den < 2 * rest) || (2 * rest == den && n % 2 == 1)
  match i.contains n e, i.contains (n + 1) e with
  | true, true => some (if upper then n + 1 else n)
  | true, false => some n
  | false, true => some (n + 1)
  | false, false => none

/-- Try ever finer grids of powers of ten. Seventeen digits always suffice. -/
def Interval.search (i : Interval) (tie : Tie) (e : Int) : Nat → Digits
  | 0 => .ofNat (i.value / i.den) 0
  | grids + 1 =>
    match i.onGrid? tie e with
    | some n => .ofNat n e
    | none => i.search tie (e - 1) grids

def shortest (tie : Tie) (x : Double) : Digits :=
  let i := x.interval
  i.search tie i.decimalPlace 18

end SelectionAlgebra.Double
