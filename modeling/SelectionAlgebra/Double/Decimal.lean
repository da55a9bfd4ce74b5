import SelectionAlgebra.Double.Basic

/-!
Doubles from decimal notation, correctly rounded.
-/

namespace SelectionAlgebra.Double

def decimalWidth (n : Nat) : Nat :=
  (Nat.toDigits 10 n).length

/-- The double nearest to `m * 10 ^ e`. Powers far outside the range of doubles are settled without
being computed. -/
def ofDecimal (negative : Bool) (m : Nat) (e : Int) : Double :=
  let place := decimalWidth m + e
  if m = 0 || place < -330 then ofMagnitude negative 0
  else if 310 < place then ofMagnitude negative infinite
  else ofRatio negative (m * Nat.pow 10 e.toNat) (Nat.pow 10 (-e).toNat)

end SelectionAlgebra.Double
