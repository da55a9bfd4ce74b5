/-!
Tables of code point ranges, the form in which character classes are kept.
-/

namespace SelectionAlgebra.Text

abbrev CodeRange := Nat × Nat

def CodeRange.contains (range : CodeRange) (code : Nat) : Bool :=
  decide (range.1 ≤ code) && decide (code ≤ range.2)

def inTable (table : List CodeRange) (c : Char) : Bool :=
  table.any fun range => CodeRange.contains range c.toNat

end SelectionAlgebra.Text
