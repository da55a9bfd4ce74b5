import SelectionAlgebra.Double.Shortest

/-!
How a double is written out: its shortest digits, laid out by the rules of one format.
-/

namespace SelectionAlgebra.Double

structure Layout where
  /-- Places of the first digit that are written without an exponent; none means all. -/
  plain : Option (Int × Int)
  /-- What follows the digits of a whole number in plain notation. -/
  whole : List Char
  tie : Tie
  nan : List Char

def Layout.display : Layout := ⟨none, [], .up, ['N', 'a', 'N']⟩

/-- In settings files numbers are plain and always show a point. -/
def Layout.settings : Layout := ⟨none, ['.', '0'], .up, ['n', 'a', 'n']⟩

/-- In JSON numbers always show a point or an exponent. They are plain when their first digit stands
within sixteen places before the point or five after it. -/
def Layout.json : Layout := ⟨some (-5, 15), ['.', '0'], .even, ['n', 'u', 'l', 'l']⟩

def zeros (count : Nat) : List Char :=
  List.replicate count '0'

def Digits.positional (whole : List Char) (d : Digits) : List Char :=
  if d.place < 0 then '0' :: '.' :: zeros (-d.place - 1).toNat ++ d.digits
  else
    let before := d.place.toNat + 1
    if d.digits.length ≤ before then d.digits ++ zeros (before - d.digits.length) ++ whole
    else d.digits.take before ++ '.' :: d.digits.drop before

def Digits.scientific (d : Digits) : List Char :=
  let mantissa := match d.digits with
    | first :: second :: rest => first :: '.' :: second :: rest
    | digits => digits
  let sign := if d.place < 0 then '-' else '+'
  mantissa ++ 'e' :: sign :: Nat.toDigits 10 d.place.natAbs

def Layout.isPlain (layout : Layout) (place : Int) : Bool :=
  match layout.plain with
  | none => true
  | some (least, greatest) => decide (least ≤ place) && decide (place ≤ greatest)

def unsigned (layout : Layout) (x : Double) : List Char :=
  if x.isZero then '0' :: layout.whole
  else if x.isFinite then
    let d := x.shortest layout.tie
    if layout.isPlain d.place then d.positional layout.whole else d.scientific
  else ['i', 'n', 'f']

def text (layout : Layout) (x : Double) : List Char :=
  if x.isNaN then layout.nan
  else if x.negative then '-' :: x.unsigned layout
  else x.unsigned layout

def display (x : Double) : String :=
  String.ofList (x.text .display)

end SelectionAlgebra.Double
