import SelectionAlgebra.Edit

/-!
Arrays of tuples: flat data read in groups of a fixed number of components, with or without a name.
-/

namespace SelectionAlgebra

structure TupleArray where
  name : Option String := none
  components : Nat := 1
  data : Data
deriving DecidableEq, BEq, Inhabited

namespace TupleArray

def ofTuples (data : Data) (components : Nat) (name : Option String) :
    Except SelectionError TupleArray :=
  if components = 0 then .error (.mismatch .noComponents)
  else if data.size % components ≠ 0 then .error (.mismatch (.notTuples data.size components))
  else .ok { name, components, data }

def ofValues (data : Data) (name : Option String) : TupleArray :=
  { name, components := 1, data }

def ofIds (ids : List Int64) : TupleArray :=
  ofValues (.ids ids) none

def elementType (array : TupleArray) : ElementType :=
  array.data.elementType

/-- Number of whole tuples. Without components it is zero, since division is total. `ofTuples` makes
no such array, but one can be read from JSON, and a division by zero stops the count there: what is
proved of arrays without components is about this zero only. -/
def tupleCount (array : TupleArray) : Nat :=
  array.data.size / array.components

def conflict? (array other : TupleArray) : Option Mismatch :=
  if array.elementType ≠ other.elementType then
    some (.elementTypes array.elementType other.elementType)
  else if array.components ≠ other.components then
    some (.componentCounts array.components other.components)
  else none

/-- Take in the other array: single values only where they are new, tuples always. -/
def absorb (array other : TupleArray) : TupleArray :=
  { array with data :=
      if array.components = 1 then array.data.unite other.data
      else array.data.append other.data }

def takeIn (array other : TupleArray) : Except SelectionError Unit × TupleArray :=
  match array.conflict? other with
  | some reason => (.error (.mismatch reason), array)
  | none => (.ok (), array.absorb other)

def display (array : TupleArray) : String :=
  s!"{nameOrUnnamed array.name} [{array.tupleCount} x {array.components}]:"
    ++ String.join (array.data.texts.map (" " ++ ·))

end TupleArray

end SelectionAlgebra
