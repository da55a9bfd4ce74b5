import SelectionAlgebra.Double.Layout
import SelectionAlgebra.Text.Quoted

/-!
Flat lists of values of one element type.
-/

namespace SelectionAlgebra

inductive ElementType where
  | id
  | int
  | double
  | string
deriving DecidableEq

def ElementType.name : ElementType → String
  | id => "id"
  | int => "int"
  | double => "double"
  | string => "string"

inductive Data where
  | ids (values : List Int64)
  | ints (values : List Int32)
  | doubles (values : List Double)
  | strings (values : List String)
deriving DecidableEq, BEq, Inhabited

/-- What values are matched by. Keys of different element types never agree; among doubles, the two
zeros share a key and otherwise the bits decide. -/
inductive Key where
  | id (value : Int64)
  | int (value : Int32)
  | double (value : Double)
  | text (value : String)
deriving DecidableEq

def Double.key (x : Double) : Key :=
  .double (if x.isZero then zero else x)

/-- The listed tuples one after the other; one that does not lie wholly inside is left out. -/
def gatherTuples {α : Type} (values : List α) (components : Nat) (tuples : List Nat) : List α :=
  tuples.flatMap fun t =>
    if (t + 1) * components ≤ values.length then (values.drop (t * components)).take components
    else []

def appendMissing {α : Type} [BEq α] (values added : List α) : List α :=
  added.foldl (fun values v => if values.contains v then values else values ++ [v]) values

namespace Data

def elementType : Data → ElementType
  | ids _ => .id
  | ints _ => .int
  | doubles _ => .double
  | strings _ => .string

def empty : ElementType → Data
  | .id => ids []
  | .int => ints []
  | .double => doubles []
  | .string => strings []

def size : Data → Nat
  | ids values => values.length
  | ints values => values.length
  | doubles values => values.length
  | strings values => values.length

def ids? : Data → Option (List Int64)
  | ids values => some values
  | _ => none

/-- The value at a position as an id; integers count as ids. -/
def idAt? (data : Data) (i : Nat) : Option Int64 :=
  match data with
  | ids values => values[i]?
  | ints values => values[i]?.map Int32.toInt64
  | doubles _ | strings _ => none

/-- The value at a position as a double; ids and integers are rounded to the nearest one. -/
def doubleAt? (data : Data) (i : Nat) : Option Double :=
  match data with
  | ids values => values[i]?.map fun v => .ofInt v.toInt
  | ints values => values[i]?.map fun v => .ofInt v.toInt
  | doubles values => values[i]?
  | strings _ => none

def keyAt? (data : Data) (i : Nat) : Option Key :=
  match data with
  | ids values => values[i]?.map .id
  | ints values => values[i]?.map .int
  | doubles values => values[i]?.map Double.key
  | strings values => values[i]?.map .text

/-- The place of a tuple is an exact product, here and in the tests of entities (`globalIdTest`,
`valueTest`, `rangeTest`). In words of 64 bits such a product may overflow, which stops or wraps,
and the room that is reserved for the result may be refused. This model has neither limit. -/
def gather (data : Data) (components : Nat) (tuples : List Nat) : Data :=
  match data with
  | ids values => ids (gatherTuples values components tuples)
  | ints values => ints (gatherTuples values components tuples)
  | doubles values => doubles (gatherTuples values components tuples)
  | strings values => strings (gatherTuples values components tuples)

/-- Join two lists of one element type by a rule; a list of another type is passed over. -/
def joinWith (join : {α : Type} → [BEq α] → List α → List α → List α) (data added : Data) : Data :=
  match data, added with
  | ids values, ids more => ids (join values more)
  | ints values, ints more => ints (join values more)
  | doubles values, doubles more => doubles (join values more)
  | strings values, strings more => strings (join values more)
  | data, _ => data

def unite (data added : Data) : Data :=
  data.joinWith appendMissing added

def append (data added : Data) : Data :=
  data.joinWith (fun values more => values ++ more) added

def texts : Data → List String
  | ids values => values.map fun v => toString v.toInt
  | ints values => values.map fun v => toString v.toInt
  | doubles values => values.map Double.display
  | strings values => values.map Text.quoted

end Data

end SelectionAlgebra
