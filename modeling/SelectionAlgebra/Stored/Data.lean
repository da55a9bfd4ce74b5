import SelectionAlgebra.Json.Reader
import SelectionAlgebra.Json.Value
import SelectionAlgebra.TupleArray

/-!
The stored form of data and arrays.
-/

namespace SelectionAlgebra

open Json

def Json.Value.tagged (name : String) (value : Value) : Value :=
  .object [(name, value)]

def Json.Value.strings (texts : List String) : Value :=
  .array (texts.map .string)

namespace Data

def stored : Data → Value
  | ids values => .tagged "Id" (.array (values.map fun v => .int v.toInt))
  | ints values => .tagged "Int" (.array (values.map fun v => .int v.toInt))
  | doubles values => .tagged "Double" (.array (values.map .double))
  | strings values => .tagged "String" (.strings values)

def readAs {α : Type} (wrap : List α → Data) (read : Reader α) : Reader Data := fun cs =>
  (readList read cs).map fun (values, rest) => (wrap values, rest)

def read : Reader Data :=
  readVariant (fun _ => none) fun name =>
    match name with
    | "Id" => some (readAs ids readInt64)
    | "Int" => some (readAs ints readInt32)
    | "Double" => some (readAs doubles readDouble)
    | "String" => some (readAs strings readString)
    | _ => none

end Data

namespace TupleArray

def stored (array : TupleArray) : Value :=
  .object [("name", match array.name with
      | some name => .string name
      | none => .null),
    ("components", .int array.components), ("data", array.data.stored)]

structure Draft where
  name : Option (Option String) := none
  components : Option Nat := none
  data : Option Data := none

def Draft.complete (draft : Draft) : Option TupleArray := do
  let components ← draft.components
  let data ← draft.data
  return { name := draft.name.getD none, components, data }

def fields : List (RecordField Draft) :=
  [.of "name" (readOption readString) Draft.name fun draft name => { draft with name := some name },
    .of "components" readSize Draft.components fun draft components => { draft with components },
    .of "data" Data.read Draft.data fun draft data => { draft with data }]

/-- Any number of components is read, whether or not the data divides into them. -/
def read : Reader TupleArray :=
  readRecord fields {} Draft.complete

end TupleArray

end SelectionAlgebra
