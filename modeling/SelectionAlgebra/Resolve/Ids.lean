import SelectionAlgebra.Dataset
import SelectionAlgebra.Node.Basic

/-!
Nodes that name entities one by one: by position, by id, or by the values of arrays. Each reading
yields a test on entities.
-/

namespace SelectionAlgebra

abbrev EntityTest := Nat → Bool

def EntityTest.any (tests : List EntityTest) : EntityTest :=
  fun i => tests.any fun test => test i

/-- The values of an array as ids; none unless it holds ids or integers. -/
def Data.listedIds : Data → List Int64
  | .ids values => values
  | .ints values => values.map Int32.toInt64
  | .doubles _ | .strings _ => []

namespace Node

def listedIds (node : Node) : List Int64 :=
  node.arrays.flatMap fun array => array.data.listedIds

def indexTest (node : Node) : EntityTest :=
  let ids := node.listedIds
  fun i => ids.any fun id => id.toInt == (i : Int)

def globalIdTest (node : Node) (dataset : Dataset) : Except SelectionError EntityTest :=
  (required node.entity Dataset.globalIdsName (dataset.globalIds? node.entity)).map fun present =>
    let ids := node.listedIds
    fun i =>
      match present.data.idAt? (i * present.components) with
      | some id => ids.contains id
      | none => false

def valueTest (wanted present : TupleArray) (component : Nat) :
    Except SelectionError EntityTest :=
  if wanted.elementType ≠ present.elementType then
    .error (.mismatch (.unmatchable wanted.elementType present.elementType present.name))
  else if present.components ≤ component then
    .error (.mismatch (.noSuchComponent present.name present.components component))
  else
    let keys := (List.range wanted.data.size).filterMap wanted.data.keyAt?
    .ok fun i =>
      match present.data.keyAt? (i * present.components + component) with
      | some key => keys.contains key
      | none => false

def pedigreeTest (node : Node) (dataset : Dataset) : Except SelectionError EntityTest := do
  let present ← required node.entity Dataset.pedigreeIdsName (dataset.pedigreeIds? node.entity)
  let tests ← node.arrays.mapM fun wanted => valueTest wanted present 0
  return .any tests

def component (node : Node) : Except SelectionError Nat :=
  let number := node.properties.componentNumber?.getD 0
  if number < 0 then .error (.mismatch (.negativeComponent number))
  else .ok number.toInt.toNat

def requiredName (array : TupleArray) : Except SelectionError String :=
  match array.name with
  | some name => .ok name
  | none => .error (.mismatch .unnamedValues)

def namedArrayTest (entity : Entity) (dataset : Dataset) (component : Nat)
    (wanted : TupleArray) : Except SelectionError EntityTest := do
  let name ← requiredName wanted
  let present ← required entity name (dataset.array? entity name)
  valueTest wanted present component

def componentTest
    (arrayTest : Entity → Dataset → Nat → TupleArray → Except SelectionError EntityTest)
    (node : Node) (dataset : Dataset) : Except SelectionError EntityTest := do
  let component ← node.component
  let tests ← node.arrays.mapM (arrayTest node.entity dataset component)
  return .any tests

def namedValueTest : Node → Dataset → Except SelectionError EntityTest :=
  componentTest namedArrayTest

end Node

end SelectionAlgebra
