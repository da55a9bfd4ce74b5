import SelectionAlgebra.Geometry.Frustum
import SelectionAlgebra.Resolve.Ids

/-!
Nodes that describe entities by what lies in ranges of values or regions of space.
-/

namespace SelectionAlgebra.Node

def listedRanges (array : TupleArray) : List (Double × Double) :=
  (List.range array.tupleCount).filterMap fun t => do
    let low ← array.data.doubleAt? (2 * t)
    let high ← array.data.doubleAt? (2 * t + 1)
    return (low, high)

def rangeTest (wanted present : TupleArray) (component : Nat) : EntityTest :=
  let ranges := listedRanges wanted
  fun i =>
    match present.data.doubleAt? (i * present.components + component) with
    | some v => ranges.any fun (low, high) => low.le v && v.le high
    | none => false

def thresholdArrayTest (entity : Entity) (dataset : Dataset) (component : Nat)
    (wanted : TupleArray) : Except SelectionError EntityTest := do
  let name ← requiredName wanted
  if wanted.components ≠ 2 || wanted.elementType = .string then
    .error (.mismatch (.notRanges name))
  else
    let present ← required entity name (dataset.array? entity name)
    if present.elementType = .string then
      .error (.mismatch (.thresholdOfStrings name))
    else if present.components ≤ component then
      .error (.mismatch (.noSuchComponent present.name present.components component))
    else
      return rangeTest wanted present component

def thresholdTest : Node → Dataset → Except SelectionError EntityTest :=
  componentTest thresholdArrayTest

def pointAt? (data : Data) (start : Nat) : Option Point := do
  let x ← data.doubleAt? start
  let y ← data.doubleAt? (start + 1)
  let z ← data.doubleAt? (start + 2)
  return ⟨x, y, z⟩

def listedPoints (array : TupleArray) : Except SelectionError (List Point) :=
  if array.components ≠ 3 || array.elementType = .string then .error (.mismatch .notPoints)
  else .ok ((List.range array.tupleCount).filterMap fun t => pointAt? array.data (3 * t))

def near (epsilon : Double) (p q : Point) : Bool :=
  let d := p.sub q
  (d.dot d).le (epsilon.mul epsilon)

/-- The entities near some listed point. Without points nothing is looked up. -/
def locationTest (node : Node) (dataset : Dataset) (standardEpsilon : Double) :
    Except SelectionError EntityTest := do
  let epsilon := node.properties.epsilon?.getD standardEpsilon
  let points := (← node.arrays.mapM listedPoints).flatten
  if points.isEmpty then
    return fun _ => false
  else
    let positions ← required node.entity Dataset.positionsName (dataset.positions? node.entity)
    return fun i =>
      match positions[i]? with
      | some p => points.any (near epsilon p)
      | none => false

/-- One corner of a frustum. A fourth coordinate other than zero divides the others. -/
def cornerAt (array : TupleArray) (t : Nat) : Point :=
  let start := t * array.components
  let coordinate (axis : Nat) := (array.data.doubleAt? (start + axis)).getD .zero
  let weight :=
    if array.components = 4 then
      ((array.data.doubleAt? (start + 3)).filter fun w => !w.isZero).getD (.ofInt 1)
    else .ofInt 1
  Point.map (·.div weight) ⟨coordinate 0, coordinate 1, coordinate 2⟩

def listedCorners (array : TupleArray) : Except SelectionError Frustum.Corners :=
  if array.tupleCount ≠ 8 || (array.components ≠ 3 && array.components ≠ 4)
      || array.elementType = .string then
    .error (.mismatch .notCorners)
  else .ok (Vector.ofFn fun t => cornerAt array t)

def frustumTest (node : Node) (dataset : Dataset) : Except SelectionError EntityTest :=
  match node.arrays with
  | [] => .ok fun _ => false
  | array :: _ => do
    let corners ← listedCorners array
    match Frustum.halfSpaces? corners with
    | none => .error (.mismatch .degenerateFace)
    | some halves =>
      let positions ← required node.entity Dataset.positionsName (dataset.positions? node.entity)
      return fun i =>
        match positions[i]? with
        | some p => Frustum.contains halves p
        | none => false

end SelectionAlgebra.Node
