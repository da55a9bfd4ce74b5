import SelectionAlgebra.Resolve.Node

/-!
Conversion: a node is resolved, and the entities that it selects are listed in another way.
-/

namespace SelectionAlgebra.Node

/-- The qualifiers that still hold of a converted node. -/
def carriedProperties (node : Node) : Properties :=
  node.properties.filter fun p =>
    match p with
    | .inverse _ | .epsilon _ | .componentNumber _ => false
    | _ => true

def gatherArray (array : TupleArray) (positions : List Nat) : Except SelectionError TupleArray :=
  TupleArray.ofTuples (array.data.gather array.components positions) array.components array.name

/-- A position as an id, if ids reach that far. -/
def indexId? (i : Nat) : Option Int64 :=
  if (i : Int) ≤ Int64.maxValue.toInt then some (.ofNat i) else none

/-- Names of the arrays whose values are listed: those asked for, or else those of the node. -/
def valueNames (node : Node) (options : ConvertOptions) : Except SelectionError (List String) :=
  if !options.arrayNames.isEmpty then .ok options.arrayNames
  else if node.content = .values || node.content = .thresholds then
    .ok (node.arrays.filterMap TupleArray.name)
  else .error (.mismatch .noValueNames)

def listArrays (node : Node) (target : Content) (positions : List Nat) (dataset : Dataset)
    (options : ConvertOptions) : Except SelectionError (List TupleArray) :=
  match target with
  | .indices => .ok [.ofIds (positions.filterMap indexId?)]
  | .globalIds => do
    let ids ← required node.entity Dataset.globalIdsName (dataset.globalIds? node.entity)
    return [← gatherArray ids positions]
  | .pedigreeIds => do
    let ids ← required node.entity Dataset.pedigreeIdsName (dataset.pedigreeIds? node.entity)
    return [← gatherArray ids positions]
  | .values => do
    let names ← node.valueNames options
    names.mapM fun name => do
      let array ← required node.entity name (dataset.array? node.entity name)
      gatherArray array positions
  | .frustum | .locations | .thresholds | .blocks | .blockSelectors | .query | .user =>
    .error (.incompatible .convert node.content target)

def convertedBare (node : Node) (target : Content) : Node :=
  { bare target node.entity with properties := node.carriedProperties }

def convertStrict (node : Node) (target : Content) (dataset : Dataset) (options : ConvertOptions) :
    Except SelectionError Node := do
  let positions ← node.resolve dataset options
  let arrays ← node.listArrays target positions dataset options
  return { node.convertedBare target with arrays }

def isConverted (node : Node) (target : Content) (options : ConvertOptions) : Bool :=
  node.content == target && !node.properties.inverse
    && (target != .values || options.arrayNames.isEmpty)

def convert (node : Node) (target : Content) (dataset : Dataset) (options : ConvertOptions) :
    Outcome Node :=
  if node.isConverted target options then pure node
  else
    .forgive options (node.convertedBare target) (.emptyConversion node.content target)
      (node.convertStrict target dataset options)

end SelectionAlgebra.Node
