import SelectionAlgebra.Resolve.Options
import SelectionAlgebra.Resolve.Ranges

/-!
Resolution of a node against a dataset: which entities it selects.
-/

namespace SelectionAlgebra.Node

def listTest (node : Node) (dataset : Dataset) (options : ConvertOptions) :
    Except SelectionError EntityTest :=
  match node.content with
  | .indices => .ok node.indexTest
  | .globalIds => node.globalIdTest dataset
  | .pedigreeIds => node.pedigreeTest dataset
  | .values => node.namedValueTest dataset
  | .thresholds => node.thresholdTest dataset
  | .frustum => node.frustumTest dataset
  | .locations => node.locationTest dataset options.locationEpsilon
  | .blocks | .blockSelectors | .query | .user =>
    .error (.incompatible .resolve node.content .indices)

def marks (node : Node) (dataset : Dataset) (options : ConvertOptions) :
    Except SelectionError (List Bool) :=
  (node.listTest dataset options).map fun test =>
    (List.range (dataset.size node.entity)).map fun i => test i != node.properties.inverse

def resolve (node : Node) (dataset : Dataset) (options : ConvertOptions) :
    Except SelectionError (List Nat) :=
  (node.marks dataset options).map selectedIndices

end SelectionAlgebra.Node
