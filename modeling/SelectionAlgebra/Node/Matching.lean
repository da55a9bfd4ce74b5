import SelectionAlgebra.Node.Basic

/-!
When two nodes describe lists of the same kind, so that their lists can be worked on together.
-/

namespace SelectionAlgebra.Node

def agreesWith (node other : Node) : Bool :=
  node.content == other.content && node.entity == other.entity
    && node.properties.isSubset other.properties
    && (!node.content.comparesNames
      || node.arrays.map TupleArray.name == other.arrays.map TupleArray.name)

def matchesNode (node other : Node) : Bool :=
  node.agreesWith other && other.agreesWith node

end SelectionAlgebra.Node
