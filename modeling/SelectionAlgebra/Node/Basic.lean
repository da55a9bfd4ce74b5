import SelectionAlgebra.Property
import SelectionAlgebra.TupleArray

/-!
Nodes: single criteria. A node says how its arrays are read, which entities they restrict, and
carries qualifiers.
-/

namespace SelectionAlgebra

structure Node where
  content : Content
  entity : Entity
  arrays : List TupleArray
  properties : Properties
deriving DecidableEq, BEq

namespace Node

def bare (content : Content) (entity : Entity) : Node :=
  ⟨content, entity, [], .empty⟩

instance : Inhabited Node := ⟨bare .standard .standard⟩

def ofIds (content : Content) (entity : Entity) (ids : List Int64) : Node :=
  { bare content entity with arrays := [.ofIds ids] }

def ofValues (entity : Entity) (name : String) (data : Data) : Node :=
  { bare .values entity with arrays := [.ofValues data (some name)] }

def setProperty (node : Node) (property : Property) : Node :=
  { node with properties := node.properties.insert property }

def removeProperty (node : Node) (key : PropertyKey) : Node :=
  { node with properties := node.properties.erase key }

def clear (node : Node) : Node :=
  bare node.content node.entity

def ids? (node : Node) : Option (List Int64) :=
  node.arrays.head?.bind fun array => array.data.ids?

def tupleCount (node : Node) : Nat :=
  match node.arrays with
  | [] => 0
  | array :: _ => array.tupleCount

/-- The first array of that name; nothing names the unnamed ones. -/
def arrayNamed? (node : Node) (name : Option String) : Option TupleArray :=
  node.arrays.find? fun array => array.name = name

/-- Put other data into one array, whatever its shape. -/
def setData (node : Node) (i : Nat) (data : Data) : Node :=
  { node with arrays := node.arrays.modify i fun array => { array with data } }

def displayLines (node : Node) : List String :=
  [s!"ContentType: {node.content.name}", s!"FieldType: {node.entity.name}"]
    ++ node.properties.entries.map Property.display ++ node.arrays.map TupleArray.display

def display (node : Node) : String :=
  String.join (node.displayLines.map (· ++ "\n"))

end Node

end SelectionAlgebra
