import SelectionAlgebra.Selection.Basic
import SelectionAlgebra.Stored.Property

/-!
Selections as JSON text. The compiled form of the expression is not stored.
-/

namespace SelectionAlgebra

open Json

namespace Content

def read : Reader Content :=
  readVariant (fun name => all.find? fun content => content.tag = name) fun _ => none

end Content

namespace Entity

def read : Reader Entity :=
  readVariant (fun name => all.find? fun entity => entity.tag = name) fun _ => none

end Entity

namespace Node

def stored (node : Node) : Value :=
  .object [("content_type", .string node.content.tag), ("field_type", .string node.entity.tag),
    ("selection_list", .object [("arrays", .array (node.arrays.map TupleArray.stored))]),
    ("properties", node.properties.stored)]

def readArrays : Reader (List TupleArray) :=
  readRecord [.of "arrays" (readList TupleArray.read) id fun _ arrays => some arrays] none id

structure Draft where
  content : Option Content := none
  entity : Option Entity := none
  arrays : Option (List TupleArray) := none
  properties : Option Properties := none

def Draft.complete (draft : Draft) : Option Node := do
  let content ← draft.content
  let entity ← draft.entity
  let arrays ← draft.arrays
  let properties ← draft.properties
  return ⟨content, entity, arrays, properties⟩

def fields : List (RecordField Draft) :=
  [.of "content_type" Content.read Draft.content fun draft content => { draft with content },
    .of "field_type" Entity.read Draft.entity fun draft entity => { draft with entity },
    .of "selection_list" readArrays Draft.arrays fun draft arrays => { draft with arrays },
    .of "properties" Properties.read Draft.properties fun draft properties =>
      { draft with properties }]

def read : Reader Node :=
  readRecord fields {} Draft.complete

end Node

namespace NamedNode

def stored (named : NamedNode) : Value :=
  .object [("name", .string named.name), ("node", named.value.stored)]

structure Draft where
  name : Option String := none
  node : Option Node := none

def Draft.complete (draft : Draft) : Option NamedNode := do
  let name ← draft.name
  let node ← draft.node
  return ⟨name, node⟩

def fields : List (RecordField Draft) :=
  [.of "name" readString Draft.name fun draft name => { draft with name },
    .of "node" Node.read Draft.node fun draft node => { draft with node }]

def read : Reader NamedNode :=
  readRecord fields {} Draft.complete

end NamedNode

namespace Selection

def stored (s : Selection) : Value :=
  .object [("nodes", .array (s.nodes.map NamedNode.stored)), ("expression", .string s.expression)]

def toJson (s : Selection) : String :=
  s.stored.text

structure Draft where
  nodes : Option (List NamedNode) := none
  expression : Option String := none

def Draft.complete (draft : Draft) : Option Selection := do
  let nodes ← draft.nodes
  let expression ← draft.expression
  return { nodes, expression }

def fields : List (RecordField Draft) :=
  [.of "nodes" (readList NamedNode.read) Draft.nodes fun draft nodes => { draft with nodes },
    .of "expression" readString Draft.expression fun draft expression =>
      { draft with expression }]

def read : Reader Selection :=
  readRecord fields {} Draft.complete

def ofJson (text : String) : Except Fault Selection :=
  readText read text

end Selection

end SelectionAlgebra
