import SelectionAlgebra.Expr.Compiled
import SelectionAlgebra.Named
import SelectionAlgebra.Node.Basic

/-!
Selections: nodes under names, in the order in which they came, and the expression that combines
them. A blank expression stands for the union of all nodes. The compiled form of the expression may
be kept with the selection; it is no part of what the selection is.
-/

namespace SelectionAlgebra

abbrev NamedNode := Named Node

structure Selection where
  nodes : List NamedNode := []
  expression : String := ""
  /-- The expression as it was last compiled. -/
  cache : Option Compiled := none
deriving DecidableEq

namespace Selection

instance : Inhabited Selection := ⟨{}⟩

instance : BEq Selection where
  beq s t := s.nodes == t.nodes && s.expression == t.expression

def empty : Selection := {}

def nodeCount (s : Selection) : Nat :=
  s.nodes.length

def node? (s : Selection) (name : String) : Option Node :=
  Named.find? s.nodes name

def contains (s : Selection) (name : String) : Bool :=
  s.nodes.any fun named => named.name = name

def nodeName (k : Nat) : String :=
  s!"node{k}"

/-- The first of these names that no node has. Among one more than there are nodes one is free. -/
def unusedName (s : Selection) : String :=
  (((List.range (s.nodeCount + 1)).map nodeName).find? fun name => !s.contains name).getD ""

def addNode (s : Selection) (node : Node) : Selection :=
  { s with nodes := s.nodes ++ [⟨s.unusedName, node⟩] }

def setNode (s : Selection) (name : String) (node : Node) : Selection :=
  { s with nodes := Named.place name node s.nodes }

theorem node?_setNode (s : Selection) (name : String) (node : Node) (n : String) :
    (s.setNode name node).node? n = if name = n then some node else s.node? n :=
  Named.find?_place name node s.nodes n

def removeNode (s : Selection) (name : String) : Selection :=
  { s with nodes := s.nodes.eraseP fun named => named.name = name }

def removeNodeAt (s : Selection) (i : Nat) : Selection :=
  { s with nodes := s.nodes.eraseIdx i }

def removeAllNodes (s : Selection) : Selection :=
  { s with nodes := [] }

/-- Change the expression. A compiled form of another text is given up. -/
def setExpression (s : Selection) (expression : String) : Selection :=
  { s with
    expression
    cache := if expression = s.expression then s.cache else none }

def clear (s : Selection) : Selection :=
  s.removeAllNodes.setExpression ""

def display (s : Selection) : String :=
  s!"Expression: {Text.quoted s.expression}\nNumber of nodes: {s.nodeCount}\n"
    ++ String.join (s.nodes.map fun named => s!"Node: {named.name}\n" ++ named.value.display)

end Selection

end SelectionAlgebra
