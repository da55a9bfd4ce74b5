import SelectionAlgebra.Node.Difference
import SelectionAlgebra.Node.Matching
import SelectionAlgebra.Node.Union
import SelectionAlgebra.Selection.Basic

/-!
Union and difference of selections. Nodes are brought together by what they describe, not by their
names. A whole selection is planned first and carried out afterwards, so that nothing changes when
any part of it is impossible.
-/

namespace SelectionAlgebra.Selection

/-- Position of the first node that matches the given one. -/
def matching? (s : Selection) (node : Node) : Option Nat :=
  s.nodes.findIdx? fun named => named.value.matchesNode node

def editValue (edit : Edit Node) : Edit NamedNode := fun named =>
  ((edit named.value).1, { named with value := (edit named.value).2 })

def carryOut (operation : Node → Node → Except SelectionError Unit × Node) (part : Nat × Node) :
    Edit (List NamedNode) :=
  Edit.element (editValue fun ours => operation ours part.2) part.1

def editNodes (s : Selection) (edit : Edit (List NamedNode)) :
    Except SelectionError Unit × Selection :=
  ((edit s.nodes).1, { s with nodes := (edit s.nodes).2 })

def unionNode (s : Selection) (node : Node) : Except SelectionError Unit × Selection :=
  match s.matching? node with
  | some i => s.editNodes (carryOut Node.union (i, node))
  | none => (.ok (), s.addNode node)

structure UnionPlan where
  merges : List (Nat × Node) := []
  added : List Node := []

def planNode (node : Node) : List Node → Except SelectionError (List Node)
  | [] => .ok [node]
  | pending :: rest =>
    if pending.matchesNode node then (Edit.completed (pending.union node)).map (· :: rest)
    else (planNode node rest).map (pending :: ·)

def UnionPlan.step (s : Selection) (plan : UnionPlan) (node : Node) :
    Except SelectionError UnionPlan :=
  match s.nodes.zipIdx.find? fun entry => entry.1.value.matchesNode node with
  | some (ours, i) =>
    (ours.value.checkUnion node).map fun _ => { plan with merges := plan.merges ++ [(i, node)] }
  | none => (planNode node plan.added).map fun added => { plan with added }

/-- Plan the union with another selection. Every merge is checked against the nodes as they are. -/
def planUnion (s other : Selection) : Except SelectionError UnionPlan :=
  other.nodes.foldlM (fun plan theirs => UnionPlan.step s plan theirs.value) {}

def union (s other : Selection) : Except SelectionError Unit × Selection :=
  match s.planUnion other with
  | .error e => (.error e, s)
  | .ok plan =>
    match s.editNodes (Edit.each (carryOut Node.union) plan.merges) with
    | (.ok (), s) => (.ok (), plan.added.foldl addNode s)
    | (.error e, s) => (.error e, s)

/-- The positions from which a node will be taken away, each checked. -/
def planSubtractNode (s : Selection) (node : Node) : Except SelectionError (List (Nat × Node)) :=
  (s.nodes.zipIdx.filter fun entry => entry.1.value.matchesNode node).mapM fun entry =>
    (entry.1.value.checkSubtract node).map fun _ => (entry.2, node)

def subtractMatching (node ours : Node) : Except SelectionError Unit × Node :=
  if ours.matchesNode node then ours.subtract node else (.ok (), ours)

/-- Take a node away from every node that it matches, once all of them are checked. -/
def subtractNode (s : Selection) (node : Node) : Except SelectionError Unit × Selection :=
  match s.planSubtractNode node with
  | .error e => (.error e, s)
  | .ok _ => s.editNodes (Edit.everyElement (editValue (subtractMatching node)))

def planSubtract (s other : Selection) : Except SelectionError (List (Nat × Node)) :=
  (other.nodes.mapM fun theirs => s.planSubtractNode theirs.value).map List.flatten

def subtract (s other : Selection) : Except SelectionError Unit × Selection :=
  match s.planSubtract other with
  | .error e => (.error e, s)
  | .ok plan => s.editNodes (Edit.each (carryOut Node.subtract) plan)

end SelectionAlgebra.Selection
