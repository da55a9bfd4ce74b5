import SelectionAlgebra.Selection.Evaluate
import SelectionAlgebra.Selection.Merge
import SelectionAlgebra.Stored.Selection

/-!
Selections in use: one operation after the other, on a single selection or on several of them.
-/

namespace SelectionAlgebra

namespace Selection

def editNode (s : Selection) (name : String) (edit : Edit Node) :
    Option (Except SelectionError Unit) × Selection :=
  match s.nodes.findIdx? fun named => named.name = name with
  | none => (none, s)
  | some i =>
    let edited := s.editNodes (Edit.element (editValue edit) i)
    (some edited.1, edited.2)

inductive Command where
  | addNode (node : Node)
  | setNode (name : String) (node : Node)
  | removeNode (name : String)
  | removeNodeAt (i : Nat)
  | removeAllNodes
  | clear
  | setExpression (expression : String)
  | compile
  | union (other : Selection)
  | unionNode (node : Node)
  | subtract (other : Selection)
  | subtractNode (node : Node)
  | editNode (name : String) (edit : Edit Node)

inductive Reply where
  | done
  | named (name : String)
  | former (node : Option Node)
  | removed (named : Option NamedNode)
  | compiled (result : Except ParseError Compiled)
  | merged (result : Except SelectionError Unit)
  | edited (result : Option (Except SelectionError Unit))
  | refused (fault : Json.Fault)

def perform : Command → Selection → Reply × Selection
  | .addNode node, s => (.named s.unusedName, s.addNode node)
  | .setNode name node, s => (.former (s.node? name), s.setNode name node)
  | .removeNode name, s => (.former (s.node? name), s.removeNode name)
  | .removeNodeAt i, s => (.removed s.nodes[i]?, s.removeNodeAt i)
  | .removeAllNodes, s => (.done, s.removeAllNodes)
  | .clear, s => (.done, s.clear)
  | .setExpression expression, s => (.done, s.setExpression expression)
  | .compile, s => (.compiled s.compile.1, s.compile.2)
  | .union other, s => (.merged (s.union other).1, (s.union other).2)
  | .unionNode node, s => (.merged (s.unionNode node).1, (s.unionNode node).2)
  | .subtract other, s => (.merged (s.subtract other).1, (s.subtract other).2)
  | .subtractNode node, s => (.merged (s.subtractNode node).1, (s.subtractNode node).2)
  | .editNode name edit, s => (.edited (s.editNode name edit).1, (s.editNode name edit).2)

end Selection

/-- Selections under names, each of them empty at first. -/
abbrev Session := String → Selection

namespace Session

def start : Session := fun _ => .empty

def set (session : Session) (target : String) (s : Selection) : Session := fun name =>
  if name = target then s else session name

inductive Command where
  | apply (target : String) (command : Selection.Command)
  | copy (target source : String)
  | unite (target source : String)
  | reduce (target source : String)
  | load (target text : String)

def step (perform : Selection.Command → Selection → Selection.Reply × Selection) :
    Command → Session → Selection.Reply × Session
  | .apply target command, session => act target command session
  | .copy target source, session => (.done, session.set target (session source))
  | .unite target source, session => act target (.union (session source)) session
  | .reduce target source, session => act target (.subtract (session source)) session
  | .load target text, session =>
    match Selection.ofJson text with
    | .ok s => (.done, session.set target s)
    | .error fault => (.refused fault, session)
where
  act (target : String) (command : Selection.Command) (session : Session) :
      Selection.Reply × Session :=
    let performed := perform command (session target)
    (performed.1, session.set target performed.2)

end Session

end SelectionAlgebra
