import SelectionAlgebra.Config.Basic
import SelectionAlgebra.Mask.Evaluate
import SelectionAlgebra.Selection.Basic

/-!
Evaluation of selections: masks are given for the nodes, and the expression combines them. Masks of
anything but nodes are ignored.
-/

namespace SelectionAlgebra.Selection

/-- The compiled form at hand, if it belongs to the expression as it stands. -/
def current? (s : Selection) : Option Compiled :=
  s.cache.filter fun compiled => compiled.source = s.expression

/-- Compile the expression, unless its compiled form is at hand. The form is kept on success and
given up on failure. -/
def compile (s : Selection) : Except ParseError Compiled × Selection :=
  match s.current? with
  | some compiled => (.ok compiled, s)
  | none =>
    match SelectionAlgebra.compile s.expression with
    | .ok compiled => (.ok compiled, { s with cache := some compiled })
    | .error e => (.error e, { s with cache := none })

def validate (s : Selection) (compiled : Compiled) : Except SelectionError Unit :=
  match compiled.names.entries.find? fun name => !s.contains name with
  | some name => .error (.unknownNode name)
  | none => .ok ()

/-- The masks of the nodes, in the order of the nodes. A node that the expression uses must have
one; a blank expression uses every node. -/
def nodeMasks {α : Type} (compiled : Compiled) (masks : MaskSet α) :
    List NamedNode → MaskSet α → Except SelectionError (MaskSet α)
  | [], found => .ok found
  | named :: rest, found =>
    match masks.get? named.name with
    | some mask => nodeMasks compiled masks rest (found.insert named.name mask)
    | none =>
      if compiled.isAnyMask || compiled.references named.name then
        .error (.mismatch (.noMask named.name))
      else nodeMasks compiled masks rest found

def evaluateCompiled {α : Type} [MaskElement α] (s : Selection) (compiled : Compiled)
    (masks : MaskSet α) : Except SelectionError (List Bool) :=
  match s.validate compiled with
  | .error e => .error e
  | .ok () =>
    match nodeMasks compiled masks s.nodes .empty with
    | .error e => .error e
    | .ok found =>
      match compiled.evaluate found with
      | .error e => .error (.ofEval e)
      | .ok mask => .ok mask

/-- Evaluate the selection's own expression, by its compiled form if that is at hand. Otherwise the
expression is compiled for this once. This is the default build, which fills masks in one pass and
leaves the settings aside. What a parallel build does with them is `Program.fill`, and it gives the
same (`Compiled.fill_of_evaluate`). -/
def evaluateWithOptions {α : Type} [MaskElement α] (s : Selection) (masks : MaskSet α)
    (_settings : EvalSettings) : Except SelectionError (List Bool) :=
  match s.current? with
  | some compiled => s.evaluateCompiled compiled masks
  | none =>
    match SelectionAlgebra.compile s.expression with
    | .ok compiled => s.evaluateCompiled compiled masks
    | .error e => .error (.malformed e)

def evaluate {α : Type} [MaskElement α] (s : Selection) (masks : MaskSet α) :
    Except SelectionError (List Bool) :=
  s.evaluateWithOptions masks {}

end SelectionAlgebra.Selection
