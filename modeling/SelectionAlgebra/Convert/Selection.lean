import SelectionAlgebra.Convert.Node
import SelectionAlgebra.Selection.Evaluate

/-!
Conversion of whole selections, and the one mask that a selection amounts to over a dataset.
-/

namespace SelectionAlgebra.Selection

def convert (s : Selection) (target : Content) (dataset : Dataset) (options : ConvertOptions) :
    Outcome Selection := do
  let converted ← s.nodes.foldlM
    (fun out named => do
      let node ← named.value.convert target dataset options
      return out.setNode named.name node)
    empty
  return converted.setExpression s.expression

/-- What a node selects among the entities of one kind; nothing, if it restricts others. -/
def nodeMask (node : Node) (entity : Entity) (dataset : Dataset) (options : ConvertOptions) :
    Outcome (List Bool) :=
  if node.entity ≠ entity then pure (maskOf (dataset.size entity) [])
  else do
    let found ← .forgive options [] .emptyNode (node.resolve dataset options)
    return maskOf (dataset.size entity) found

/-- The entities of one kind that the selection selects. Without nodes that is none, whatever the
expression. -/
def mask (s : Selection) (entity : Entity) (dataset : Dataset) (options : ConvertOptions) :
    Outcome (List Bool) :=
  if s.nodes.isEmpty then pure (List.replicate (dataset.size entity) false)
  else
    match SelectionAlgebra.compile s.expression with
    | .error e => .ofExcept (.error (.malformed e))
    | .ok compiled => do
      .ofExcept (s.validate compiled)
      let masks ← s.nodes.mapM fun named => do
        let mask ← nodeMask named.value entity dataset options
        return ⟨named.name, mask⟩
      .ofExcept (s.evaluateCompiled compiled (.ofList masks))

def selected (s : Selection) (entity : Entity) (dataset : Dataset) (options : ConvertOptions) :
    Outcome (List Nat) := do
  let mask ← s.mask entity dataset options
  return selectedIndices mask

end SelectionAlgebra.Selection
