import SelectionAlgebra.Data
import SelectionAlgebra.Expr.Parser
import SelectionAlgebra.Kind
import SelectionAlgebra.Mask.Basic

/-!
The ways in which work on selections fails, and how each is told.
-/

namespace SelectionAlgebra

inductive Operation where
  | union
  | subtract
  | resolve
  | convert
deriving DecidableEq

def Operation.name : Operation → String
  | union => "union"
  | subtract => "subtract"
  | resolve => "resolve"
  | convert => "convert"

def nameOrUnnamed (name : Option String) : String :=
  name.getD "<unnamed>"

inductive Mismatch where
  | noComponents
  | notTuples (values components : Nat)
  | elementTypes (left right : ElementType)
  | componentCounts (left right : Nat)
  | arrayCounts (left right : Nat)
  | noPartner (name : Option String)
  | manyArrays
  | notIds
  | noMask (node : String)
  | unmatchable (wanted present : ElementType) (array : Option String)
  | noSuchComponent (array : Option String) (components requested : Nat)
  | negativeComponent (requested : Int32)
  | unnamedValues
  | notRanges (array : String)
  | thresholdOfStrings (array : String)
  | notCorners
  | degenerateFace
  | notPoints
  | noValueNames
deriving DecidableEq

def Mismatch.message : Mismatch → String
  | noComponents => "arrays need at least one component"
  | notTuples values components =>
    s!"{values} values do not form {components}-component tuples"
  | elementTypes left right => s!"element types differ: {left.name} vs {right.name}"
  | componentCounts left right => s!"component counts differ: {left} vs {right}"
  | arrayCounts left right => s!"cannot union lists with {left} and {right} arrays"
  | noPartner name => s!"no array named '{nameOrUnnamed name}' to union with"
  | manyArrays => "cannot subtract selections with more than one array"
  | notIds => "can only subtract single-component id arrays"
  | noMask node => s!"no mask supplied for node '{node}'"
  | unmatchable wanted present array =>
    s!"cannot match {wanted.name} values against {present.name} array '{nameOrUnnamed array}'"
  | noSuchComponent array components requested =>
    s!"array '{nameOrUnnamed array}' has {components} components, component {requested} requested"
  | negativeComponent requested => s!"invalid component number {requested.toInt}"
  | unnamedValues => "value arrays must be named"
  | notRanges array => s!"threshold array '{array}' must hold numeric (min, max) pairs"
  | thresholdOfStrings array => s!"cannot threshold string array '{array}'"
  | notCorners => "frustum needs 8 numeric corners of 3 or 4 components"
  | degenerateFace => "degenerate frustum face"
  | notPoints => "locations must be numeric 3-component tuples"
  | noValueNames => "no array names to convert values from"

inductive SelectionError where
  /-- The operation is not defined for these two kinds of lists. -/
  | incompatible (operation : Operation) (left right : Content)
  | mismatch (reason : Mismatch)
  /-- The expression names a node that the selection does not have. -/
  | unknownNode (name : String)
  | malformed (reason : ParseError)
  | lengthMismatch (name : String) (expected actual : Nat)
  /-- The dataset lacks an array. -/
  | missingArray (entity : Entity) (array : String)
deriving DecidableEq

namespace SelectionError

def message : SelectionError → String
  | incompatible operation left right =>
    s!"Cannot {operation.name} {left.name} selection with {right.name} selection"
  | mismatch reason => s!"Selection lists do not match: {reason.message}"
  | unknownNode name => s!"Expression references unknown node: {name}"
  | malformed reason => s!"Malformed expression: {reason.message}"
  | lengthMismatch name expected actual =>
    s!"Mask for node '{name}' has length {actual}, expected {expected}"
  | missingArray entity array =>
    s!"Missing {entity.name} array '{array}' required for conversion"

def ofEval : EvalError → SelectionError
  | .unknownName name => unknownNode name
  | .lengthMismatch name expected actual => lengthMismatch name expected actual

/-- Whether a caller may go on with an empty result. -/
def isMissingArray : SelectionError → Bool
  | missingArray _ _ => true
  | _ => false

end SelectionError

end SelectionAlgebra
