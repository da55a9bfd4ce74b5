import SelectionAlgebra.Node.Basic

/-!
Difference of id lists.
-/

namespace SelectionAlgebra.Node

def idListProblem? : List TupleArray → Option Mismatch
  | [] => none
  | [array] => if array.elementType ≠ .id || array.components ≠ 1 then some .notIds else none
  | _ => some .manyArrays

def checkSubtract (node other : Node) : Except SelectionError Unit :=
  if node.content ≠ other.content || !node.content.supportsDifference then
    .error (.incompatible .subtract node.content other.content)
  else
    match idListProblem? node.arrays <|> idListProblem? other.arrays with
    | some reason => .error (.mismatch reason)
    | none => .ok ()

/-- The values of one ascending list that do not occur in another one, in one pass over both: what
is smaller than the value at hand is not looked at again. -/
def sortedDifference : List Int64 → List Int64 → List Int64
  | [], _ => []
  | id :: ours, theirs =>
    let ahead := theirs.dropWhile fun other => decide (other < id)
    if ahead.head? = some id then sortedDifference ours ahead
    else id :: sortedDifference ours ahead

def ascending (ids : List Int64) : List Int64 :=
  ids.mergeSort fun a b => decide (a ≤ b)

/-- The values that do not occur in the other list, in ascending order. -/
def survivors (ours theirs : List Int64) : List Int64 :=
  sortedDifference (ascending ours) (ascending theirs)

def withoutIds (theirs : List Int64) : List TupleArray → List TupleArray
  | [] => []
  | array :: rest =>
    { array with data := .ids (survivors (array.data.ids?.getD []) theirs) } :: rest

def subtract (node other : Node) : Except SelectionError Unit × Node :=
  match node.checkSubtract other with
  | .error e => (.error e, node)
  | .ok () =>
    match other.ids? with
    | none => (.ok (), node)
    | some theirs => (.ok (), { node with arrays := withoutIds theirs node.arrays })

end SelectionAlgebra.Node
