import SelectionAlgebra.Node.Basic

/-!
Union of lists. Each array takes in one array of the other node: the one at its place or, where
arrays go by names, the first one of its name that is not yet taken. All is checked before anything
is merged.
-/

namespace SelectionAlgebra.Node

/-- The first array of a name, and the arrays without it. -/
def takeNamed? (name : Option String) : List TupleArray → Option (TupleArray × List TupleArray)
  | [] => none
  | array :: rest =>
    if array.name = name then some (array, rest)
    else (takeNamed? name rest).map fun found => (found.1, array :: found.2)

def partnersByName : List TupleArray → List TupleArray → Except SelectionError (List TupleArray)
  | [], _ => .ok []
  | array :: ours, theirs =>
    match takeNamed? array.name theirs with
    | none => .error (.mismatch (.noPartner array.name))
    | some (partner, rest) =>
      match array.conflict? partner with
      | some reason => .error (.mismatch reason)
      | none => (partnersByName ours rest).map (partner :: ·)

def partnersByPlace : List TupleArray → List TupleArray → Except SelectionError (List TupleArray)
  | array :: ours, partner :: theirs =>
    match array.conflict? partner with
    | some reason => .error (.mismatch reason)
    | none => (partnersByPlace ours theirs).map (partner :: ·)
  | _, _ => .ok []

/-- The arrays of the other node, each at the place of the array that takes it in. -/
def partners (node other : Node) : Except SelectionError (List TupleArray) :=
  if node.content ≠ other.content || !node.content.supportsUnion then
    .error (.incompatible .union node.content other.content)
  else if node.arrays.length ≠ other.arrays.length then
    .error (.mismatch (.arrayCounts node.arrays.length other.arrays.length))
  else if node.content.pairsByName then partnersByName node.arrays other.arrays
  else partnersByPlace node.arrays other.arrays

def checkUnion (node other : Node) : Except SelectionError Unit :=
  (node.partners other).map fun _ => ()

/-- Let each array take in its partner, until one cannot. -/
def takeInAll : List TupleArray → Edit (List TupleArray)
  | partner :: partners, array :: rest =>
    match array.takeIn partner with
    | (.ok (), array) => ((takeInAll partners rest).1, array :: (takeInAll partners rest).2)
    | (.error e, array) => (.error e, array :: rest)
  | _, arrays => (.ok (), arrays)

def union (node other : Node) : Except SelectionError Unit × Node :=
  match node.partners other with
  | .error e => (.error e, node)
  | .ok partners =>
    let (result, arrays) := takeInAll partners node.arrays
    (result, { node with arrays })

end SelectionAlgebra.Node
