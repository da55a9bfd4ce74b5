import SelectionAlgebra.Proofs.Edit
import SelectionAlgebra.Proofs.Failure
import SelectionAlgebra.Proofs.Node.Difference
import SelectionAlgebra.Proofs.Selection.Outline

/-!
Difference of selections. To plan all of it against the nodes as they are, and to carry it out
afterwards, is the same as taking the other nodes away one by one: no difference changes the
outline of the nodes, on which all matches and checks depend.
-/

namespace SelectionAlgebra.Selection

/-! ## Matches and their checks -/

def checkMatching (node : Node) (nodes : List NamedNode) : Except SelectionError (List Unit) :=
  (nodes.filter fun named => named.value.matchesNode node).mapM fun named =>
    named.value.checkSubtract node

def matchingPositions (node : Node) (nodes : List NamedNode) (start : Nat) : List Nat :=
  ((nodes.zipIdx start).filter fun entry => entry.1.value.matchesNode node).map Prod.snd

def lessened (node : Node) (named : NamedNode) : NamedNode :=
  if named.value.matchesNode node then { named with value := (named.value.subtract node).2 }
  else named

theorem checkSubtract_of_checkMatching {node : Node} {nodes : List NamedNode} {checks : List Unit}
    (accepted : checkMatching node nodes = .ok checks) {named : NamedNode} (member : named ∈ nodes)
    (alike : named.value.matchesNode node = true) : named.value.checkSubtract node = .ok () := by
  obtain ⟨_, -, checked⟩ := exists_of_mapM_eq_ok accepted (List.mem_filter.mpr ⟨member, alike⟩)
  exact checked

theorem planned_eq (node : Node) (nodes : List NamedNode) (start : Nat) :
    (((nodes.zipIdx start).filter fun entry => entry.1.value.matchesNode node).mapM fun entry =>
        (entry.1.value.checkSubtract node).map fun _ => (entry.2, node)) =
      (checkMatching node nodes).map fun _ =>
        (matchingPositions node nodes start).map fun i => (i, node) := by
  induction nodes generalizing start with
  | nil => rfl
  | cons named rest ih =>
    have tail := ih (start + 1)
    unfold checkMatching matchingPositions at tail ⊢
    rw [List.zipIdx_cons, List.filter_cons, List.filter_cons]
    by_cases alike : named.value.matchesNode node = true
    · simp only [alike, if_true, List.mapM_cons, tail, List.map_cons]
      cases named.value.checkSubtract node with
      | error e => rfl
      | ok _ =>
        cases (rest.filter fun named => named.value.matchesNode node).mapM fun named =>
          named.value.checkSubtract node <;> rfl
    · simp only [alike, if_false, tail, Bool.false_eq_true]

theorem planSubtractNode_eq (s : Selection) (node : Node) :
    s.planSubtractNode node =
      (checkMatching node s.nodes).map fun _ =>
        (matchingPositions node s.nodes 0).map fun i => (i, node) :=
  planned_eq node s.nodes 0

section

variable {base nodes : List NamedNode}

theorem outline_lessened (node : Node) (nodes : List NamedNode) :
    outline (nodes.map (lessened node)) = outline nodes := by
  rw [outline, List.map_map]
  apply List.map_congr_left
  intro named _
  simp only [Function.comp_apply, lessened]
  split
  · rw [Node.shape_subtract]
  · rfl

variable (same : outline base = outline nodes)
include same

theorem checkMatching_of_outline (node : Node) :
    checkMatching node base = checkMatching node nodes := by
  have twins := shapes_of_outline same
  clear same
  unfold checkMatching
  induction twins with
  | nil => rfl
  | cons shapes _ ih =>
    rw [List.filter_cons, List.filter_cons, Node.matchesNode_congr shapes]
    split
    · rw [List.mapM_cons, List.mapM_cons, Node.checkSubtract_congr shapes, ih]
    · exact ih

theorem matchingPositions_of_outline (node : Node) (start : Nat) :
    matchingPositions node base start = matchingPositions node nodes start := by
  have twins := shapes_of_outline same
  clear same
  induction twins generalizing start with
  | nil => rfl
  | cons shapes _ ih =>
    have tail := ih (start + 1)
    unfold matchingPositions at tail ⊢
    rw [List.zipIdx_cons, List.zipIdx_cons, List.filter_cons, List.filter_cons,
      Node.matchesNode_congr shapes]
    split
    · rw [List.map_cons, List.map_cons, tail]
    · exact tail

end

/-! ## Steps and runs -/

section

variable {node : Node} {nodes : List NamedNode} {checks : List Unit}
  (accepted : checkMatching node nodes = .ok checks)
include accepted

/-- What was checked does not fail when it is carried out position by position. -/
theorem carryOut_matching :
    Edit.each (carryOut Node.subtract)
        ((matchingPositions node nodes 0).map fun i => (i, node)) nodes =
      (.ok (), nodes.map (lessened node)) := by
  have succeeds : ∀ named ∈ nodes, named.value.matchesNode node = true →
      (editValue (fun ours => ours.subtract node) named).1 = .ok () := by
    intro named member alike
    rw [editValue, Node.subtract_result]
    exact checkSubtract_of_checkMatching accepted member alike
  rw [Edit.each_map]
  exact Edit.each_element_of_succeeds _ succeeds []

theorem everyElement_matching :
    Edit.everyElement (editValue (subtractMatching node)) nodes =
      (.ok (), nodes.map (lessened node)) := by
  have single : ∀ named ∈ nodes,
      editValue (subtractMatching node) named = (.ok (), lessened node named) := by
    intro named member
    unfold editValue subtractMatching lessened
    split
    · rename_i alike
      rw [Node.subtract_result, checkSubtract_of_checkMatching accepted member alike]
    · rfl
  rw [Edit.everyElement_of_succeeds _ fun named member => congrArg Prod.fst (single named member)]
  exact congrArg (Prod.mk _)
    (List.map_congr_left fun named member => congrArg Prod.snd (single named member))

end

theorem subtractNode_eq (s : Selection) (node : Node) :
    s.subtractNode node =
      match checkMatching node s.nodes with
      | .ok _ => (.ok (), { s with nodes := s.nodes.map (lessened node) })
      | .error e => (.error e, s) := by
  unfold subtractNode
  rw [planSubtractNode_eq]
  cases accepted : checkMatching node s.nodes with
  | error e => rfl
  | ok checks => simp only [Except.map, editNodes, everyElement_matching accepted]

/-- What is planned for each of the other nodes is what happens when they are taken away one by
one, from nodes that have kept their outline so far. -/
theorem run_subtract (others : List NamedNode) {s t : Selection}
    (same : outline t.nodes = outline s.nodes) :
    match others.mapM fun theirs => s.planSubtractNode theirs.value with
    | .ok plans =>
      ∃ nodes, Edit.each (carryOut Node.subtract) plans.flatten t.nodes = (.ok (), nodes) ∧
        Edit.each (fun theirs t => subtractNode t theirs.value) others t =
          (.ok (), { t with nodes })
    | .error e =>
      (Edit.each (fun theirs t => subtractNode t theirs.value) others t).1 = .error e := by
  induction others generalizing t with
  | nil => exact ⟨t.nodes, rfl, rfl⟩
  | cons theirs rest ih =>
    have step := t.subtractNode_eq theirs.value
    rw [List.mapM_cons, planSubtractNode_eq, ← matchingPositions_of_outline same,
      ← checkMatching_of_outline same]
    cases accepted : checkMatching theirs.value t.nodes with
    | error e =>
      rw [accepted] at step
      simp only [Except.map, bind, Except.bind, Edit.each, step]
    | ok checks =>
      rw [accepted] at step
      have run := ih (t := { t with nodes := t.nodes.map (lessened theirs.value) })
        ((outline_lessened ..).trans same)
      cases planned : rest.mapM fun theirs => s.planSubtractNode theirs.value with
      | error e =>
        rw [planned] at run
        simpa only [Except.map, bind, Except.bind, Edit.each, step] using run
      | ok plans =>
        rw [planned] at run
        obtain ⟨nodes, carried, sequence⟩ := run
        refine ⟨nodes, ?_, ?_⟩
        · rw [List.flatten_cons, Edit.each_append, carryOut_matching accepted]
          exact carried
        · simp only [Edit.each, step, sequence]

theorem planSubtract_eq_ok_iff (s other : Selection) (plan : List (Nat × Node)) :
    s.planSubtract other = .ok plan ↔
      ∃ plans, other.nodes.mapM (fun theirs => s.planSubtractNode theirs.value) = .ok plans ∧
        plan = plans.flatten :=
  map_eq_ok_iff

/-- To take a selection away is to take its nodes away one by one, or to leave all as it is if any
of them cannot be taken away. So it is for each node: all that match it are lessened and no other,
or nothing is changed. What was planned never fails. -/
theorem subtract_eq_each (s other : Selection) :
    s.subtract other =
        (match Edit.each (fun theirs t => subtractNode t theirs.value) other.nodes s with
          | (.ok (), t) => (.ok (), t)
          | (.error e, _) => (.error e, s)) ∧
      (∀ plan, s.planSubtract other = .ok plan →
        (Edit.each (carryOut Node.subtract) plan s.nodes).1 = .ok ()) ∧
      ∀ node : Node,
        s.subtractNode node =
            (match checkMatching node s.nodes with
              | .ok _ => (.ok (), { s with nodes := s.nodes.map (lessened node) })
              | .error e => (.error e, s)) ∧
          ∀ plan, s.planSubtractNode node = .ok plan →
            (Edit.everyElement (editValue (subtractMatching node)) s.nodes).1 = .ok () ∧
              ∀ named ∈ s.nodes, named.value.matchesNode node = true →
                (named.value.subtract node).1 = .ok () := by
  have run := run_subtract other.nodes (rfl : outline s.nodes = outline s.nodes)
  refine ⟨?_, ?_, fun node => ⟨subtractNode_eq s node, ?_⟩⟩
  · unfold subtract planSubtract
    cases planned : other.nodes.mapM fun theirs => s.planSubtractNode theirs.value with
    | error e =>
      rw [planned] at run
      cases sequence : Edit.each (fun theirs t => subtractNode t theirs.value) other.nodes s with
      | mk result t =>
        rw [sequence] at run
        cases run
        rfl
    | ok plans =>
      rw [planned] at run
      obtain ⟨nodes, carried, sequence⟩ := run
      simp only [Except.map, editNodes, carried, sequence]
  · intro plan accepted
    obtain ⟨plans, planned, rfl⟩ := (planSubtract_eq_ok_iff ..).mp accepted
    rw [planned] at run
    obtain ⟨nodes, carried, -⟩ := run
    rw [carried]
  · intro plan accepted
    rw [planSubtractNode_eq] at accepted
    obtain ⟨checks, checked, -⟩ := map_eq_ok_iff.mp accepted
    refine ⟨congrArg Prod.fst (everyElement_matching checked), ?_⟩
    intro named member alike
    rw [Node.subtract_result]
    exact checkSubtract_of_checkMatching checked member alike

/-- Each of two nodes is taken away from both of two others. -/
theorem subtract_eq_each_crossed :
    let x : Node := .ofIds .indices .cell [2]
    let y : Node := .ofIds .indices .cell [3, 5]
    let s : Selection := {
      nodes := [⟨"a", .ofIds .indices .cell [3, 1, 2]⟩, ⟨"b", .ofIds .indices .cell [5, 2]⟩] }
    let plan := [(0, x), (1, x), (0, y), (1, y)]
    s.planSubtract { nodes := [⟨"x", x⟩, ⟨"y", y⟩] } = .ok plan ∧
      (Edit.each (carryOut Node.subtract) plan s.nodes).1 = .ok () := by
  intro x y s plan
  have planned : s.planSubtract { nodes := [⟨"x", x⟩, ⟨"y", y⟩] } = .ok plan := by decide
  exact ⟨planned, (subtract_eq_each s _).2.1 plan planned⟩

end SelectionAlgebra.Selection
