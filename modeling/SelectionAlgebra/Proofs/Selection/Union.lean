import SelectionAlgebra.Proofs.Edit
import SelectionAlgebra.Proofs.Node.Union
import SelectionAlgebra.Proofs.Selection.Names
import SelectionAlgebra.Proofs.Selection.Outline

/-!
Union of selections. To plan against the nodes as they are, and to merge and append afterwards, is
the same as adding the nodes one by one: merging changes neither the shape of a node nor a name, so
the checks and matches of the plan stay true while it is carried out.
-/

namespace SelectionAlgebra.Selection

/-! ## Merges -/

theorem outline_carryOut (part : Nat × Node) (nodes : List NamedNode) :
    outline (carryOut Node.union part nodes).2 = outline nodes := by
  apply Edit.map_element
  intro named
  simp only [editValue, Node.shape_union]

theorem outline_merges (parts : List (Nat × Node)) {nodes base : List NamedNode}
    {result : Except SelectionError Unit}
    (merged : Edit.each (carryOut Node.union) parts nodes = (result, base)) :
    outline base = outline nodes := by
  induction parts generalizing nodes with
  | nil => cases merged; rfl
  | cons part rest ih =>
    have first := outline_carryOut part nodes
    unfold Edit.each at merged
    split at merged
    · rename_i between step
      rw [step] at first
      exact (ih merged).trans first
    · rename_i e between step
      cases merged
      rw [step] at first
      exact first

/-! ## Planned nodes -/

theorem planNode_eq (node : Node) (added : List Node) :
    planNode node added =
      match added.findIdx? fun pending => pending.matchesNode node with
      | some j => Edit.completed (Edit.element (fun pending => pending.union node) j added)
      | none => .ok (added ++ [node]) := by
  induction added with
  | nil => rfl
  | cons pending rest ih =>
    rw [planNode, List.findIdx?_cons]
    split
    · cases merged : pending.union node with
      | mk result union => cases result <;> simp only [Edit.element, merged] <;> rfl
    · rw [ih]
      cases rest.findIdx? fun pending => pending.matchesNode node with
      | none => rfl
      | some j =>
        simp only [Option.map_some, Edit.element]
        cases Edit.element (fun pending => pending.union node) j rest with
        | mk result merged => cases result <;> rfl

theorem values_zipWith {names : List String} {added : List Node}
    (enough : names.length = added.length) :
    (List.zipWith Named.mk names added).map Named.value = added := by
  induction added generalizing names with
  | nil => rw [List.zipWith_nil_right, List.map_nil]
  | cons node rest ih =>
    cases names with
    | nil => cases enough
    | cons name names =>
      rw [List.zipWith_cons_cons, List.map_cons, ih (Nat.succ.inj enough)]

theorem element_zipWith (edit : Edit Node) (j : Nat) {names : List String} {added : List Node}
    (enough : names.length = added.length) :
    Edit.element (editValue edit) j (List.zipWith Named.mk names added) =
      ((Edit.element edit j added).1,
        List.zipWith Named.mk names (Edit.element edit j added).2) := by
  induction added generalizing names j with
  | nil => simp only [List.zipWith_nil_right, Edit.element]
  | cons node rest ih =>
    cases names with
    | nil => cases enough
    | cons name names =>
      cases j with
      | zero => rfl
      | succ j =>
        simp only [List.zipWith_cons_cons, Edit.element, ih j (Nat.succ.inj enough)]

/-! ## The selection half way -/

def grown (s : Selection) (base : List NamedNode) (added : List Node) : Selection :=
  { s with nodes := base ++ List.zipWith Named.mk (freshNames s.names added.length) added }

section

variable {s : Selection} {base : List NamedNode} (same : outline base = outline s.nodes)
  (added : List Node) (node : Node)

theorem merge_grown {i : Nat} (inside : i < base.length) :
    (s.grown base added).editNodes (carryOut Node.union (i, node)) =
      ((carryOut Node.union (i, node) base).1,
        s.grown (carryOut Node.union (i, node) base).2 added) := by
  simp only [editNodes, grown, carryOut, Edit.element_append_left _ inside]

theorem mergePending_grown (j : Nat) :
    (s.grown base added).editNodes (carryOut Node.union (base.length + j, node)) =
      ((Edit.element (fun pending => pending.union node) j added).1,
        s.grown base (Edit.element (fun pending => pending.union node) j added).2) := by
  simp only [editNodes, grown, carryOut, Edit.element_append_right, Edit.length_element,
    element_zipWith _ j (length_freshNames s.names added.length)]

include same

theorem foldl_addNode_grown :
    added.foldl addNode { s with nodes := base } = s.grown base added := by
  have names : names { s with nodes := base } = s.names := names_of_outline same
  rw [foldl_addNode, names]
  rfl

theorem append_grown : (s.grown base added).addNode node = s.grown base (added ++ [node]) := by
  rw [← foldl_addNode_grown same, ← foldl_addNode_grown same, List.foldl_append]
  rfl

theorem matching?_grown :
    (s.grown base added).matching? node =
      (s.matching? node).or
        ((added.findIdx? fun pending => pending.matchesNode node).map (base.length + ·)) := by
  have pending : (List.zipWith Named.mk (freshNames s.names added.length) added).findIdx?
      (fun named => named.value.matchesNode node) =
      added.findIdx? fun pending => pending.matchesNode node := by
    conv_rhs => rw [← values_zipWith (length_freshNames s.names added.length), List.findIdx?_map]
    rfl
  simp only [matching?, grown, List.findIdx?_append, pending, findIdx?_of_outline same,
    Nat.add_comm]

end

/-! ## Steps and runs -/

/-- The selection is what a plan makes of another one, and all its merges succeed. -/
def Reaches (s : Selection) (plan : UnionPlan) (t : Selection) : Prop :=
  ∃ base, Edit.each (carryOut Node.union) plan.merges s.nodes = (.ok (), base) ∧
    t = s.grown base plan.added

theorem matching?_of_find? {s : Selection} {node : Node} {ours : NamedNode} {i : Nat}
    (found : (s.nodes.zipIdx.find? fun entry => entry.1.value.matchesNode node) = some (ours, i)) :
    s.matching? node = some i ∧ s.nodes[i]? = some ours := by
  constructor
  · exact List.findIdx?_eq_fst_find?_zipIdx.trans (congrArg (Option.map Prod.snd) found)
  · exact List.mk_mem_zipIdx_iff_getElem?.mp (List.mem_of_find?_eq_some found)

theorem matching?_eq_none {s : Selection} {node : Node}
    (found : (s.nodes.zipIdx.find? fun entry => entry.1.value.matchesNode node) = none) :
    s.matching? node = none :=
  List.findIdx?_eq_fst_find?_zipIdx.trans (congrArg (Option.map Prod.snd) found)

section

variable {s : Selection} {base : List NamedNode} (same : outline base = outline s.nodes)
include same

theorem unionNode_of_original {node : Node} {ours : NamedNode} {i : Nat} (added : List Node)
    (position : s.matching? node = some i) (present : s.nodes[i]? = some ours) :
    (carryOut Node.union (i, node) base).1 = ours.value.checkUnion node ∧
      (s.grown base added).unionNode node =
        (ours.value.checkUnion node, s.grown (carryOut Node.union (i, node) base).2 added) := by
  have lengths : base.length = s.nodes.length := by
    simpa [outline] using congrArg List.length same
  have inside : i < base.length := by
    rw [lengths]
    exact (List.getElem?_eq_some_iff.mp present).1
  have now := List.getElem?_eq_getElem inside
  have checked : (carryOut Node.union (i, node) base).1 = ours.value.checkUnion node := by
    rw [carryOut, Edit.element_result _ now]
    simp only [editValue, Node.union_result]
    exact Node.checkUnion_congr (shape_of_outline same now present) node
  have matched : (s.grown base added).matching? node = some i := by
    rw [matching?_grown same, position, Option.some_or]
  refine ⟨checked, ?_⟩
  rw [unionNode, matched]
  simp only [merge_grown added node inside, checked]

theorem unionNode_of_added {node : Node} (added : List Node) (position : s.matching? node = none) :
    match planNode node added with
    | .ok next => (s.grown base added).unionNode node = (.ok (), s.grown base next)
    | .error e => ((s.grown base added).unionNode node).1 = .error e := by
  have matched := matching?_grown same added node
  rw [position, Option.none_or] at matched
  rw [planNode_eq, unionNode, matched]
  cases added.findIdx? fun pending => pending.matchesNode node with
  | none => simp only [Option.map_none, append_grown same]
  | some j =>
    simp only [Option.map_some, mergePending_grown]
    cases Edit.element (fun pending => pending.union node) j added with
    | mk result next => cases result <;> rfl

end

theorem step_reaches {s t : Selection} {plan : UnionPlan} (reached : s.Reaches plan t)
    (node : Node) :
    match UnionPlan.step s plan node with
    | .ok next => ∃ u, t.unionNode node = (.ok (), u) ∧ s.Reaches next u
    | .error e => (t.unionNode node).1 = .error e := by
  obtain ⟨base, merged, rfl⟩ := reached
  have same := outline_merges plan.merges merged
  unfold UnionPlan.step
  cases found : s.nodes.zipIdx.find? fun entry => entry.1.value.matchesNode node with
  | some entry =>
    -- the check of the plan is on the node as it was, the merge on the node as it is by now
    obtain ⟨ours, i⟩ := entry
    obtain ⟨position, present⟩ := matching?_of_find? found
    obtain ⟨checked, step⟩ := unionNode_of_original same plan.added position present
    cases outcome : ours.value.checkUnion node with
    | error e =>
      rw [outcome] at step
      simp only [step, outcome, Except.map]
    | ok _ =>
      rw [outcome] at step checked
      simp only [outcome, Except.map]
      refine ⟨_, step, _, ?_, rfl⟩
      rw [Edit.each_append, merged]
      simp only [Edit.each_singleton]
      exact Prod.ext checked rfl
  | none =>
    -- what is planned for the added nodes is what happens to them at the end of the list
    have step := unionNode_of_added same plan.added (matching?_eq_none found)
    cases planned : planNode node plan.added with
    | error e =>
      rw [planned] at step
      exact step
    | ok next =>
      rw [planned] at step
      exact ⟨_, step, base, merged, rfl⟩

theorem run_reaches (others : List NamedNode) {s t : Selection} {plan : UnionPlan}
    (reached : s.Reaches plan t) :
    match others.foldlM (fun plan theirs => UnionPlan.step s plan theirs.value) plan with
    | .ok final =>
      ∃ u, Edit.each (fun theirs t => unionNode t theirs.value) others t = (.ok (), u) ∧
        s.Reaches final u
    | .error e => (Edit.each (fun theirs t => unionNode t theirs.value) others t).1 = .error e := by
  induction others generalizing plan t with
  | nil => exact ⟨t, rfl, reached⟩
  | cons theirs rest ih =>
    have step := step_reaches reached theirs.value
    rw [List.foldlM_cons]
    cases planned : UnionPlan.step s plan theirs.value with
    | error e =>
      rw [planned] at step
      unfold Edit.each
      cases added : t.unionNode theirs.value with
      | mk result u =>
        rw [added] at step
        cases step
        rfl
    | ok next =>
      rw [planned] at step
      obtain ⟨u, added, reachedNext⟩ := step
      have run := ih reachedNext
      simp only [Edit.each, added]
      exact run

/-- To add a selection is to add its nodes one by one, or to leave all as it is if any of them
cannot be added; what was planned never fails. -/
theorem union_eq_each (s other : Selection) :
    s.union other =
        (match Edit.each (fun theirs t => unionNode t theirs.value) other.nodes s with
          | (.ok (), t) => (.ok (), t)
          | (.error e, _) => (.error e, s)) ∧
      ∀ plan, s.planUnion other = .ok plan →
        (Edit.each (carryOut Node.union) plan.merges s.nodes).1 = .ok () := by
  have start : s.Reaches {} s := by
    refine ⟨s.nodes, rfl, ?_⟩
    simp only [grown, List.zipWith_nil_right, List.append_nil]
  have run := run_reaches other.nodes start
  unfold union planUnion
  cases planned : other.nodes.foldlM (fun plan theirs => UnionPlan.step s plan theirs.value) {} with
  | error e =>
    rw [planned] at run
    refine ⟨?_, fun plan accepted => by cases accepted⟩
    cases sequence : Edit.each (fun theirs t => unionNode t theirs.value) other.nodes s with
    | mk result t =>
      rw [sequence] at run
      cases run
      rfl
  | ok plan =>
    rw [planned] at run
    obtain ⟨t, sequence, base, merged, rfl⟩ := run
    have same := outline_merges plan.merges merged
    constructor
    · simp only [sequence, editNodes, merged, foldl_addNode_grown same]
    · intro other accepted
      cases accepted
      rw [merged]

end SelectionAlgebra.Selection
