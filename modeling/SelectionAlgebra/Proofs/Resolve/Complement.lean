import SelectionAlgebra.Proofs.Resolve.Union

/-!
Inversion of nodes. However its lists are read, a node that is inverted selects exactly the entities
that it would not select otherwise, and it fails exactly as it would otherwise.
-/

namespace SelectionAlgebra

theorem selectedIndices_table (n : Nat) (test : Nat → Bool) :
    selectedIndices ((List.range n).map test) = (List.range n).filter test := by
  induction n with
  | zero => rfl
  | succ n ih =>
    rw [List.range_succ, List.map_append, List.filter_append, ← ih]
    cases last : test n <;> simp [selectedIndices, List.zipIdx_append, last]

def complement (n : Nat) (found : List Nat) : List Nat :=
  (List.range n).filter fun i => decide (i ∉ found)

namespace Properties

variable (properties : Properties)

theorem inverse_insert (value : Bool) :
    inverse (properties.insert (.inverse value)) = value := by
  rw [inverse, Keyed.get?_insert]
  rfl

theorem inverse_erase : inverse (properties.erase .inverse) = false := by
  rw [inverse, Keyed.get?_erase, if_pos rfl]

theorem readsAs_insert_inverse (value : Bool) :
    ReadsAs (properties.insert (.inverse value)) properties where
  component := by
    rw [componentNumber?, componentNumber?, Keyed.get?_insert]
    rfl
  reach standard := by
    rw [epsilon?, epsilon?, Keyed.get?_insert]
    rfl

theorem readsAs_erase_inverse : ReadsAs (properties.erase .inverse) properties where
  component := by
    rw [componentNumber?, componentNumber?, Keyed.get?_erase]
    rfl
  reach standard := by
    rw [epsilon?, epsilon?, Keyed.get?_erase]
    rfl

end Properties

namespace Node

variable (node : Node) (dataset : Dataset) (options : ConvertOptions)

theorem listTest_of_readsAs {properties : Properties} (reads : properties.ReadsAs node.properties) :
    ({ node with properties } : Node).listTest dataset options = node.listTest dataset options := by
  simp only [listTest, indexTest, listedIds, globalIdTest, pedigreeTest, namedValueTest,
    thresholdTest, componentTest, component, frustumTest, locationTest, reads.component,
    reads.reach]

theorem resolve_eq :
    node.resolve dataset options = (node.listTest dataset options).map fun test =>
      (List.range (dataset.size node.entity)).filter fun i =>
        test i != node.properties.inverse := by
  rw [resolve, marks]
  cases node.listTest dataset options with
  | error e => rfl
  | ok test => exact congrArg Except.ok (selectedIndices_table _ _)

/-- A node resolves to positions of its kind in ascending order. When it is inverted it resolves to
all other positions, and its failures stay the same. -/
theorem resolve_inverted :
    (∀ found, node.resolve dataset options = .ok found →
      found.Pairwise (· < ·) ∧ ∀ i ∈ found, i < dataset.size node.entity) ∧
    (node.setProperty (.inverse true)).resolve dataset options =
      ((node.removeProperty .inverse).resolve dataset options).map
        (complement (dataset.size node.entity)) := by
  constructor
  · intro found resolved
    obtain ⟨test, -, inside⟩ := resolve_eq_ok resolved
    exact ⟨ascending_resolve resolved, fun i member => ((inside i).mp member).1⟩
  · have upright := node.listTest_of_readsAs dataset options node.properties.readsAs_erase_inverse
    have inverted :=
      node.listTest_of_readsAs dataset options (node.properties.readsAs_insert_inverse true)
    rw [resolve_eq, resolve_eq, setProperty, removeProperty, inverted, upright,
      Properties.inverse_insert, Properties.inverse_erase]
    cases node.listTest dataset options with
    | error e => rfl
    | ok test =>
      refine congrArg Except.ok (List.filter_congr fun i inside => ?_)
      simp [List.mem_range.mp inside]

/-- Two of four cells, and the other two. -/
theorem resolve_inverted_cells :
    let node : Node := .ofIds .indices .cell [2, 0]
    let dataset := Dataset.empty.setCount .cell 4
    (node.removeProperty .inverse).resolve dataset {} = .ok [0, 2] ∧
      (node.setProperty (.inverse true)).resolve dataset {} = .ok [1, 3] := by
  intro node dataset
  have upright : (node.removeProperty .inverse).resolve dataset {} = .ok [0, 2] := by decide
  have others : complement 4 [0, 2] = [1, 3] := by decide
  refine ⟨upright, ?_⟩
  rw [(node.resolve_inverted dataset {}).2, upright]
  exact congrArg Except.ok others

end Node

end SelectionAlgebra
