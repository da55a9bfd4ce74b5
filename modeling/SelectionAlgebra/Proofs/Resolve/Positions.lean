import SelectionAlgebra.Proofs.Failure
import SelectionAlgebra.Proofs.Mask.Columns
import SelectionAlgebra.Resolve.Node

/-!
What resolution gives: the positions below the number of entities that pass the test of the node's
lists, or fail it if the node is inverted. Its failures speak of lists and of the dataset, never of
masks or of an expression.
-/

namespace SelectionAlgebra

def SelectionError.OfMasks : SelectionError → Prop
  | .lengthMismatch _ _ _ | .mismatch (.noMask _) => True
  | _ => False

def SelectionError.OfExpression : SelectionError → Prop
  | .malformed _ | .unknownNode _ => True
  | _ => False

namespace Node

theorem marks_eq_ok_iff (node : Node) (dataset : Dataset) (options : ConvertOptions)
    (mask : List Bool) :
    node.marks dataset options = .ok mask ↔
      ∃ test, node.listTest dataset options = .ok test ∧
        mask = (List.range (dataset.size node.entity)).map fun i =>
          test i != node.properties.inverse := by
  rw [marks, map_eq_ok_iff]

theorem resolve_eq_ok_iff (node : Node) (dataset : Dataset) (options : ConvertOptions)
    (found : List Nat) :
    node.resolve dataset options = .ok found ↔
      ∃ mask, node.marks dataset options = .ok mask ∧ found = selectedIndices mask := by
  rw [resolve, map_eq_ok_iff]

theorem ascending_resolve {node : Node} {dataset : Dataset} {options : ConvertOptions}
    {found : List Nat} (accepted : node.resolve dataset options = .ok found) :
    found.Pairwise (· < ·) := by
  obtain ⟨mask, -, rfl⟩ := (resolve_eq_ok_iff ..).mp accepted
  exact ascending_selectedIndices mask

theorem mem_resolve {node : Node} {dataset : Dataset} {options : ConvertOptions} {test : EntityTest}
    {found : List Nat} (accepted : node.listTest dataset options = .ok test)
    (resolved : node.resolve dataset options = .ok found) (i : Nat) :
    i ∈ found ↔ i < dataset.size node.entity ∧ (test i != node.properties.inverse) = true := by
  obtain ⟨mask, marked, rfl⟩ := (resolve_eq_ok_iff ..).mp resolved
  obtain ⟨other, same, rfl⟩ := (marks_eq_ok_iff ..).mp marked
  cases accepted.symm.trans same
  rw [mem_selectedIndices]
  by_cases inside : i < dataset.size node.entity <;> simp [inside]

theorem resolve_eq_ok {node : Node} {dataset : Dataset} {options : ConvertOptions}
    {found : List Nat} (resolved : node.resolve dataset options = .ok found) :
    ∃ test, node.listTest dataset options = .ok test ∧
      ∀ i, i ∈ found ↔
        i < dataset.size node.entity ∧ (test i != node.properties.inverse) = true := by
  obtain ⟨mask, marked, -⟩ := (resolve_eq_ok_iff ..).mp resolved
  obtain ⟨test, accepted, -⟩ := (marks_eq_ok_iff ..).mp marked
  exact ⟨test, accepted, mem_resolve accepted resolved⟩

theorem exists_resolve {node : Node} {dataset : Dataset} {options : ConvertOptions}
    {test : EntityTest} (accepted : node.listTest dataset options = .ok test) :
    ∃ found, node.resolve dataset options = .ok found ∧ found.Pairwise (· < ·) ∧
      ∀ i, i ∈ found ↔
        i < dataset.size node.entity ∧ (test i != node.properties.inverse) = true := by
  have marked := (marks_eq_ok_iff node dataset options _).mpr ⟨test, accepted, rfl⟩
  have resolved := (resolve_eq_ok_iff node dataset options _).mpr ⟨_, marked, rfl⟩
  exact ⟨_, resolved, ascending_resolve resolved, mem_resolve accepted resolved⟩

/-! ## Failures -/

abbrev Plain (e : SelectionError) : Prop := ¬ e.OfMasks ∧ ¬ e.OfExpression

theorem required_failsOnly {α : Type} (entity : Entity) (name : String) (part : Option α) :
    FailsOnly Plain (required entity name part) := by
  cases part with
  | none => exact .error ⟨id, id⟩
  | some a => exact .ok a

theorem requiredName_failsOnly (array : TupleArray) : FailsOnly Plain (requiredName array) := by
  unfold requiredName
  split
  · exact .ok _
  · exact .error ⟨id, id⟩

theorem component_failsOnly (node : Node) : FailsOnly Plain node.component := by
  unfold component
  dsimp only
  split
  · exact .error ⟨id, id⟩
  · exact .ok _

theorem valueTest_failsOnly (wanted present : TupleArray) (component : Nat) :
    FailsOnly Plain (valueTest wanted present component) := by
  unfold valueTest
  split
  · exact .error ⟨id, id⟩
  · split
    · exact .error ⟨id, id⟩
    · exact .ok _

theorem pedigreeTest_failsOnly (node : Node) (dataset : Dataset) :
    FailsOnly Plain (node.pedigreeTest dataset) := by
  unfold pedigreeTest
  refine .bind (required_failsOnly _ _ _) fun present => ?_
  exact .bind (.mapM (fun wanted => valueTest_failsOnly wanted present 0) _) fun tests => .ok _

theorem namedArrayTest_failsOnly (entity : Entity) (dataset : Dataset) (component : Nat)
    (wanted : TupleArray) : FailsOnly Plain (namedArrayTest entity dataset component wanted) := by
  unfold namedArrayTest
  refine .bind (requiredName_failsOnly wanted) fun name => ?_
  exact .bind (required_failsOnly _ _ _) fun present =>
    valueTest_failsOnly wanted present component

theorem componentTest_failsOnly
    {arrayTest : Entity → Dataset → Nat → TupleArray → Except SelectionError EntityTest}
    (plain : ∀ entity dataset component wanted,
      FailsOnly Plain (arrayTest entity dataset component wanted))
    (node : Node) (dataset : Dataset) : FailsOnly Plain (componentTest arrayTest node dataset) := by
  unfold componentTest
  refine .bind node.component_failsOnly fun component => ?_
  exact .bind (.mapM (plain node.entity dataset component) _) fun _ => .ok _

theorem thresholdArrayTest_failsOnly (entity : Entity) (dataset : Dataset) (component : Nat)
    (wanted : TupleArray) :
    FailsOnly Plain (thresholdArrayTest entity dataset component wanted) := by
  unfold thresholdArrayTest
  refine .bind (requiredName_failsOnly wanted) fun name => ?_
  split
  · exact .error ⟨id, id⟩
  · refine .bind (required_failsOnly _ _ _) fun present => ?_
    split
    · exact .error ⟨id, id⟩
    · split
      · exact .error ⟨id, id⟩
      · exact .ok _

theorem locationTest_failsOnly (node : Node) (dataset : Dataset) (standardEpsilon : Double) :
    FailsOnly Plain (node.locationTest dataset standardEpsilon) := by
  have points (array : TupleArray) : FailsOnly Plain (listedPoints array) := by
    unfold listedPoints
    split
    · exact .error ⟨id, id⟩
    · exact .ok _
  unfold locationTest
  refine .bind (.mapM points _) fun listed => ?_
  dsimp only
  split
  · exact .ok _
  · exact .bind (required_failsOnly _ _ _) fun _ => .ok _

theorem frustumTest_failsOnly (node : Node) (dataset : Dataset) :
    FailsOnly Plain (node.frustumTest dataset) := by
  have corners (array : TupleArray) : FailsOnly Plain (listedCorners array) := by
    unfold listedCorners
    split
    · exact .error ⟨id, id⟩
    · exact .ok _
  unfold frustumTest
  split
  · exact .ok _
  · refine .bind (corners _) fun listed => ?_
    split
    · exact .error ⟨id, id⟩
    · exact .bind (required_failsOnly _ _ _) fun _ => .ok _

theorem listTest_failsOnly (node : Node) (dataset : Dataset) (options : ConvertOptions) :
    FailsOnly Plain (node.listTest dataset options) := by
  unfold listTest
  split
  · exact .ok _
  · exact .map _ (required_failsOnly _ _ _)
  · exact node.pedigreeTest_failsOnly dataset
  · exact componentTest_failsOnly namedArrayTest_failsOnly node dataset
  · exact componentTest_failsOnly thresholdArrayTest_failsOnly node dataset
  · exact node.frustumTest_failsOnly dataset
  · exact node.locationTest_failsOnly dataset _
  all_goals exact .error ⟨id, id⟩

theorem resolve_failsOnly (node : Node) (dataset : Dataset) (options : ConvertOptions) :
    FailsOnly Plain (node.resolve dataset options) :=
  .map _ (.map _ (node.listTest_failsOnly dataset options))

end Node

end SelectionAlgebra
