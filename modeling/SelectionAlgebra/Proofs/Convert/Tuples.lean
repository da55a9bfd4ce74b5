import SelectionAlgebra.Proofs.Convert.Node
import SelectionAlgebra.Proofs.Selection.Tuples

/-!
Converted arrays hold whole tuples. From an array of a dataset the tuples at given positions are
taken one after the other, and what is left over at its end, short of a tuple, belongs to none.
-/

namespace SelectionAlgebra

/-! ## Whole tuples -/

/-- The values cut into tuples from the front on, for as long as they last. -/
def wholeTuples {α : Type} (components : Nat) (values : List α) : List (List α) :=
  if 0 < components ∧ components ≤ values.length then
    values.take components :: wholeTuples components (values.drop components)
  else []
termination_by values.length

theorem getElem?_wholeTuples {α : Type} {components : Nat} (several : 0 < components)
    (values : List α) (t : Nat) :
    (wholeTuples components values)[t]? =
      if (t + 1) * components ≤ values.length then
        some ((values.drop (t * components)).take components)
      else none := by
  fun_induction wholeTuples components values generalizing t with
  | case1 values fits ih =>
    cases t with
    | zero => simp [fits.2]
    | succ t =>
      have rest : (t + 1) * components ≤ values.length - components ↔
          (t + 1 + 1) * components ≤ values.length := by
        have long := fits.2
        rw [Nat.succ_mul (t + 1)]
        omega
      have skipped : components + t * components = (t + 1) * components := by
        rw [Nat.succ_mul, Nat.add_comm]
      rw [List.getElem?_cons_succ, ih, List.length_drop, List.drop_drop, skipped]
      simp only [rest]
  | case2 values none =>
    have short : values.length < components := by omega
    have beyond : ¬ (t + 1) * components ≤ values.length := by
      rw [Nat.succ_mul]
      omega
    rw [List.getElem?_nil, if_neg beyond]

theorem gatherTuples_eq {α : Type} {components : Nat} (several : 0 < components)
    (values : List α) (positions : List Nat) :
    gatherTuples values components positions =
      (positions.filterMap fun t => (wholeTuples components values)[t]?).flatten := by
  simp only [getElem?_wholeTuples several]
  induction positions with
  | nil => rfl
  | cons t rest ih =>
    rw [gatherTuples] at ih ⊢
    rw [List.flatMap_cons, ih, List.filterMap_cons]
    split <;> rfl

def Data.mapValues (change : {α : Type} → List α → List α) : Data → Data
  | ids values => ids (change values)
  | ints values => ints (change values)
  | doubles values => doubles (change values)
  | strings values => strings (change values)

theorem Data.gather_eq {components : Nat} (several : 0 < components) (data : Data)
    (positions : List Nat) :
    data.gather components positions = data.mapValues fun values =>
      (positions.filterMap fun t => (wholeTuples components values)[t]?).flatten := by
  cases data <;> simp only [gather, mapValues, gatherTuples_eq several]

def TupleArray.pick (array : TupleArray) (positions : List Nat) : TupleArray :=
  { array with
    data := array.data.mapValues fun values =>
      (positions.filterMap fun t => (wholeTuples array.components values)[t]?).flatten }

namespace Node

theorem gatherArray_eq_pick {array : TupleArray} (several : 0 < array.components)
    (positions : List Nat) : gatherArray array positions = .ok (array.pick positions) := by
  rw [gatherArray_of_several several, Data.gather_eq several]
  rfl

end Node

theorem TupleArray.wellShaped_pick {array : TupleArray} (several : 0 < array.components)
    (positions : List Nat) : (array.pick positions).WellShaped where
  positive := several
  whole := by
    rw [pick, ← Data.gather_eq several]
    exact array.data.dvd_size_gather array.components positions

/-! ## Converted lists -/

/-- There is at least one component to each tuple of what the dataset has about this kind of entity,
even where the last tuple is incomplete. -/
structure Dataset.Grouped (dataset : Dataset) (entity : Entity) : Prop where
  arrays (name : String) : ∀ array, dataset.array? entity name = some array → 0 < array.components
  globalIds : ∀ ids, dataset.globalIds? entity = some ids → 0 < ids.components
  pedigreeIds : ∀ ids, dataset.pedigreeIds? entity = some ids → 0 < ids.components

namespace Node

variable {node : Node} {dataset : Dataset} {options : ConvertOptions} {found : List Nat}

def pickRequired (entity : Entity) (name : String) (part : Option TupleArray)
    (positions : List Nat) : Except SelectionError TupleArray :=
  (required entity name part).map fun array => array.pick positions

/-- The lists that describe the entities at the given positions, as they are where no check of what
is gathered comes in between. -/
def pickArrays (node : Node) (target : Content) (positions : List Nat) (dataset : Dataset)
    (options : ConvertOptions) : Except SelectionError (List TupleArray) :=
  match target with
  | .indices => .ok [.ofIds (positions.filterMap indexId?)]
  | .globalIds =>
    (pickRequired node.entity Dataset.globalIdsName (dataset.globalIds? node.entity) positions).map
      fun array => [array]
  | .pedigreeIds =>
    (pickRequired node.entity Dataset.pedigreeIdsName (dataset.pedigreeIds? node.entity)
      positions).map fun array => [array]
  | .values => do
    let names ← node.valueNames options
    names.mapM fun name =>
      pickRequired node.entity name (dataset.array? node.entity name) positions
  | .frustum | .locations | .thresholds | .blocks | .blockSelectors | .query | .user =>
    .error (.incompatible .convert node.content target)

theorem gatherRequired_eq_pick {part : Option TupleArray}
    (several : ∀ array, part = some array → 0 < array.components) (entity : Entity) (name : String)
    (positions : List Nat) :
    (required entity name part >>= fun array => gatherArray array positions) =
      pickRequired entity name part positions := by
  cases part with
  | none => rfl
  | some array => exact gatherArray_eq_pick (several array rfl) positions

theorem listRequired_eq_pick {part : Option TupleArray}
    (several : ∀ array, part = some array → 0 < array.components) (entity : Entity) (name : String)
    (positions : List Nat) :
    (do let array ← required entity name part
        return [← gatherArray array positions]) =
      (pickRequired entity name part positions).map fun array => [array] := by
  rw [← gatherRequired_eq_pick several]
  cases part with
  | none => rfl
  | some array =>
    change (do return [← gatherArray array positions]) = (gatherArray array positions).map _
    cases gatherArray array positions <;> rfl

/-- The check of what is gathered never fails. -/
theorem listArrays_eq_pick (grouped : dataset.Grouped node.entity) (target : Content) :
    node.listArrays target found dataset options =
      node.pickArrays target found dataset options := by
  cases target with
  | globalIds => exact listRequired_eq_pick grouped.globalIds ..
  | pedigreeIds => exact listRequired_eq_pick grouped.pedigreeIds ..
  | values =>
    have step : (fun name => required node.entity name (dataset.array? node.entity name) >>=
        fun array => gatherArray array found) = fun name =>
        pickRequired node.entity name (dataset.array? node.entity name) found := by
      funext name
      exact gatherRequired_eq_pick (grouped.arrays name) ..
    rw [pickArrays, ← step]
    rfl
  | indices => rfl
  | frustum | locations | thresholds | blocks | blockSelectors | query | user => rfl

theorem wellShaped_of_pickRequired {entity : Entity} {name : String} {part : Option TupleArray}
    (several : ∀ array, part = some array → 0 < array.components) {array : TupleArray}
    (picked : pickRequired entity name part found = .ok array) : array.WellShaped := by
  obtain ⟨present, there, rfl⟩ := map_eq_ok_iff.mp picked
  exact TupleArray.wellShaped_pick (several present ((required_eq_ok_iff ..).mp there)) found

theorem wellShaped_of_pickArrays (grouped : dataset.Grouped node.entity) {target : Content}
    {arrays : List TupleArray}
    (picked : node.pickArrays target found dataset options = .ok arrays) :
    ∀ array ∈ arrays, array.WellShaped := by
  intro array member
  cases target with
  | indices =>
    cases picked
    cases List.mem_singleton.mp member
    exact ⟨Nat.one_pos, Nat.one_dvd _⟩
  | globalIds =>
    obtain ⟨ids, made, rfl⟩ := map_eq_ok_iff.mp picked
    cases List.mem_singleton.mp member
    exact wellShaped_of_pickRequired grouped.globalIds made
  | pedigreeIds =>
    obtain ⟨ids, made, rfl⟩ := map_eq_ok_iff.mp picked
    cases List.mem_singleton.mp member
    exact wellShaped_of_pickRequired grouped.pedigreeIds made
  | values =>
    obtain ⟨names, -, passed⟩ := bind_eq_ok_iff.mp picked
    obtain ⟨name, -, made⟩ := exists_of_mem_mapM passed member
    exact wellShaped_of_pickRequired (grouped.arrays name) made
  | frustum | locations | thresholds | blocks | blockSelectors | query | user => cases picked

theorem arrays_of_convert (grouped : dataset.Grouped node.entity) {target : Content}
    {converted : Node} (other : node.isConverted target options = false)
    (converts : (node.convert target dataset options).result = .ok converted) :
    converted.arrays = [] ∨ ∃ found, node.resolve dataset options = .ok found ∧
      node.pickArrays target found dataset options = .ok converted.arrays := by
  rcases of_convert other converts with strict | ⟨e, -, -, rfl⟩
  · obtain ⟨found, resolved, arrays, listed, rfl⟩ := convertStrict_eq_ok_iff.mp strict
    exact .inr ⟨found, resolved, (listArrays_eq_pick grouped target).symm.trans listed⟩
  · exact .inl rfl

end Node

/-- Arrays of whole tuples stay such. After any work on nodes and selections every list is one that
was there, its values aside, or has been moved away; what is worked on keeps its shape in its place.
What a conversion takes from a dataset are the whole tuples at the positions found, in their order,
even where an array ends in a part of a tuple, so the check for whole tuples never refuses it. -/
theorem tuples_kept (start : Workbench)
    (shaped : ∀ arrays, start.Lists arrays → ∀ array ∈ arrays, array.WellShaped)
    (works : List Work) (node : Node) (dataset : Dataset)
    (grouped : dataset.Grouped node.entity) (target : Content) (options : ConvertOptions) :
    (∀ arrays, (start.run works).Lists arrays →
      (∀ array ∈ arrays, array.WellShaped) ∧
      (arrays = [] ∨ ∃ former, start.Lists former ∧
        arrays.map TupleArray.shape = former.map TupleArray.shape)) ∧
    ((∀ other : Node, (node.union other).2.shape = node.shape ∧
        (node.subtract other).2.shape = node.shape) ∧
      ∀ s : Selection, s.Grows [node] (s.unionNode node).2 ∧
        Selection.outline (s.subtractNode node).2.nodes = Selection.outline s.nodes ∧
        ∀ other : Selection, s.Grows (other.nodes.map Named.value) (s.union other).2 ∧
          Selection.outline (s.subtract other).2.nodes = Selection.outline s.nodes) ∧
    (∀ array : TupleArray, 0 < array.components → ∀ positions,
      array.data.gather array.components positions = (array.pick positions).data ∧
        (array.pick positions).WellShaped) ∧
    (∀ found, node.listArrays target found dataset options =
      node.pickArrays target found dataset options) ∧
    ∀ converted, node.isConverted target options = false →
      (node.convert target dataset options).result = .ok converted →
      (∀ array ∈ converted.arrays, array.WellShaped) ∧
      (converted.arrays = [] ∨ ∃ found, node.resolve dataset options = .ok found ∧
        node.pickArrays target found dataset options = .ok converted.arrays) := by
  refine ⟨?_, ⟨fun other => ⟨node.shape_union other, node.shape_subtract other⟩, fun s =>
    ⟨s.grows_unionNode node, s.outline_subtractNode node, fun other =>
      ⟨s.grows_union other, s.outline_subtract other⟩⟩⟩, ?_, ?_, ?_⟩
  · intro arrays held
    have whole := (start.all_iff.mpr shaped).run keptByNodes_wellShaped works
    have known : start.All fun arrays => arrays = [] ∨ ∃ former, start.Lists former ∧
        arrays.map TupleArray.shape = former.map TupleArray.shape :=
      start.all_iff.mpr fun arrays held => .inr ⟨arrays, held, rfl⟩
    have shapes := known.run (keptByNodes_shapes fun shapes => ∃ former, start.Lists former ∧
      shapes = former.map TupleArray.shape) works
    exact ⟨(Workbench.all_iff _).mp whole arrays held, (Workbench.all_iff _).mp shapes arrays held⟩
  · intro array several positions
    rw [Data.gather_eq several]
    exact ⟨rfl, TupleArray.wellShaped_pick several positions⟩
  · exact fun found => Node.listArrays_eq_pick grouped target
  · intro converted other converts
    have made := Node.arrays_of_convert grouped other converts
    refine ⟨?_, made⟩
    rcases made with none | ⟨found, -, picked⟩
    · rw [none]
      exact List.forall_mem_nil _
    · exact Node.wellShaped_of_pickArrays grouped picked

/-- Pairs of one node come to another one and are moved on to a third. A conversion lists a whole
pair of a dataset and leaves out the half of one that follows it. -/
theorem tuples_kept_pairs :
    let pairs (values : List Int32) : TupleArray :=
      { name := some "pair", components := 2, data := .ints values }
    let node (values : List Int32) : Node := .ofValues .cell "pair" (.ints values)
    let start : Workbench := {
      nodes := fun name =>
        { node [] with arrays := [pairs (if name = "first" then [1, 2, 3, 4] else [5, 6])] }
      selections := fun _ => .empty }
    let works : List Work := [.unite "first" "second", .move "third" "first"]
    let dataset := (Dataset.empty.setArray .cell (pairs [7, 8, 9])).setCount .cell 2
    let listed : Node := .ofIds .indices .cell [0, 1]
    let options : ConvertOptions := { arrayNames := ["pair"] }
    ((start.run works).nodes "third").arrays = [pairs [1, 2, 3, 4, 5, 6]] ∧
      (pairs [1, 2, 3, 4, 5, 6]).WellShaped ∧ ¬ (pairs [7, 8, 9]).WellShaped ∧
      (listed.convert .values dataset options).result =
        .ok { listed.convertedBare .values with arrays := [pairs [7, 8]] } ∧
      (pairs [7, 8]).WellShaped := by
  intro pairs node start works dataset listed options
  have shaped : ∀ arrays, start.Lists arrays → ∀ array ∈ arrays, array.WellShaped := by
    refine start.all_iff.mp ⟨fun name => List.forall_mem_singleton.mpr ⟨Nat.two_pos, ?_⟩,
      fun _ => List.forall_mem_nil _⟩
    change 2 ∣ (if name = "first" then [1, 2, 3, 4] else [5, 6] : List Int32).length
    split <;> decide
  have grouped : dataset.Grouped listed.entity := by
    refine ⟨fun name array present => ?_, by decide, by decide⟩
    have first : [pairs [7, 8, 9]].find? (fun array => array.name = some name) = some array :=
      present
    rw [List.mem_singleton.mp (List.mem_of_find?_eq_some first)]
    exact Nat.two_pos
  obtain ⟨kept, -, -, -, converts⟩ :=
    tuples_kept start shaped works listed dataset grouped .values options
  have moved : ((start.run works).nodes "third").arrays = [pairs [1, 2, 3, 4, 5, 6]] := by decide
  have made : (listed.convert .values dataset options).result =
      .ok { listed.convertedBare .values with arrays := [pairs [7, 8]] } := by decide
  refine ⟨moved, (kept _ (.inl ⟨"third", moved⟩)).1 _ List.mem_cons_self, ?_, made,
    (converts _ rfl made).1 _ List.mem_cons_self⟩
  rintro ⟨-, whole⟩
  exact absurd whole (by decide)

end SelectionAlgebra
