import SelectionAlgebra.Proofs.Convert.Node

/-!
Conversion to lists of values. The tuples of the selected entities are listed as they stand in the
arrays of the dataset, and are looked up again by the first value of each tuple. No entity is lost
that has a tuple in one of the arrays; others that share a value may be added.
-/

namespace SelectionAlgebra

namespace TupleArray

def firstKey? (array : TupleArray) (i : Nat) : Option Key :=
  array.data.keyAt? (i * array.components)

def FirstWithin (array : TupleArray) (i j : Nat) : Prop :=
  ∃ key, array.firstKey? i = some key ∧
    ∃ k < array.components, array.data.keyAt? (j * array.components + k) = some key

theorem exists_firstKey? {array : TupleArray} (several : 0 < array.components) {i : Nat}
    (whole : i < array.tupleCount) : ∃ key, array.firstKey? i = some key := by
  have fits : (i + 1) * array.components ≤ array.data.size :=
    (Nat.le_div_iff_mul_le several).mp whole
  rw [Nat.succ_mul] at fits
  exact Data.exists_keyAt? (by omega)

theorem firstWithin_self {array : TupleArray} (several : 0 < array.components) {i : Nat}
    (whole : i < array.tupleCount) : array.FirstWithin i i := by
  obtain ⟨key, value⟩ := exists_firstKey? several whole
  exact ⟨key, value, 0, several, value⟩

end TupleArray

theorem Dataset.name_of_array? {dataset : Dataset} {entity : Entity} {name : String}
    {present : TupleArray} (found : dataset.array? entity name = some present) :
    present.name = some name := by
  simpa using List.find?_some found

namespace Node

variable {node : Node} {dataset : Dataset} {options : ConvertOptions} {found : List Nat}

def Reads (node : Node) (dataset : Dataset) (present : TupleArray) : Prop :=
  ∃ array ∈ node.arrays, ∃ name, array.name = some name ∧
    dataset.array? node.entity name = some present

/-- The entity has a whole tuple in one of the arrays of the dataset that the node names. -/
def Covers (node : Node) (dataset : Dataset) (i : Nat) : Prop :=
  ∃ array ∈ node.arrays, ∃ name present, array.name = some name ∧
    dataset.array? node.entity name = some present ∧ i < present.tupleCount

def Gathers (entity : Entity) (dataset : Dataset) (positions : List Nat) (array : TupleArray) :
    Prop :=
  ∃ name present, dataset.array? entity name = some present ∧ array.name = some name ∧
    array.data = present.data.gather present.components positions

theorem gatherArray_eq_ok {array gathered : TupleArray} {positions : List Nat}
    (made : gatherArray array positions = .ok gathered) :
    gathered = { array with data := array.data.gather array.components positions } := by
  unfold gatherArray TupleArray.ofTuples at made
  split at made
  · cases made
  · split at made
    · cases made
    · cases made
      rfl

theorem gathers_of_listArrays {arrays : List TupleArray}
    (listed : node.listArrays .values found dataset options = .ok arrays) :
    ∀ array ∈ arrays, Gathers node.entity dataset found array := by
  intro array member
  obtain ⟨names, -, passed⟩ := bind_eq_ok_iff.mp listed
  obtain ⟨name, -, step⟩ := exists_of_mem_mapM passed member
  obtain ⟨present, lookedUp, made⟩ := bind_eq_ok_iff.mp step
  have there := (required_eq_ok_iff ..).mp lookedUp
  have called : present.name = some name := Dataset.name_of_array? there
  rw [gatherArray_eq_ok made]
  exact ⟨name, present, there, called, rfl⟩

theorem namedArrayTest_of_gathers {entity : Entity} {array : TupleArray}
    (counted : ∀ name present, array.name = some name →
      dataset.array? entity name = some present → 0 < present.components)
    (gathers : Gathers entity dataset found array) :
    ∃ test, namedArrayTest entity dataset 0 array = .ok test := by
  obtain ⟨name, present, there, called, data⟩ := gathers
  have type : array.elementType = present.elementType := by
    rw [TupleArray.elementType, data, Data.elementType_gather]
    rfl
  exact ⟨_, (namedArrayTest_eq_ok_iff ..).mpr ⟨name, present, called, there,
    (valueTest_eq_ok_iff ..).mpr ⟨type, counted name present called there, rfl⟩⟩⟩

/-- An entity is found by the first value of its tuple, wherever that stands in what was
gathered. -/
theorem test_of_gathers_iff {entity : Entity} {array present : TupleArray} {name : String}
    {test : EntityTest} (gathers : Gathers entity dataset found array)
    (tested : namedArrayTest entity dataset 0 array = .ok test) (called : array.name = some name)
    (there : dataset.array? entity name = some present) (i : Nat) :
    test i = true ↔ ∃ j ∈ found, j < present.tupleCount ∧ present.FirstWithin i j := by
  obtain ⟨other, source, thereToo, calledToo, data⟩ := gathers
  cases called.symm.trans calledToo
  cases there.symm.trans thereToo
  obtain ⟨_, _, calledToo, thereToo, tested⟩ := (namedArrayTest_eq_ok_iff ..).mp tested
  cases called.symm.trans calledToo
  cases there.symm.trans thereToo
  obtain ⟨-, several, rfl⟩ := (valueTest_eq_ok_iff ..).mp tested
  rw [keyTest_eq_true_iff, data]
  simp only [Data.mem_keys_gather_iff several]
  constructor
  · rintro ⟨key, value, j, member, whole, within⟩
    exact ⟨j, member, whole, key, value, within⟩
  · rintro ⟨j, member, whole, key, value, within⟩
    exact ⟨key, value, j, member, whole, within⟩

theorem resolve_of_gathers (kind : node.content = .values)
    (plain : node.properties.inverse = false) (first : node.component = .ok 0)
    (counted : ∀ present, node.Reads dataset present → 0 < present.components)
    (gathers : ∀ array ∈ node.arrays, Gathers node.entity dataset found array) :
    ∃ again, node.resolve dataset options = .ok again ∧
      ∀ i, i ∈ again ↔ i < dataset.size node.entity ∧ ∃ present, node.Reads dataset present ∧
        ∃ j ∈ found, j < present.tupleCount ∧ present.FirstWithin i j := by
  obtain ⟨tests, passed⟩ : ∃ tests,
      node.arrays.mapM (namedArrayTest node.entity dataset 0) = .ok tests :=
    exists_mapM_eq_ok fun array listed => namedArrayTest_of_gathers
      (fun name present called there => counted present ⟨array, listed, name, called, there⟩)
      (gathers array listed)
  have accepted : node.listTest dataset options = .ok (.any tests) := by
    rw [listTest, kind]
    exact (componentTest_eq_ok_iff ..).mpr ⟨0, first, tests, passed, rfl⟩
  obtain ⟨again, resolved, inside⟩ := resolve_of_listTest plain accepted
  refine ⟨again, resolved, fun i => (inside i).trans (and_congr_right fun _ => ?_)⟩
  rw [EntityTest.any, List.any_eq_true]
  constructor
  · rintro ⟨test, among, hit⟩
    obtain ⟨array, listed, tested⟩ := exists_of_mem_mapM passed among
    obtain ⟨name, present, called, there, -⟩ := (namedArrayTest_eq_ok_iff ..).mp tested
    exact ⟨present, ⟨array, listed, name, called, there⟩,
      (test_of_gathers_iff (gathers array listed) tested called there i).mp hit⟩
  · rintro ⟨present, ⟨array, listed, name, called, there⟩, hit⟩
    obtain ⟨test, among, tested⟩ := exists_of_mapM_eq_ok passed listed
    exact ⟨test, among,
      (test_of_gathers_iff (gathers array listed) tested called there i).mpr hit⟩

theorem mem_resolve_convertedBare {arrays : List TupleArray}
    (counted : ∀ present, { node.convertedBare .values with arrays }.Reads dataset present →
      0 < present.components)
    (gathers : ∀ array ∈ arrays, Gathers node.entity dataset found array) :
    ∃ again, { node.convertedBare .values with arrays }.resolve dataset options = .ok again ∧
      ∀ i, i ∈ again ↔ i < dataset.size node.entity ∧
        ∃ present, { node.convertedBare .values with arrays }.Reads dataset present ∧
          ∃ j ∈ found, j < present.tupleCount ∧ present.FirstWithin i j := by
  have first : { node.convertedBare .values with arrays }.component = .ok 0 := by
    have unset : node.carriedProperties.componentNumber? = none := by
      rw [Properties.componentNumber?, get?_carriedProperties node (by simp)]
    simp only [component, convertedBare, unset]
    rfl
  have upright : { node.convertedBare .values with arrays }.properties.inverse = false :=
    node.inverse_carriedProperties
  exact resolve_of_gathers rfl upright first counted gathers

theorem resolve_convertedBare_of_gathers (resolved : node.resolve dataset options = .ok found)
    (counted : ∀ present ∈ (dataset.table node.entity).arrays, 0 < present.components)
    {arrays : List TupleArray}
    (gathers : ∀ array ∈ arrays, Gathers node.entity dataset found array) :
    ∃ again, { node.convertedBare .values with arrays }.resolve dataset options = .ok again ∧
      again.Pairwise (· < ·) ∧
      ∀ i ∈ found, { node.convertedBare .values with arrays }.Covers dataset i → i ∈ again := by
  have several (present : TupleArray)
      (reads : { node.convertedBare .values with arrays }.Reads dataset present) :
      0 < present.components := by
    obtain ⟨_, -, _, -, there⟩ := reads
    exact counted present (List.mem_of_find?_eq_some there)
  obtain ⟨again, resolvedAgain, inside⟩ := mem_resolve_convertedBare several gathers
  refine ⟨again, resolvedAgain, ascending_resolve resolvedAgain, ?_⟩
  rintro i member ⟨array, listed, name, present, called, there, whole⟩
  have reads : { node.convertedBare .values with arrays }.Reads dataset present :=
    ⟨array, listed, name, called, there⟩
  exact (inside i).mpr ⟨lt_of_mem_resolve resolved member, present, reads, i, member, whole,
    TupleArray.firstWithin_self (several present reads) whole⟩

/-- What a node selects stays selected when it is converted to values, as far as the arrays that
are listed reach. The converted node can always be resolved. -/
theorem resolve_convert_values (node : Node) (dataset : Dataset) (options : ConvertOptions)
    (found : List Nat) (converted : Node)
    (counted : ∀ present ∈ (dataset.table node.entity).arrays, 0 < present.components)
    (resolved : node.resolve dataset options = .ok found)
    (converts : (node.convert .values dataset options).result = .ok converted) :
    ∃ again, converted.resolve dataset options = .ok again ∧ again.Pairwise (· < ·) ∧
      ∀ i ∈ found, converted.Covers dataset i → i ∈ again := by
  rcases convert_eq_ok converts with rfl | strict | ⟨_, -, -, rfl⟩
  · exact ⟨found, resolved, ascending_resolve resolved, fun i member _ => member⟩
  · obtain ⟨positions, resolvedToo, rest⟩ := bind_eq_ok_iff.mp strict
    cases resolved.symm.trans resolvedToo
    obtain ⟨arrays, listed, done⟩ := bind_eq_ok_iff.mp rest
    cases done
    exact resolve_convertedBare_of_gathers resolved counted (gathers_of_listArrays listed)
  · -- a substitute for a node that was forgiven lists nothing
    exact resolve_convertedBare_of_gathers resolved counted fun _ member =>
      (List.not_mem_nil member).elim

/-- All entities but one, found by a second component, are listed by pairs of which the last one is
cut short. The same array is asked for twice. -/
theorem resolve_convert_values_pairs :
    let pairs : TupleArray :=
      { name := some "pair", components := 2, data := .ints [1, 2, 3, 4, 5, 6, 7] }
    let dataset := (Dataset.empty.setArray .cell pairs).setCount .cell 4
    let node : Node :=
      { Node.ofValues .cell "pair" (.ints [4]) with
        properties := .ofList [.inverse true, .componentNumber 1] }
    let options : ConvertOptions := { arrayNames := ["pair", "pair"] }
    let converted : Node :=
      { node.convertedBare .values with
        arrays := List.replicate 2 { pairs with data := .ints [1, 2, 5, 6] } }
    (node.convert .values dataset options).result = .ok converted ∧
      ∃ again, converted.resolve dataset options = .ok again ∧ again.Pairwise (· < ·) ∧
        0 ∈ again ∧ 2 ∈ again := by
  intro pairs dataset node options converted
  have resolved : node.resolve dataset options = .ok [0, 2, 3] := by decide
  have converts : (node.convert .values dataset options).result = .ok converted := by decide
  obtain ⟨again, resolvedAgain, ascending, kept⟩ :=
    resolve_convert_values node dataset options [0, 2, 3] converted (by decide) resolved converts
  have covers (i : Nat) (whole : i < pairs.tupleCount) : converted.Covers dataset i :=
    ⟨_, List.mem_cons_self, "pair", pairs, rfl, by decide, whole⟩
  exact ⟨converts, again, resolvedAgain, ascending, kept 0 (by decide) (covers 0 (by decide)),
    kept 2 (by decide) (covers 2 (by decide))⟩

end Node

end SelectionAlgebra
