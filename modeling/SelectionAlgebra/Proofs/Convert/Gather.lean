import SelectionAlgebra.Convert.Node
import SelectionAlgebra.Proofs.Resolve.Lists

/-!
Gathered values. Of an array of single values, the values at the given positions are taken, and
those positions that lie beyond the array are passed over. Of an array of tuples, the tuples at the
given positions are taken with all their values.
-/

namespace SelectionAlgebra

theorem gatherTuples_single {α : Type} (values : List α) (positions : List Nat) :
    gatherTuples values 1 positions = positions.filterMap fun i => values[i]? := by
  rw [gatherTuples, List.filterMap_eq_flatMap_toList]
  apply List.flatMap_congr
  intro i _
  by_cases inside : i < values.length
  · have fits : (i + 1) * 1 ≤ values.length := by omega
    rw [if_pos fits, Nat.mul_one, List.drop_eq_getElem_cons inside,
      List.getElem?_eq_getElem inside]
    rfl
  · have beyond : ¬ (i + 1) * 1 ≤ values.length := by omega
    rw [if_neg beyond, List.getElem?_eq_none (Nat.le_of_not_lt inside)]
    rfl

theorem mem_gatherTuples_iff {α : Type} {values : List α} {components : Nat} {positions : List Nat}
    {v : α} (several : 0 < components) :
    v ∈ gatherTuples values components positions ↔
      ∃ i ∈ positions, i < values.length / components ∧
        ∃ k < components, values[i * components + k]? = some v := by
  rw [gatherTuples, List.mem_flatMap]
  refine exists_congr fun i => and_congr_right fun _ => ?_
  rw [Nat.lt_iff_add_one_le, Nat.le_div_iff_mul_le several]
  split
  · rename_i fits
    simp [fits, List.mem_iff_getElem?, List.getElem?_take]
  · rename_i beyond
    simp [beyond]

namespace Data

theorem elementType_gather (data : Data) (components : Nat) (positions : List Nat) :
    (data.gather components positions).elementType = data.elementType := by
  cases data <;> rfl

theorem keys_gather (data : Data) (positions : List Nat) :
    (data.gather 1 positions).keys = positions.filterMap data.keyAt? := by
  cases data
  all_goals
    simp only [gather, keys, gatherTuples_single, List.map_filterMap]
    rfl

theorem exists_keyAt? {data : Data} {i : Nat} (inside : i < data.size) :
    ∃ key, data.keyAt? i = some key := by
  cases data with
  | ids values | ints values | doubles values | strings values =>
    exact ⟨_, congrArg (Option.map _) (List.getElem?_eq_getElem inside)⟩

theorem mem_keys_gather_iff {data : Data} {components : Nat} {positions : List Nat} {key : Key}
    (several : 0 < components) :
    key ∈ (data.gather components positions).keys ↔
      ∃ i ∈ positions, i < data.size / components ∧
        ∃ k < components, data.keyAt? (i * components + k) = some key := by
  cases data with
  | ids values | ints values | doubles values | strings values =>
    simp only [gather, keys, keyAt?, size, List.mem_map, mem_gatherTuples_iff several,
      Option.map_eq_some_iff]
    constructor
    · rintro ⟨v, ⟨i, member, whole, k, inside, value⟩, same⟩
      exact ⟨i, member, whole, k, inside, v, value, same⟩
    · rintro ⟨i, member, whole, k, inside, v, value, same⟩
      exact ⟨v, ⟨i, member, whole, k, inside, value⟩, same⟩

theorem idAt?_eq (data : Data) (i : Nat) :
    data.idAt? i = (data.keyAt? i).bind Key.listedId? := by
  cases data with
  | ids values | ints values | doubles values | strings values =>
    simp only [idAt?, keyAt?]
    cases values[i]? <;> rfl

theorem listedIds_gather (data : Data) (positions : List Nat) :
    (data.gather 1 positions).listedIds = positions.filterMap data.idAt? := by
  rw [listedIds_eq, keys_gather, List.filterMap_filterMap]
  simp only [idAt?_eq]

end Data

theorem dvd_length_gatherTuples {α : Type} (values : List α) (components : Nat)
    (positions : List Nat) : components ∣ (gatherTuples values components positions).length := by
  induction positions with
  | nil => exact Nat.dvd_zero components
  | cons t rest ih =>
    rw [gatherTuples, List.flatMap_cons, List.length_append]
    refine Nat.dvd_add ?_ ih
    split
    · rename_i fits
      have long : components ≤ values.length - t * components := by
        rw [Nat.succ_mul] at fits
        omega
      have taken : ((values.drop (t * components)).take components).length = components := by
        rw [List.length_take, List.length_drop, Nat.min_eq_left long]
      exact ⟨1, by rw [taken, Nat.mul_one]⟩
    · exact Nat.dvd_zero components

theorem Data.dvd_size_gather (data : Data) (components : Nat) (positions : List Nat) :
    components ∣ (data.gather components positions).size := by
  cases data <;> exact dvd_length_gatherTuples ..

namespace Node

/-- What is gathered makes up tuples again, so it is never refused. -/
theorem gatherArray_of_several {array : TupleArray} (several : 0 < array.components)
    (positions : List Nat) :
    gatherArray array positions =
      .ok { array with data := array.data.gather array.components positions } := by
  have whole := array.data.dvd_size_gather array.components positions
  rw [gatherArray, TupleArray.ofTuples, if_neg (Nat.ne_of_gt several),
    if_neg (not_not.mpr (Nat.mod_eq_zero_of_dvd whole))]

theorem gatherArray_single {array : TupleArray} (single : array.components = 1)
    (positions : List Nat) :
    gatherArray array positions = .ok { array with data := array.data.gather 1 positions } := by
  rw [gatherArray_of_several (single ▸ Nat.one_pos), single]

end Node

end SelectionAlgebra
