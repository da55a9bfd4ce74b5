import SelectionAlgebra.Proofs.Double.Rounding
import SelectionAlgebra.Proofs.Resolve.Labels

/-!
Ranges over whole numbers. Ids and integers are compared with the ends of the listed ranges as
doubles. The ends are inclusive, so a value inside a range is always found, and one outside only if
it is rounded to the same double as an end. Up to `2 ^ 53` there are no such values.
-/

namespace SelectionAlgebra

def Data.IsWhole (data : Data) : Prop :=
  data.elementType = .id ∨ data.elementType = .int

/-- All ids are doubles. Integers always are. -/
def Data.FitsDouble (data : Data) : Prop :=
  ∀ ids, data.ids? = some ids → ∀ id ∈ ids, id.toInt.natAbs ≤ 2 ^ 53

namespace Data

theorem IsWhole.ne_string {data : Data} (whole : data.IsWhole) : data.elementType ≠ .string := by
  rcases whole with type | type <;> simp [type]

theorem doubleAt?_of_isWhole {data : Data} (whole : data.IsWhole) (i : Nat) :
    data.doubleAt? i = (data.idAt? i).map fun v => .ofInt v.toInt := by
  cases data with
  | ids values => rfl
  | ints values =>
    rw [doubleAt?, idAt?, Option.map_map]
    congr 1
    funext v
    exact congrArg Double.ofInt (Int32.toInt_toInt64 v).symm
  | doubles values => rcases whole with type | type <;> cases type
  | strings values => rcases whole with type | type <;> cases type

theorem lt_size_of_idAt? {data : Data} {i : Nat} {v : Int64} (present : data.idAt? i = some v) :
    i < data.size := by
  cases data with
  | ids values => exact (List.getElem?_eq_some_iff.mp present).1
  | ints values =>
    obtain ⟨n, there, -⟩ := Option.map_eq_some_iff.mp present
    exact (List.getElem?_eq_some_iff.mp there).1
  | doubles values => cases present
  | strings values => cases present

theorem FitsDouble.natAbs_le {data : Data} (fits : data.FitsDouble) {i : Nat} {v : Int64}
    (present : data.idAt? i = some v) : v.toInt.natAbs ≤ 2 ^ 53 := by
  cases data with
  | ids values => exact fits values rfl v (List.mem_of_getElem? present)
  | ints values =>
    obtain ⟨n, -, rfl⟩ := Option.map_eq_some_iff.mp present
    rw [Int32.toInt_toInt64]
    have low := n.le_toInt
    have high := n.toInt_lt
    omega
  | doubles values => cases present
  | strings values => cases present

end Data

theorem natAbs_toInt_lt (v : Int64) : v.toInt.natAbs < 2 ^ 64 := by
  have low := v.le_toInt
  have high := v.toInt_lt
  omega

/-- A pair that the array lists has the value between its ends, all three as they are read. -/
def TupleArray.Encloses (read : Int → Int) (array : TupleArray) (v : Int64) : Prop :=
  ∃ t low high, array.data.idAt? (2 * t) = some low ∧ array.data.idAt? (2 * t + 1) = some high ∧
    read low.toInt ≤ read v.toInt ∧ read v.toInt ≤ read high.toInt

namespace Node

section

variable {wanted present : TupleArray}

theorem mem_listedRanges_iff (pairs : wanted.components = 2) (whole : wanted.data.IsWhole)
    (range : Double × Double) :
    range ∈ listedRanges wanted ↔
      ∃ t low high, wanted.data.idAt? (2 * t) = some low ∧
        wanted.data.idAt? (2 * t + 1) = some high ∧
        range = (.ofInt low.toInt, .ofInt high.toInt) := by
  simp only [listedRanges, TupleArray.tupleCount, pairs, Data.doubleAt?_of_isWhole whole,
    List.mem_filterMap, List.mem_range]
  constructor
  · rintro ⟨t, -, listed⟩
    obtain ⟨x, first, listed⟩ := Option.bind_eq_some_iff.mp listed
    obtain ⟨y, second, listed⟩ := Option.bind_eq_some_iff.mp listed
    obtain ⟨low, start, rfl⟩ := Option.map_eq_some_iff.mp first
    obtain ⟨high, stop, rfl⟩ := Option.map_eq_some_iff.mp second
    exact ⟨t, low, high, start, stop, (Option.some.inj listed).symm⟩
  · rintro ⟨t, low, high, start, stop, rfl⟩
    -- the pair is whole, since its second number is there
    have inside := Data.lt_size_of_idAt? stop
    refine ⟨t, by omega, ?_⟩
    rw [start, stop]
    rfl

theorem rangeTest_whole_iff (pairs : wanted.components = 2) (whole : wanted.data.IsWhole)
    (wholeToo : present.data.IsWhole) (component i : Nat) :
    rangeTest wanted present component i = true ↔
      ∃ v, present.data.idAt? (i * present.components + component) = some v ∧
        wanted.Encloses Double.nearestInt v := by
  have between (low v high : Int64) :
      ((Double.ofInt low.toInt).le (.ofInt v.toInt) &&
          (Double.ofInt v.toInt).le (.ofInt high.toInt)) = true ↔
        Double.nearestInt low.toInt ≤ Double.nearestInt v.toInt ∧
          Double.nearestInt v.toInt ≤ Double.nearestInt high.toInt := by
    rw [Bool.and_eq_true, Double.le_ofInt_iff (natAbs_toInt_lt low) (natAbs_toInt_lt v),
      Double.le_ofInt_iff (natAbs_toInt_lt v) (natAbs_toInt_lt high)]
  rw [rangeTest_eq_true_iff]
  simp only [Data.doubleAt?_of_isWhole wholeToo, Option.map_eq_some_iff,
    mem_listedRanges_iff pairs whole]
  constructor
  · rintro ⟨x, ⟨v, there, rfl⟩, range, ⟨t, low, high, start, stop, rfl⟩, within⟩
    exact ⟨v, there, t, low, high, start, stop, (between low v high).mp within⟩
  · rintro ⟨v, there, t, low, high, start, stop, within⟩
    exact ⟨_, ⟨v, there, rfl⟩, _, ⟨t, low, high, start, stop, rfl⟩,
      (between low v high).mpr within⟩

end

section

variable (node : Node) (dataset : Dataset) (component : Nat)

def Namesakes (wanted present : TupleArray) : Prop :=
  wanted ∈ node.arrays ∧
    ∃ name, wanted.name = some name ∧ dataset.array? node.entity name = some present

/-- All lists are pairs of whole numbers that belong to a component of whole numbers. -/
def RangesOverWhole : Prop :=
  ∀ wanted ∈ node.arrays, wanted.components = 2 ∧ wanted.data.IsWhole ∧
    ∃ present, node.Namesakes dataset wanted present ∧ present.data.IsWhole ∧
      component < present.components

/-- The entity has a value that is enclosed by a listed range, numbers being read in some way. -/
def InRange (read : Int → Int) (i : Nat) : Prop :=
  ∃ wanted present v, node.Namesakes dataset wanted present ∧
    present.data.idAt? (i * present.components + component) = some v ∧ wanted.Encloses read v

def RangesFitDouble : Prop :=
  ∀ wanted present, node.Namesakes dataset wanted present →
    wanted.data.FitsDouble ∧ present.data.FitsDouble

end

variable {node : Node} {dataset : Dataset} {component : Nat}

theorem InRange.nearest {i : Nat} (inRange : node.InRange dataset component id i) :
    node.InRange dataset component Double.nearestInt i := by
  obtain ⟨wanted, present, v, related, there, t, low, high, start, stop, above, below⟩ := inRange
  exact ⟨wanted, present, v, related, there, t, low, high, start, stop,
    Double.nearestInt_mono above, Double.nearestInt_mono below⟩

theorem InRange.exact (fits : node.RangesFitDouble dataset) {i : Nat}
    (inRange : node.InRange dataset component Double.nearestInt i) :
    node.InRange dataset component id i := by
  obtain ⟨wanted, present, v, related, there, t, low, high, start, stop, within⟩ := inRange
  obtain ⟨listed, held⟩ := fits wanted present related
  rw [Double.nearestInt_of_le (listed.natAbs_le start),
    Double.nearestInt_of_le (held.natAbs_le there),
    Double.nearestInt_of_le (listed.natAbs_le stop)] at within
  exact ⟨wanted, present, v, related, there, t, low, high, start, stop, within⟩

theorem component_of_toInt (looked : (node.properties.componentNumber?.getD 0).toInt = component) :
    node.component = .ok component := by
  have nonnegative : ¬ node.properties.componentNumber?.getD 0 < 0 := by
    rw [Int32.lt_iff_toInt_lt, looked]
    exact Int.not_lt.mpr (Int.natCast_nonneg component)
  rw [Node.component]
  simp only [if_neg nonnegative, looked, Int.toNat_natCast]

theorem Namesakes.unique {wanted present other : TupleArray}
    (related : node.Namesakes dataset wanted present)
    (relatedToo : node.Namesakes dataset wanted other) : present = other := by
  obtain ⟨-, name, called, found⟩ := related
  obtain ⟨-, again, calledToo, foundToo⟩ := relatedToo
  cases called.symm.trans calledToo
  exact Option.some.inj (found.symm.trans foundToo)

theorem exists_thresholdArrayTest (typed : node.RangesOverWhole dataset component)
    {wanted : TupleArray} (member : wanted ∈ node.arrays) :
    ∃ present test, node.Namesakes dataset wanted present ∧
      thresholdArrayTest node.entity dataset component wanted = .ok test ∧
      ∀ i, test i = true ↔
        ∃ v, present.data.idAt? (i * present.components + component) = some v ∧
          wanted.Encloses Double.nearestInt v := by
  obtain ⟨pairs, whole, present, related, wholeToo, inside⟩ := typed wanted member
  have ⟨_, name, called, found⟩ := related
  exact ⟨present, rangeTest wanted present component, related,
    (thresholdArrayTest_eq_ok_iff ..).mpr
      ⟨name, present, called, ⟨pairs, whole.ne_string⟩, found, ⟨wholeToo.ne_string, inside⟩, rfl⟩,
    rangeTest_whole_iff pairs whole wholeToo component⟩

theorem exists_thresholdTest (typed : node.RangesOverWhole dataset component)
    (looked : (node.properties.componentNumber?.getD 0).toInt = component) :
    ∃ test, node.thresholdTest dataset = .ok test ∧
      ∀ i, test i = true ↔ node.InRange dataset component Double.nearestInt i := by
  obtain ⟨tests, accepted⟩ := exists_mapM_eq_ok
    (f := thresholdArrayTest node.entity dataset component) fun wanted member =>
      (exists_thresholdArrayTest typed member).elim fun _ ⟨test, facts⟩ => ⟨test, facts.2.1⟩
  refine ⟨.any tests, (componentTest_eq_ok_iff ..).mpr
    ⟨component, component_of_toInt looked, tests, accepted, rfl⟩, fun i => ?_⟩
  -- tests correspond to list arrays, and these to the arrays of their names
  rw [EntityTest.any, List.any_eq_true]
  constructor
  · rintro ⟨test, listed, selected⟩
    obtain ⟨wanted, member, tested⟩ := exists_of_mem_mapM accepted listed
    obtain ⟨present, again, related, testedToo, reads⟩ := exists_thresholdArrayTest typed member
    cases tested.symm.trans testedToo
    obtain ⟨v, there, encloses⟩ := (reads i).mp selected
    exact ⟨wanted, present, v, related, there, encloses⟩
  · rintro ⟨wanted, present, v, related, there, encloses⟩
    obtain ⟨test, listed, tested⟩ := exists_of_mapM_eq_ok accepted related.1
    obtain ⟨other, again, relatedToo, testedToo, reads⟩ := exists_thresholdArrayTest typed related.1
    cases tested.symm.trans testedToo
    cases related.unique relatedToo
    exact ⟨test, listed, (reads i).mpr ⟨v, there, encloses⟩⟩

/-- Ranges over ids and integers select by their values as doubles. What lies in a listed range is
selected, and nothing else while doubles hold all numbers in question; a greater id is selected as
well if it is rounded to an end of a range. -/
theorem resolve_thresholds_rounded (node : Node) (dataset : Dataset) (options : ConvertOptions)
    (component : Nat) (kind : node.content = .thresholds)
    (plain : node.properties.inverse = false)
    (looked : (node.properties.componentNumber?.getD 0).toInt = component)
    (typed : node.RangesOverWhole dataset component) :
    ∃ found, node.resolve dataset options = .ok found ∧
      (∀ i, i ∈ found ↔
        i < dataset.size node.entity ∧ node.InRange dataset component Double.nearestInt i) ∧
      (∀ i < dataset.size node.entity, node.InRange dataset component id i → i ∈ found) ∧
      (node.RangesFitDouble dataset → ∀ i, i ∈ found ↔
        i < dataset.size node.entity ∧ node.InRange dataset component id i) := by
  obtain ⟨test, tested, inRange⟩ := exists_thresholdTest typed looked
  have accepted : node.listTest dataset options = .ok test := by
    rw [listTest, kind]
    exact tested
  obtain ⟨found, resolved, inside⟩ := resolve_of_listTest plain accepted
  simp only [inRange] at inside
  refine ⟨found, resolved, inside, fun i valid exact => (inside i).mpr ⟨valid, exact.nearest⟩, ?_⟩
  intro fits i
  rw [inside]
  exact and_congr_right fun _ => ⟨InRange.exact fits, InRange.nearest⟩

/-- Two ranges of ids over the second one of two integers. -/
theorem resolve_thresholds_rounded_second :
    let ranges : TupleArray := { name := some "x", components := 2, data := .ids [2, 4, 7, 9] }
    let pairs : TupleArray :=
      { name := some "x", components := 2, data := .ints [5, 0, 0, 3, 9, 7] }
    let dataset := Dataset.empty.setArray .cell pairs
    let node : Node :=
      { Node.bare .thresholds .cell with
        arrays := [ranges], properties := .ofList [.componentNumber 1] }
    node.resolve dataset {} = .ok [1, 2] ∧
      ∀ i, i ∈ [1, 2] ↔ i < 3 ∧ node.InRange dataset 1 id i := by
  intro ranges pairs dataset node
  have found : dataset.array? node.entity "x" = some pairs := by decide
  have typed : node.RangesOverWhole dataset 1 := by
    intro wanted member
    obtain rfl := List.mem_singleton.mp member
    exact ⟨rfl, .inl rfl, pairs, ⟨member, "x", rfl, found⟩, .inr rfl, by decide⟩
  have fits : node.RangesFitDouble dataset := by
    intro wanted present related
    obtain rfl := List.mem_singleton.mp related.1
    obtain rfl := related.unique ⟨related.1, "x", rfl, found⟩
    constructor
    · rintro _ ⟨⟩ id member
      simp only [List.mem_cons, List.not_mem_nil, or_false] at member
      rcases member with rfl | rfl | rfl | rfl <;> decide
    · rintro _ ⟨⟩
  obtain ⟨selected, resolved, -, -, exact⟩ :=
    resolve_thresholds_rounded node dataset {} 1 rfl rfl rfl typed
  have again : node.resolve dataset {} = .ok [1, 2] := by decide +kernel
  have size : dataset.size node.entity = 3 := by decide
  cases resolved.symm.trans again
  exact ⟨again, size ▸ exact fits⟩

/-- The first odd number that no double holds is rounded to the even number before it. -/
theorem not_resolve_thresholds_exact :
    ¬ ∀ (node : Node) (dataset : Dataset) (options : ConvertOptions) (component : Nat),
      node.content = .thresholds → node.properties.inverse = false →
      (node.properties.componentNumber?.getD 0).toInt = component →
      (∀ wanted ∈ node.arrays, 2 ∣ wanted.data.size) → node.RangesOverWhole dataset component →
      ∃ found, node.resolve dataset options = .ok found ∧
        ∀ i, i ∈ found ↔
          i < dataset.size node.entity ∧ node.InRange dataset component id i := by
  intro always
  let range : TupleArray :=
    { name := some "x", components := 2, data := .ids [9007199254740993, 9007199254740993] }
  let present : TupleArray := { name := some "x", data := .ids [9007199254740992] }
  let dataset := Dataset.empty.setArray .cell present
  let node : Node := { Node.bare .thresholds .cell with arrays := [range] }
  have reads : dataset.array? node.entity "x" = some present := by decide
  have typed : node.RangesOverWhole dataset 0 := by
    intro wanted member
    obtain rfl := List.mem_singleton.mp member
    exact ⟨rfl, .inl rfl, present, ⟨member, "x", rfl, reads⟩, .inl rfl, by decide⟩
  have even : ∀ wanted ∈ node.arrays, 2 ∣ wanted.data.size := by decide
  obtain ⟨found, resolved, inside⟩ := always node dataset {} 0 rfl rfl rfl even typed
  have selected : node.resolve dataset {} = .ok [0] := by decide +kernel
  cases resolved.symm.trans selected
  obtain ⟨-, wanted, held, v, related, there, t, low, high, start, -, above, -⟩ :=
    (inside 0).mp (List.mem_singleton_self 0)
  obtain rfl := List.mem_singleton.mp related.1
  obtain rfl := related.unique ⟨related.1, "x", rfl, reads⟩
  cases there
  have listed : low ∈ [9007199254740993, 9007199254740993] := List.mem_of_getElem? start
  obtain rfl : low = 9007199254740993 := by simpa using listed
  exact absurd above (by decide)

end Node

end SelectionAlgebra
