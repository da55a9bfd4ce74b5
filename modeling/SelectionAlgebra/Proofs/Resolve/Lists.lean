import SelectionAlgebra.Proofs.Data
import SelectionAlgebra.Proofs.Failure
import SelectionAlgebra.Proofs.Node.Shape
import SelectionAlgebra.Resolve.Ranges

/-!
How single arrays are read. Each reading of an array that took in another one finds what the
readings of the two find.
-/

namespace SelectionAlgebra

def EntityTest.Joins (x y z : EntityTest) : Prop :=
  ∀ i, z i = true ↔ x i = true ∨ y i = true

/-! ## Single values -/

def Key.listedId? : Key → Option Int64
  | .id v => some v
  | .int v => some v.toInt64
  | .double _ | .text _ => none

theorem Data.listedIds_eq (data : Data) : data.listedIds = data.keys.filterMap Key.listedId? := by
  cases data <;> simp [listedIds, keys, List.filterMap_map, Function.comp_def, Key.listedId?,
    Double.key]

theorem TupleArray.mem_listedIds_absorb {array partner : TupleArray}
    (agreed : array.conflict? partner = none) (id : Int64) :
    id ∈ (array.absorb partner).data.listedIds ↔
      id ∈ array.data.listedIds ∨ id ∈ partner.data.listedIds := by
  simp only [Data.listedIds_eq, List.mem_filterMap, mem_keys_absorb agreed, or_and_right,
    exists_or]

namespace Node

def keyTest (keys : List Key) (present : TupleArray) (component : Nat) : EntityTest := fun i =>
  match present.data.keyAt? (i * present.components + component) with
  | some key => keys.contains key
  | none => false

theorem keyTest_eq_true_iff (keys : List Key) (present : TupleArray) (component i : Nat) :
    keyTest keys present component i = true ↔
      ∃ key, present.data.keyAt? (i * present.components + component) = some key ∧ key ∈ keys := by
  unfold keyTest
  cases present.data.keyAt? (i * present.components + component) <;> simp

theorem valueTest_eq_ok_iff (wanted present : TupleArray) (component : Nat) (test : EntityTest) :
    valueTest wanted present component = .ok test ↔
      wanted.elementType = present.elementType ∧ component < present.components ∧
        test = keyTest wanted.data.keys present component := by
  unfold valueTest
  rw [Data.filterMap_keyAt?]
  split
  · rename_i types
    simp [types]
  · rename_i types
    rw [ne_eq, Decidable.not_not] at types
    split
    · rename_i short
      simp [Nat.not_lt.mpr short]
    · rename_i inside
      rw [Except.ok.injEq]
      exact ⟨fun same => ⟨types, Nat.not_le.mp inside, same.symm⟩, fun facts => facts.2.2.symm⟩

theorem valueTest_absorb {wanted partner present : TupleArray} {component : Nat}
    (agreed : wanted.conflict? partner = none) {x y : EntityTest}
    (ours : valueTest wanted present component = .ok x)
    (theirs : valueTest partner present component = .ok y) :
    ∃ z, valueTest (wanted.absorb partner) present component = .ok z ∧ x.Joins y z := by
  obtain ⟨types, inside, rfl⟩ := (valueTest_eq_ok_iff ..).mp ours
  obtain ⟨-, -, rfl⟩ := (valueTest_eq_ok_iff ..).mp theirs
  refine ⟨_, (valueTest_eq_ok_iff ..).mpr
    ⟨(wanted.elementType_absorb partner).trans types, inside, rfl⟩, ?_⟩
  intro i
  simp only [keyTest_eq_true_iff, TupleArray.mem_keys_absorb agreed, and_or_left, exists_or]

theorem requiredName_eq_ok_iff (array : TupleArray) (name : String) :
    requiredName array = .ok name ↔ array.name = some name := by
  unfold requiredName
  cases array.name <;> simp

theorem required_eq_ok_iff {α : Type} (entity : Entity) (name : String) (part : Option α) (a : α) :
    required entity name part = .ok a ↔ part = some a := by
  cases part <;> simp [required]

theorem namedArrayTest_eq_ok_iff (entity : Entity) (dataset : Dataset) (component : Nat)
    (wanted : TupleArray) (test : EntityTest) :
    namedArrayTest entity dataset component wanted = .ok test ↔
      ∃ name present, wanted.name = some name ∧ dataset.array? entity name = some present ∧
        valueTest wanted present component = .ok test := by
  simp only [namedArrayTest, bind_eq_ok_iff, requiredName_eq_ok_iff, required_eq_ok_iff,
    exists_and_left]

theorem namedArrayTest_absorb {entity : Entity} {dataset : Dataset} {component : Nat}
    {wanted partner : TupleArray} (agreed : wanted.conflict? partner = none)
    (named : wanted.name = partner.name) {x y : EntityTest}
    (ours : namedArrayTest entity dataset component wanted = .ok x)
    (theirs : namedArrayTest entity dataset component partner = .ok y) :
    ∃ z, namedArrayTest entity dataset component (wanted.absorb partner) = .ok z ∧
      x.Joins y z := by
  obtain ⟨name, present, called, found, tested⟩ := (namedArrayTest_eq_ok_iff ..).mp ours
  obtain ⟨other, presentToo, calledToo, foundToo, testedToo⟩ :=
    (namedArrayTest_eq_ok_iff ..).mp theirs
  cases called.symm.trans (named.trans calledToo)
  cases found.symm.trans foundToo
  obtain ⟨z, accepted, joins⟩ := valueTest_absorb agreed tested testedToo
  exact ⟨z, (namedArrayTest_eq_ok_iff ..).mpr ⟨name, present, called, found, accepted⟩, joins⟩

/-! ## Tuples of doubles -/

def listedTuples {β : Type} (read : (Nat → Option Double) → Option β) (components : Nat)
    (data : Data) : List β :=
  (List.range (data.size / components)).filterMap fun t =>
    read fun k => data.doubleAt? (components * t + k)

/-- Where the first list ends with a whole tuple, no tuple lies across. -/
theorem listedTuples_append {β : Type} {read : (Nat → Option Double) → Option β}
    {components : Nat} (bounded : ∀ f g, (∀ k < components, f k = g k) → read f = read g)
    (positive : 0 < components) {data added : Data} (type : data.elementType = added.elementType)
    (whole : components ∣ data.size) :
    listedTuples read components (data.append added) =
      listedTuples read components data ++ listedTuples read components added := by
  obtain ⟨count, size⟩ := whole
  have total : (data.append added).size / components = count + added.size / components := by
    rw [Data.size_append type, size, Nat.mul_add_div positive]
  have first : data.size / components = count := by
    rw [size, Nat.mul_div_cancel_left count positive]
  rw [listedTuples, listedTuples, listedTuples, total, first, List.range_add, List.filterMap_append,
    List.filterMap_map]
  congr 1
  · -- a tuple of the first list ends within it, so nothing of the second one is read
    apply List.filterMap_congr
    intro t inside
    apply bounded
    intro k below
    have bound : components * (t + 1) ≤ components * count :=
      Nat.mul_le_mul_left components (List.mem_range.mp inside)
    rw [Data.doubleAt?_append type, if_pos]
    rw [size]
    rw [Nat.mul_succ] at bound
    omega
  · -- the tuples of the second list are read behind the whole of the first
    apply List.filterMap_congr
    intro t _
    apply congrArg read
    funext k
    have beyond : ¬ components * (count + t) + k < data.size := by
      rw [size, Nat.mul_add]
      omega
    have offset : components * (count + t) + k - data.size = components * t + k := by
      rw [size, Nat.mul_add]
      omega
    rw [Data.doubleAt?_append type, if_neg beyond, offset]

theorem listedTuples_absorb {β : Type} {read : (Nat → Option Double) → Option β}
    {array partner : TupleArray}
    (bounded : ∀ f g, (∀ k < array.components, f k = g k) → read f = read g)
    (several : 1 < array.components) (whole : array.components ∣ array.data.size)
    (agreed : array.conflict? partner = none) :
    listedTuples read array.components (array.absorb partner).data =
      listedTuples read array.components array.data ++
        listedTuples read array.components partner.data := by
  have type := ((TupleArray.conflict?_eq_none_iff ..).mp agreed).1
  have data : (array.absorb partner).data = array.data.append partner.data := by
    simp only [TupleArray.absorb, if_neg (Nat.ne_of_gt several)]
  rw [data, listedTuples_append bounded (Nat.zero_lt_of_lt several) type whole]

/-! ## Ranges -/

def rangeOf (value : Nat → Option Double) : Option (Double × Double) := do
  let low ← value 0
  let high ← value 1
  return (low, high)

theorem listedRanges_eq {array : TupleArray} (pairs : array.components = 2) :
    listedRanges array = listedTuples rangeOf array.components array.data := by
  rw [pairs]
  simp only [listedRanges, TupleArray.tupleCount, pairs]
  rfl

theorem listedRanges_absorb {array partner : TupleArray} (pairs : array.components = 2)
    (whole : array.components ∣ array.data.size) (agreed : array.conflict? partner = none) :
    listedRanges (array.absorb partner) = listedRanges array ++ listedRanges partner := by
  have pairsToo : partner.components = 2 :=
    ((TupleArray.conflict?_eq_none_iff ..).mp agreed).2.symm.trans pairs
  have pairsAbsorbed : (array.absorb partner).components = 2 :=
    (array.components_absorb partner).trans pairs
  rw [listedRanges_eq pairs, listedRanges_eq pairsToo, listedRanges_eq pairsAbsorbed, pairsAbsorbed,
    pairsToo, ← pairs]
  apply listedTuples_absorb _ (by omega) whole agreed
  intro f g same
  rw [rangeOf, rangeOf, same 0 (by omega), same 1 (by omega)]

theorem rangeTest_eq_true_iff (wanted present : TupleArray) (component i : Nat) :
    rangeTest wanted present component i = true ↔
      ∃ v, present.data.doubleAt? (i * present.components + component) = some v ∧
        ∃ range ∈ listedRanges wanted, (range.1.le v && v.le range.2) = true := by
  unfold rangeTest
  cases present.data.doubleAt? (i * present.components + component) <;> simp

theorem thresholdArrayTest_eq_ok_iff (entity : Entity) (dataset : Dataset) (component : Nat)
    (wanted : TupleArray) (test : EntityTest) :
    thresholdArrayTest entity dataset component wanted = .ok test ↔
      ∃ name present, wanted.name = some name ∧
        (wanted.components = 2 ∧ wanted.elementType ≠ .string) ∧
        dataset.array? entity name = some present ∧
        (present.elementType ≠ .string ∧ component < present.components) ∧
        test = rangeTest wanted present component := by
  simp only [thresholdArrayTest, bind_eq_ok_iff, requiredName_eq_ok_iff]
  constructor
  · rintro ⟨name, called, passed⟩
    split at passed
    · cases passed
    · rename_i pairs
      obtain ⟨present, found, passed⟩ := bind_eq_ok_iff.mp passed
      split at passed
      · cases passed
      · rename_i numbers
        split at passed
        · cases passed
        · rename_i inside
          cases passed
          exact ⟨name, present, called, by simpa using pairs, (required_eq_ok_iff ..).mp found,
            ⟨numbers, Nat.not_le.mp inside⟩, rfl⟩
  · rintro ⟨name, present, called, ⟨pairs, numbers⟩, found, ⟨usable, inside⟩, rfl⟩
    refine ⟨name, called, ?_⟩
    rw [if_neg (by simp [pairs, numbers]), (required_eq_ok_iff ..).mpr found]
    exact (if_neg usable).trans (if_neg (Nat.not_le.mpr inside))

theorem thresholdArrayTest_absorb {entity : Entity} {dataset : Dataset} {component : Nat}
    {wanted partner : TupleArray} (whole : wanted.components ∣ wanted.data.size)
    (agreed : wanted.conflict? partner = none) (named : wanted.name = partner.name)
    {x y : EntityTest} (ours : thresholdArrayTest entity dataset component wanted = .ok x)
    (theirs : thresholdArrayTest entity dataset component partner = .ok y) :
    ∃ z, thresholdArrayTest entity dataset component (wanted.absorb partner) = .ok z ∧
      x.Joins y z := by
  obtain ⟨name, present, called, ⟨pairs, numbers⟩, found, usable, rfl⟩ :=
    (thresholdArrayTest_eq_ok_iff ..).mp ours
  obtain ⟨other, presentToo, calledToo, -, foundToo, -, rfl⟩ :=
    (thresholdArrayTest_eq_ok_iff ..).mp theirs
  cases called.symm.trans (named.trans calledToo)
  cases found.symm.trans foundToo
  refine ⟨_, (thresholdArrayTest_eq_ok_iff ..).mpr ⟨name, present,
    (wanted.name_absorb partner).trans called, ⟨(wanted.components_absorb partner).trans pairs, ?_⟩,
    found, usable, rfl⟩, ?_⟩
  · rwa [TupleArray.elementType_absorb]
  · intro i
    simp only [rangeTest_eq_true_iff, listedRanges_absorb pairs whole agreed, List.mem_append,
      or_and_right, and_or_left, exists_or]

/-! ## Points -/

def pointOf (value : Nat → Option Double) : Option Point := do
  let x ← value 0
  let y ← value 1
  let z ← value 2
  return ⟨x, y, z⟩

theorem listedPoints_eq_ok_iff (array : TupleArray) (points : List Point) :
    listedPoints array = .ok points ↔
      (array.components = 3 ∧ array.elementType ≠ .string) ∧
        points = listedTuples pointOf array.components array.data := by
  unfold listedPoints
  split
  · rename_i unfit
    constructor
    · intro passed
      cases passed
    · rintro ⟨⟨triples, numbers⟩, -⟩
      simp [triples, numbers] at unfit
  · rename_i fit
    have shape : array.components = 3 ∧ array.elementType ≠ .string := by simpa using fit
    rw [Except.ok.injEq, eq_comm, TupleArray.tupleCount, shape.1]
    exact ⟨fun same => ⟨⟨rfl, shape.2⟩, same⟩, fun facts => facts.2⟩

theorem listedPoints_absorb {array partner : TupleArray}
    (whole : array.components ∣ array.data.size) (agreed : array.conflict? partner = none) {xs ys : List Point}
    (ours : listedPoints array = .ok xs) (theirs : listedPoints partner = .ok ys) :
    listedPoints (array.absorb partner) = .ok (xs ++ ys) := by
  obtain ⟨⟨triples, numbers⟩, rfl⟩ := (listedPoints_eq_ok_iff ..).mp ours
  obtain ⟨⟨triplesToo, -⟩, rfl⟩ := (listedPoints_eq_ok_iff ..).mp theirs
  have components := array.components_absorb partner
  refine (listedPoints_eq_ok_iff ..).mpr ⟨⟨components.trans triples, ?_⟩, ?_⟩
  · rwa [TupleArray.elementType_absorb]
  · rw [components, triplesToo, ← triples]
    refine (listedTuples_absorb ?_ (by omega) whole agreed).symm
    intro f g same
    rw [pointOf, pointOf, same 0 (by omega), same 1 (by omega), same 2 (by omega)]

/-! ## All arrays of a node -/

def idTest (ids : List Int64) (present : TupleArray) : EntityTest := fun i =>
  match present.data.idAt? (i * present.components) with
  | some id => ids.contains id
  | none => false

theorem idTest_eq_true_iff (ids : List Int64) (present : TupleArray) (i : Nat) :
    idTest ids present i = true ↔
      ∃ id, present.data.idAt? (i * present.components) = some id ∧ id ∈ ids := by
  unfold idTest
  cases present.data.idAt? (i * present.components) <;> simp

theorem globalIdTest_eq_ok_iff (node : Node) (dataset : Dataset) (test : EntityTest) :
    node.globalIdTest dataset = .ok test ↔
      ∃ present, dataset.globalIds? node.entity = some present ∧
        test = idTest node.listedIds present := by
  simp only [globalIdTest, map_eq_ok_iff, required_eq_ok_iff]
  rfl

theorem pedigreeTest_eq_ok_iff (node : Node) (dataset : Dataset) (test : EntityTest) :
    node.pedigreeTest dataset = .ok test ↔
      ∃ present, dataset.pedigreeIds? node.entity = some present ∧
        ∃ tests, node.arrays.mapM (fun wanted => valueTest wanted present 0) = .ok tests ∧
          EntityTest.any tests = test := by
  simp only [pedigreeTest, bind_eq_ok_iff, required_eq_ok_iff, pure, Except.pure, Except.ok.injEq]

theorem componentTest_eq_ok_iff
    (arrayTest : Entity → Dataset → Nat → TupleArray → Except SelectionError EntityTest)
    (node : Node) (dataset : Dataset) (test : EntityTest) :
    componentTest arrayTest node dataset = .ok test ↔
      ∃ component, node.component = .ok component ∧
        ∃ tests, node.arrays.mapM (arrayTest node.entity dataset component) = .ok tests ∧
          EntityTest.any tests = test := by
  simp only [componentTest, bind_eq_ok_iff, pure, Except.pure, Except.ok.injEq]

section

variable {node : Node} {dataset : Dataset} (standardEpsilon : Double)

def NearListed (node : Node) (dataset : Dataset) (standardEpsilon : Double)
    (listed : List (List Point)) (i : Nat) : Prop :=
  ∃ positions p, dataset.positions? node.entity = some positions ∧ positions[i]? = some p ∧
    ∃ q, (∃ points ∈ listed, q ∈ points) ∧
      near (node.properties.epsilon?.getD standardEpsilon) p q = true

theorem exists_locationTest {listed : List (List Point)}
    (read : node.arrays.mapM listedPoints = .ok listed)
    (placed : listed.flatten ≠ [] → ∃ positions, dataset.positions? node.entity = some positions) :
    ∃ test, node.locationTest dataset standardEpsilon = .ok test ∧
      ∀ i, test i = true ↔ node.NearListed dataset standardEpsilon listed i := by
  simp only [locationTest, bind_eq_ok_iff, read, Except.ok.injEq, exists_eq_left']
  cases none : listed.flatten with
  | nil =>
    refine ⟨fun _ => false, rfl, ?_⟩
    intro i
    constructor
    · intro selected
      cases selected
    · rintro ⟨_, _, _, _, q, listedSomewhere, _⟩
      have member := List.mem_flatten.mpr listedSomewhere
      rw [none] at member
      cases member
  | cons first rest =>
    obtain ⟨positions, found⟩ := placed (by simp [none])
    have some := (required_eq_ok_iff node.entity Dataset.positionsName _ positions).mpr found
    refine ⟨_, by rw [if_neg (by simp), some]; rfl, ?_⟩
    intro i
    simp only [NearListed, found, Option.some.injEq, exists_and_left, exists_eq_left',
      ← List.mem_flatten, none]
    cases positions[i]? <;> simp

theorem of_locationTest {standardEpsilon : Double} {test : EntityTest}
    (accepted : node.locationTest dataset standardEpsilon = .ok test) :
    ∃ listed, node.arrays.mapM listedPoints = .ok listed ∧
      (listed.flatten ≠ [] → ∃ positions, dataset.positions? node.entity = some positions) ∧
      ∀ i, test i = true ↔ node.NearListed dataset standardEpsilon listed i := by
  obtain ⟨listed, read, rest⟩ := bind_eq_ok_iff.mp accepted
  have placed : listed.flatten ≠ [] →
      ∃ positions, dataset.positions? node.entity = some positions := by
    intro some
    rw [if_neg (by simpa using some)] at rest
    obtain ⟨positions, found, -⟩ := bind_eq_ok_iff.mp rest
    exact ⟨positions, (required_eq_ok_iff ..).mp found⟩
  obtain ⟨same, acceptedToo, near⟩ := exists_locationTest standardEpsilon read placed
  cases accepted.symm.trans acceptedToo
  exact ⟨listed, read, placed, near⟩

end

end Node

end SelectionAlgebra
