import Mathlib.Data.List.Perm.Basic
import SelectionAlgebra.Proofs.Node.Union
import SelectionAlgebra.Proofs.Property
import SelectionAlgebra.Proofs.Resolve.Lists
import SelectionAlgebra.Proofs.Resolve.Positions

/-!
Union of lists as union of entities. Each way of reading lists finds in the union of two lists what
it finds in one or the other.
-/

namespace SelectionAlgebra

/-! ## Qualifiers of nodes that are brought together -/

namespace Double

theorem mul_self_of_isZero {x : Double} (isZero : x.isZero = true) : x.mul x = zero := by
  have magnitude : x.magnitude = 0 := of_decide_eq_true isZero
  have number : x.isNaN = false := by simp [isNaN, magnitude]
  have finite : x.isFinite = true := by
    rw [isFinite, magnitude]
    rfl
  have significand : x.significand = 0 := by
    rw [Double.significand, magnitude]
    rfl
  simp only [mul, number, finite, significand, bne_self_eq_false, Bool.false_eq_true, if_false,
    Bool.and_self, if_true, ofScaled, ofRatio, Nat.mul_zero, Nat.zero_mul, nearestMagnitude]
  rfl

/-- Of equal numbers only the zeros differ in their bits, and their squares do not. -/
theorem mul_self_congr {x y : Double} (same : (x == y) = true) : x.mul x = y.mul y := by
  rcases eq_or_isZero_of_beq same with rfl | ⟨zero, zeroToo⟩
  · rfl
  · rw [mul_self_of_isZero zero, mul_self_of_isZero zeroToo]

end Double

namespace Properties

structure ReadsAs (properties other : Properties) : Prop where
  component : properties.componentNumber? = other.componentNumber?
  reach : ∀ standard, Node.near (properties.epsilon?.getD standard) =
    Node.near (other.epsilon?.getD standard)

theorem ReadsAs.refl (properties : Properties) : properties.ReadsAs properties :=
  ⟨rfl, fun _ => rfl⟩

section

variable {properties other : Properties}

theorem componentNumber?_of_isSubset (subset : properties.isSubset other = true) {v : Int32}
    (set : properties.componentNumber? = some v) : other.componentNumber? = some v := by
  obtain ⟨q, found, same⟩ :=
    (isSubset_iff ..).mp subset _ _ ((componentNumber?_eq_some_iff v).mp set)
  rw [componentNumber?_eq_some_iff, found]
  cases q with
  | componentNumber w => rw [eq_of_beq (show (w == v) = true from same)]
  | _ => cases same

theorem epsilon?_of_isSubset (subset : properties.isSubset other = true) {v : Double}
    (set : properties.epsilon? = some v) : ∃ w, other.epsilon? = some w ∧ (w == v) = true := by
  obtain ⟨q, found, same⟩ := (isSubset_iff ..).mp subset _ _ ((epsilon?_eq_some_iff v).mp set)
  cases q with
  | epsilon w => exact ⟨w, (epsilon?_eq_some_iff w).mpr found, same⟩
  | _ => cases same

theorem readsAs_of_isSubset (subset : properties.isSubset other = true)
    (superset : other.isSubset properties = true) : properties.ReadsAs other where
  component := Option.ext fun _ =>
    ⟨componentNumber?_of_isSubset subset, componentNumber?_of_isSubset superset⟩
  reach := by
    intro standard
    cases set : properties.epsilon? with
    | some v =>
      obtain ⟨w, setToo, same⟩ := epsilon?_of_isSubset subset set
      rw [setToo]
      funext p q
      simp only [Option.getD_some, Node.near, Double.mul_self_congr same]
    | none =>
      cases setToo : other.epsilon? with
      | none => rfl
      | some w =>
        obtain ⟨v, setAfterAll, -⟩ := epsilon?_of_isSubset superset setToo
        cases set.symm.trans setAfterAll

end

end Properties

namespace Node

structure Pairing (ours theirs : Node) (partners : List TupleArray) : Prop where
  content : ours.content = theirs.content
  entity : ours.entity = theirs.entity
  properties : ours.properties.ReadsAs theirs.properties
  order : partners.Perm theirs.arrays
  fits : List.Forall₂ (Fits ours.content.pairsByName) ours.arrays partners
  whole : ∀ array ∈ ours.arrays, array.components ∣ array.data.size

def takingIn (node : Node) (partners : List TupleArray) : Node :=
  { node with arrays := List.zipWith TupleArray.absorb node.arrays partners }

/-! ## Readings of many arrays -/

section

variable {β ι : Type} {reads : TupleArray → β → Prop} {picks : β → ι → Prop} {byName : Bool}

theorem exists_absorbed {ours partners : List TupleArray} {xs ys : List β}
    (fits : List.Forall₂ (Fits byName) ours partners) (readOurs : List.Forall₂ reads ours xs)
    (readPartners : List.Forall₂ reads partners ys)
    (step : ∀ array ∈ ours, ∀ partner x y, Fits byName array partner → reads array x →
      reads partner y →
      ∃ z, reads (array.absorb partner) z ∧ ∀ i, picks z i ↔ picks x i ∨ picks y i) :
    ∃ zs, List.Forall₂ reads (List.zipWith TupleArray.absorb ours partners) zs ∧
      ∀ i, (∃ z ∈ zs, picks z i) ↔ (∃ x ∈ xs, picks x i) ∨ ∃ y ∈ ys, picks y i := by
  induction fits generalizing xs ys with
  | nil =>
    cases readOurs
    cases readPartners
    exact ⟨[], .nil, by simp⟩
  | cons fit _ ih =>
    cases readOurs with
    | cons firstOurs restOurs =>
      cases readPartners with
      | cons firstPartner restPartners =>
        obtain ⟨z, read, pick⟩ := step _ List.mem_cons_self _ _ _ fit firstOurs firstPartner
        obtain ⟨zs, readRest, pickRest⟩ := ih restOurs restPartners fun array member =>
          step array (List.mem_cons_of_mem _ member)
        refine ⟨z :: zs, .cons read readRest, ?_⟩
        intro i
        simp only [List.exists_mem_cons_iff, pick, pickRest]
        exact or_or_or_comm

theorem Pairing.exists_absorbed {ours theirs : Node} {partners : List TupleArray}
    (pairing : Pairing ours theirs partners) {xs ys : List β}
    (readOurs : List.Forall₂ reads ours.arrays xs)
    (readTheirs : List.Forall₂ reads theirs.arrays ys)
    (step : ∀ array partner x y, array.components ∣ array.data.size →
      Fits ours.content.pairsByName array partner → reads array x → reads partner y →
      ∃ z, reads (array.absorb partner) z ∧ ∀ i, picks z i ↔ picks x i ∨ picks y i) :
    ∃ zs, List.Forall₂ reads (ours.takingIn partners).arrays zs ∧
      ∀ i, (∃ z ∈ zs, picks z i) ↔ (∃ x ∈ xs, picks x i) ∨ ∃ y ∈ ys, picks y i := by
  obtain ⟨reordered, readPartners, order⟩ := List.perm_comp_forall₂ pairing.order readTheirs
  obtain ⟨zs, readAll, pick⟩ := Node.exists_absorbed pairing.fits readOurs readPartners
    fun array member partner x y => step array partner x y (pairing.whole array member)
  refine ⟨zs, readAll, ?_⟩
  intro i
  simp only [pick, order.mem_iff]

end

section

variable {ours theirs : Node} {partners : List TupleArray} (pairing : Pairing ours theirs partners)
include pairing

theorem Pairing.any_absorbed {test : TupleArray → Except SelectionError EntityTest}
    (step : ∀ array partner x y, array.components ∣ array.data.size →
      Fits ours.content.pairsByName array partner → test array = .ok x → test partner = .ok y →
      ∃ z, test (array.absorb partner) = .ok z ∧ x.Joins y z)
    {xs ys : List EntityTest} (testOurs : ours.arrays.mapM test = .ok xs)
    (testTheirs : theirs.arrays.mapM test = .ok ys) :
    ∃ zs, (ours.takingIn partners).arrays.mapM test = .ok zs ∧
      (EntityTest.any xs).Joins (.any ys) (.any zs) := by
  obtain ⟨zs, readAll, pick⟩ := pairing.exists_absorbed (mapM_eq_ok_iff.mp testOurs)
    (mapM_eq_ok_iff.mp testTheirs) step
  refine ⟨zs, mapM_eq_ok_iff.mpr readAll, ?_⟩
  intro i
  simp only [EntityTest.any, List.any_eq_true, pick]

/-! ## Readings of nodes -/

theorem Pairing.mem_listedIds (id : Int64) :
    id ∈ (ours.takingIn partners).listedIds ↔ id ∈ ours.listedIds ∨ id ∈ theirs.listedIds := by
  have reads (arrays : List TupleArray) (xs : List (List Int64)) :
      List.Forall₂ (fun array ids => array.data.listedIds = ids) arrays xs ↔
        (arrays.map fun array => array.data.listedIds) = xs := by
    rw [← List.forall₂_map_left_iff (R := Eq), List.forall₂_eq_eq_eq]
  obtain ⟨zs, readAll, pick⟩ : ∃ zs, List.Forall₂ (fun array ids => array.data.listedIds = ids)
      (ours.takingIn partners).arrays zs ∧ ∀ id : Int64, (∃ ids ∈ zs, id ∈ ids) ↔
        (∃ ids ∈ ours.arrays.map fun array => array.data.listedIds, id ∈ ids) ∨
          ∃ ids ∈ theirs.arrays.map fun array => array.data.listedIds, id ∈ ids := by
    refine pairing.exists_absorbed ((reads ..).mpr rfl) ((reads ..).mpr rfl) ?_
    rintro array partner _ _ - fit rfl rfl
    exact ⟨_, rfl, TupleArray.mem_listedIds_absorb fit.agreed⟩
  rw [← (reads ..).mp readAll] at pick
  simpa only [listedIds, List.flatMap, List.mem_flatten] using pick id

theorem Pairing.indexTest_joins :
    ours.indexTest.Joins theirs.indexTest (ours.takingIn partners).indexTest := by
  intro i
  simp only [indexTest, List.any_eq_true, pairing.mem_listedIds, or_and_right, exists_or]

theorem Pairing.globalIdTest_joins {dataset : Dataset} {x y : EntityTest}
    (testOurs : ours.globalIdTest dataset = .ok x)
    (testTheirs : theirs.globalIdTest dataset = .ok y) :
    ∃ z, (ours.takingIn partners).globalIdTest dataset = .ok z ∧ x.Joins y z := by
  obtain ⟨present, found, rfl⟩ := (globalIdTest_eq_ok_iff ..).mp testOurs
  obtain ⟨presentToo, foundToo, rfl⟩ := (globalIdTest_eq_ok_iff ..).mp testTheirs
  rw [pairing.entity] at found
  cases found.symm.trans foundToo
  refine ⟨_, (globalIdTest_eq_ok_iff ..).mpr ⟨present, ?_, rfl⟩, ?_⟩
  · exact (congrArg dataset.globalIds? pairing.entity).trans foundToo
  · intro i
    simp only [idTest_eq_true_iff, pairing.mem_listedIds, and_or_left, exists_or]

theorem Pairing.pedigreeTest_joins {dataset : Dataset} {x y : EntityTest}
    (testOurs : ours.pedigreeTest dataset = .ok x)
    (testTheirs : theirs.pedigreeTest dataset = .ok y) :
    ∃ z, (ours.takingIn partners).pedigreeTest dataset = .ok z ∧ x.Joins y z := by
  obtain ⟨present, found, xs, readOurs, rfl⟩ := (pedigreeTest_eq_ok_iff ..).mp testOurs
  obtain ⟨presentToo, foundToo, ys, readTheirs, rfl⟩ := (pedigreeTest_eq_ok_iff ..).mp testTheirs
  rw [← pairing.entity] at foundToo
  cases found.symm.trans foundToo
  obtain ⟨zs, readAll, joins⟩ := pairing.any_absorbed
    (fun _ _ _ _ _ fit first second => valueTest_absorb fit.agreed first second) readOurs readTheirs
  exact ⟨_, (pedigreeTest_eq_ok_iff ..).mpr ⟨present, found, zs, readAll, rfl⟩, joins⟩

theorem Pairing.component_eq : theirs.component = ours.component := by
  rw [component, component, pairing.properties.component]

theorem Pairing.componentTest_joins
    {arrayTest : Entity → Dataset → Nat → TupleArray → Except SelectionError EntityTest}
    {dataset : Dataset} {x y : EntityTest}
    (step : ∀ entity component array partner x y, array.components ∣ array.data.size →
      Fits ours.content.pairsByName array partner →
      arrayTest entity dataset component array = .ok x →
      arrayTest entity dataset component partner = .ok y →
      ∃ z, arrayTest entity dataset component (array.absorb partner) = .ok z ∧ x.Joins y z)
    (testOurs : componentTest arrayTest ours dataset = .ok x)
    (testTheirs : componentTest arrayTest theirs dataset = .ok y) :
    ∃ z, componentTest arrayTest (ours.takingIn partners) dataset = .ok z ∧ x.Joins y z := by
  obtain ⟨component, number, xs, readOurs, rfl⟩ := (componentTest_eq_ok_iff ..).mp testOurs
  obtain ⟨other, numberToo, ys, readTheirs, rfl⟩ := (componentTest_eq_ok_iff ..).mp testTheirs
  rw [pairing.component_eq] at numberToo
  cases number.symm.trans numberToo
  rw [← pairing.entity] at readTheirs
  obtain ⟨zs, readAll, joins⟩ := pairing.any_absorbed (step _ _) readOurs readTheirs
  exact ⟨_, (componentTest_eq_ok_iff ..).mpr ⟨component, number, zs, readAll, rfl⟩, joins⟩

theorem Pairing.namedValueTest_joins (byName : ours.content.pairsByName = true) {dataset : Dataset}
    {x y : EntityTest} (testOurs : ours.namedValueTest dataset = .ok x)
    (testTheirs : theirs.namedValueTest dataset = .ok y) :
    ∃ z, (ours.takingIn partners).namedValueTest dataset = .ok z ∧ x.Joins y z :=
  pairing.componentTest_joins
    (fun _ _ _ _ _ _ _ fit => namedArrayTest_absorb fit.agreed (fit.named byName))
    testOurs testTheirs

theorem Pairing.thresholdTest_joins (byName : ours.content.pairsByName = true) {dataset : Dataset}
    {x y : EntityTest} (testOurs : ours.thresholdTest dataset = .ok x)
    (testTheirs : theirs.thresholdTest dataset = .ok y) :
    ∃ z, (ours.takingIn partners).thresholdTest dataset = .ok z ∧ x.Joins y z :=
  pairing.componentTest_joins
    (fun _ _ _ _ _ _ whole fit => thresholdArrayTest_absorb whole fit.agreed (fit.named byName))
    testOurs testTheirs

theorem Pairing.locationTest_joins {dataset : Dataset} {standardEpsilon : Double}
    {x y : EntityTest} (testOurs : ours.locationTest dataset standardEpsilon = .ok x)
    (testTheirs : theirs.locationTest dataset standardEpsilon = .ok y) :
    ∃ z, (ours.takingIn partners).locationTest dataset standardEpsilon = .ok z ∧
      x.Joins y z := by
  obtain ⟨xs, readOurs, placedOurs, nearOurs⟩ := of_locationTest testOurs
  obtain ⟨ys, readTheirs, placedTheirs, nearTheirs⟩ := of_locationTest testTheirs
  obtain ⟨zs, readAll, pick⟩ : ∃ zs, List.Forall₂ (fun array points =>
      listedPoints array = .ok points) (ours.takingIn partners).arrays zs ∧
      ∀ q : Point, (∃ points ∈ zs, q ∈ points) ↔
        (∃ points ∈ xs, q ∈ points) ∨ ∃ points ∈ ys, q ∈ points := by
    refine pairing.exists_absorbed (mapM_eq_ok_iff.mp readOurs) (mapM_eq_ok_iff.mp readTheirs) ?_
    intro array partner _ _ whole fit first second
    exact ⟨_, listedPoints_absorb whole fit.agreed first second, fun q => List.mem_append⟩
  have placed : zs.flatten ≠ [] →
      ∃ positions, dataset.positions? (ours.takingIn partners).entity = some positions := by
    intro some
    obtain ⟨q, member⟩ := List.exists_mem_of_ne_nil _ some
    rcases (pick q).mp (List.mem_flatten.mp member) with listed | listed
    · exact placedOurs (List.ne_nil_of_mem (List.mem_flatten.mpr listed))
    · obtain ⟨positions, found⟩ := placedTheirs (List.ne_nil_of_mem (List.mem_flatten.mpr listed))
      rw [← pairing.entity] at found
      exact ⟨positions, found⟩
  obtain ⟨z, accepted, nearAll⟩ :=
    exists_locationTest standardEpsilon (mapM_eq_ok_iff.mpr readAll) placed
  refine ⟨z, accepted, ?_⟩
  intro i
  rw [nearAll, nearOurs, nearTheirs]
  simp only [NearListed, takingIn, pick, ← pairing.entity, ← pairing.properties.reach, or_and_right,
    and_or_left, exists_or]

theorem Pairing.listTest_joins (supported : ours.content.supportsUnion = true) {dataset : Dataset}
    {options : ConvertOptions} {x y : EntityTest} (testOurs : ours.listTest dataset options = .ok x)
    (testTheirs : theirs.listTest dataset options = .ok y) :
    ∃ z, (ours.takingIn partners).listTest dataset options = .ok z ∧ x.Joins y z := by
  have content : (ours.takingIn partners).content = ours.content := rfl
  unfold listTest at testOurs testTheirs ⊢
  rw [← pairing.content] at testTheirs
  rw [content]
  cases kind : ours.content with
  | indices =>
    simp only [kind, Except.ok.injEq] at testOurs testTheirs
    subst testOurs testTheirs
    exact ⟨_, rfl, pairing.indexTest_joins⟩
  | globalIds =>
    simp only [kind] at testOurs testTheirs
    exact pairing.globalIdTest_joins testOurs testTheirs
  | pedigreeIds =>
    simp only [kind] at testOurs testTheirs
    exact pairing.pedigreeTest_joins testOurs testTheirs
  | values =>
    simp only [kind] at testOurs testTheirs
    exact pairing.namedValueTest_joins (by rw [kind]; rfl) testOurs testTheirs
  | thresholds =>
    simp only [kind] at testOurs testTheirs
    exact pairing.thresholdTest_joins (by rw [kind]; rfl) testOurs testTheirs
  | locations =>
    simp only [kind] at testOurs testTheirs
    exact pairing.locationTest_joins testOurs testTheirs
  | frustum => rw [kind] at supported; cases supported
  | blocks => simp only [kind] at testOurs; cases testOurs
  | blockSelectors | query | user => rw [kind] at supported; cases supported

end

theorem exists_listTest_union {ours theirs united : Node} {dataset : Dataset}
    {options : ConvertOptions} {x y : EntityTest} (entity : ours.entity = theirs.entity)
    (properties : ours.properties.ReadsAs theirs.properties)
    (whole : ∀ array ∈ ours.arrays, array.components ∣ array.data.size)
    (succeeded : ours.union theirs = (.ok (), united))
    (testOurs : ours.listTest dataset options = .ok x)
    (testTheirs : theirs.listTest dataset options = .ok y) :
    ∃ z, united.listTest dataset options = .ok z ∧ x.Joins y z := by
  rw [union_eq] at succeeded
  cases paired : ours.partners theirs with
  | error e => rw [paired] at succeeded; cases succeeded
  | ok partners =>
    rw [paired] at succeeded
    cases succeeded
    obtain ⟨content, supported, order, fits⟩ := partners_spec paired
    have pairing : Pairing ours theirs partners :=
      ⟨content, entity, properties, order, fits, whole⟩
    exact pairing.listTest_joins supported testOurs testTheirs

/-- The union of two lists resolves to the union of what the two resolve to, or to the intersection
where the nodes are inverted. -/
theorem resolve_union (ours theirs united : Node) (dataset : Dataset) (options : ConvertOptions)
    (a b : List Nat) (entity : ours.entity = theirs.entity)
    (properties : ours.properties = theirs.properties)
    (shaped : ∀ array ∈ ours.arrays, array.WellShaped)
    (succeeded : ours.union theirs = (.ok (), united))
    (first : ours.resolve dataset options = .ok a)
    (second : theirs.resolve dataset options = .ok b) :
    ∃ c, united.resolve dataset options = .ok c ∧ c.Pairwise (· < ·) ∧
      ∀ i, i ∈ c ↔ if ours.properties.inverse then i ∈ a ∧ i ∈ b else i ∈ a ∨ i ∈ b := by
  obtain ⟨x, testOurs, memberA⟩ := resolve_eq_ok first
  obtain ⟨y, testTheirs, memberB⟩ := resolve_eq_ok second
  obtain ⟨z, testAll, joins⟩ := exists_listTest_union entity (properties ▸ .refl _)
    (fun array member => (shaped array member).whole) succeeded testOurs testTheirs
  obtain ⟨c, resolved, ascending, memberC⟩ := exists_resolve testAll
  obtain ⟨entityUnited, propertiesUnited⟩ := union_keeps succeeded
  refine ⟨c, resolved, ascending, ?_⟩
  intro i
  have chosen := joins i
  rw [memberA, memberB, memberC, entityUnited, propertiesUnited, ← entity, ← properties]
  cases inverse : ours.properties.inverse <;>
    simp only [Bool.bne_false, Bool.bne_true, chosen] <;> grind

/-- Two lists of values, one of which is in both, over three cells. -/
theorem resolve_union_values :
    let ours : Node := .ofValues .cell "kind" (.ints [3])
    let theirs : Node := .ofValues .cell "kind" (.ints [3, 1])
    let dataset := Dataset.empty.setArray .cell (.ofValues (.ints [1, 2, 3]) (some "kind"))
    ∃ c, (ours.union theirs).2.resolve dataset {} = .ok c ∧ c.Pairwise (· < ·) ∧
      ∀ i, i ∈ c ↔ i ∈ [2] ∨ i ∈ [0, 2] := by
  intro ours theirs dataset
  refine resolve_union ours theirs _ dataset {} [2] [0, 2] rfl rfl ?_ rfl rfl rfl
  intro array member
  cases List.mem_singleton.mp member
  exact ⟨by decide, by decide⟩

end Node

end SelectionAlgebra
