import SelectionAlgebra.Proofs.Node.Difference
import SelectionAlgebra.Proofs.Resolve.Lists
import SelectionAlgebra.Proofs.Resolve.Positions

/-!
Difference of id lists as difference of entities. Entities may share an id or have none, and ids
may belong to no entity, but no entity has two ids. So those that lose all their listed ids are those
that the other list selects.
-/

namespace SelectionAlgebra

/-- The entity at the position has the id, in the sense in which lists of this kind name ids. -/
def Dataset.Identifies (dataset : Dataset) (entity : Entity) :
    Content → Nat → Int64 → Prop
  | .indices, i, id => id.toInt = i
  | .globalIds, i, id => ∃ ids, dataset.globalIds? entity = some ids ∧
      ids.data.idAt? (i * ids.components) = some id
  | .pedigreeIds, i, id => ∃ ids, dataset.pedigreeIds? entity = some ids ∧
      ids.data.idAt? (i * ids.components) = some id
  | _, _, _ => False

theorem Dataset.Identifies.unique {dataset : Dataset} {entity : Entity} {kind : Content} {i : Nat}
    {id other : Int64} (identified : dataset.Identifies entity kind i id)
    (identifiedToo : dataset.Identifies entity kind i other) : id = other := by
  have single {present : Option TupleArray}
      (first : ∃ ids, present = some ids ∧ ids.data.idAt? (i * ids.components) = some id)
      (second : ∃ ids, present = some ids ∧ ids.data.idAt? (i * ids.components) = some other) :
      id = other := by
    obtain ⟨ids, found, carried⟩ := first
    obtain ⟨same, foundToo, carriedToo⟩ := second
    cases found.symm.trans foundToo
    exact Option.some.inj (carried.symm.trans carriedToo)
  unfold Identifies at identified identifiedToo
  split at identified
  · exact Int64.toInt_inj.mp (identified.trans identifiedToo.symm)
  · exact single identified identifiedToo
  · exact single identified identifiedToo
  · exact identified.elim

namespace Node

variable {dataset : Dataset} {options : ConvertOptions}

theorem listedIds_of_idArrays {node : Node} {name : Option String} {ids? : Option (List Int64)}
    (listed : node.arrays = idArrays name ids?) : node.listedIds = ids?.getD [] := by
  rw [listedIds, listed]
  cases ids? with
  | none => rfl
  | some ids => exact List.flatMap_singleton ..

theorem valueTest_ofIds {name : Option String} {ids : List Int64} {present : TupleArray}
    {test : EntityTest} (accepted : valueTest (.ofValues (.ids ids) name) present 0 = .ok test)
    (i : Nat) :
    test i = true ↔ ∃ id, present.data.idAt? (i * present.components) = some id ∧ id ∈ ids := by
  obtain ⟨typed, -, rfl⟩ := (valueTest_eq_ok_iff ..).mp accepted
  rw [keyTest_eq_true_iff, Nat.add_zero]
  cases values : present.data with
  | ids values =>
    simp [Data.keyAt?, Data.idAt?, TupleArray.ofValues, Data.keys]
  | ints _ | doubles _ | strings _ =>
    rw [TupleArray.elementType, TupleArray.elementType, values] at typed
    cases typed

theorem exists_pedigreeTest_of_idArrays {node other : Node} {name label : Option String}
    {ids? more? : Option (List Int64)} (entity : other.entity = node.entity)
    (listed : node.arrays = idArrays name ids?) (listedToo : other.arrays = idArrays label more?)
    (both : more?.isSome = ids?.isSome) {test : EntityTest}
    (accepted : node.pedigreeTest dataset = .ok test) :
    ∃ again, other.pedigreeTest dataset = .ok again ∧
      ∀ i, again i = true ↔
        ∃ id, dataset.Identifies node.entity .pedigreeIds i id ∧ id ∈ more?.getD [] := by
  obtain ⟨present, found, tests, read, -⟩ := (pedigreeTest_eq_ok_iff ..).mp accepted
  have foundToo : dataset.pedigreeIds? other.entity = some present := by rwa [entity]
  cases more? with
  | none =>
    have readToo : other.arrays.mapM (fun wanted => valueTest wanted present 0) = .ok [] := by
      rw [listedToo]
      rfl
    refine ⟨_, (pedigreeTest_eq_ok_iff ..).mpr ⟨present, foundToo, [], readToo, rfl⟩, ?_⟩
    simp [EntityTest.any]
  | some more =>
    obtain ⟨ids, rfl⟩ := Option.isSome_iff_exists.mp both.symm
    rw [listed] at read
    obtain ⟨_, -, tested⟩ := exists_of_mapM_eq_ok read List.mem_cons_self
    obtain ⟨typed, inside, -⟩ := (valueTest_eq_ok_iff ..).mp tested
    obtain ⟨again, testedToo⟩ :
        ∃ again, valueTest (.ofValues (.ids more) label) present 0 = .ok again :=
      ⟨_, (valueTest_eq_ok_iff ..).mpr ⟨typed, inside, rfl⟩⟩
    have readToo : other.arrays.mapM (fun wanted => valueTest wanted present 0) = .ok [again] := by
      rw [listedToo]
      exact mapM_eq_ok_iff.mpr (.cons testedToo .nil)
    refine ⟨_, (pedigreeTest_eq_ok_iff ..).mpr ⟨present, foundToo, [again], readToo, rfl⟩, ?_⟩
    intro i
    simp [EntityTest.any, valueTest_ofIds testedToo, Dataset.Identifies, found]

theorem exists_listTest_of_idArrays {node other : Node} {name label : Option String}
    {ids? more? : Option (List Int64)} (supported : node.content.supportsDifference = true)
    (content : other.content = node.content) (entity : other.entity = node.entity)
    (listed : node.arrays = idArrays name ids?) (listedToo : other.arrays = idArrays label more?)
    (both : more?.isSome = ids?.isSome) {test : EntityTest}
    (accepted : node.listTest dataset options = .ok test) :
    ∃ again, other.listTest dataset options = .ok again ∧
      ∀ i, again i = true ↔
        ∃ id, dataset.Identifies node.entity node.content i id ∧ id ∈ more?.getD [] := by
  unfold listTest at accepted ⊢
  rw [content]
  cases kind : node.content with
  | indices =>
    refine ⟨_, rfl, ?_⟩
    intro i
    simp [indexTest, listedIds_of_idArrays listedToo, Dataset.Identifies, and_comm]
  | globalIds =>
    simp only [kind] at accepted
    obtain ⟨present, found, -⟩ := (globalIdTest_eq_ok_iff ..).mp accepted
    rw [← entity] at found
    refine ⟨_, (globalIdTest_eq_ok_iff ..).mpr ⟨present, found, rfl⟩, ?_⟩
    intro i
    simp [idTest_eq_true_iff, listedIds_of_idArrays listedToo, Dataset.Identifies, ← entity, found]
  | pedigreeIds =>
    simp only [kind] at accepted
    exact exists_pedigreeTest_of_idArrays entity listed listedToo both accepted
  | values | frustum | locations | thresholds | blocks | blockSelectors | query | user =>
    rw [kind] at supported
    cases supported

/-- What remains of a list resolves to the entities that the other list does not select. -/
theorem resolve_subtract (ours theirs reduced : Node) (dataset : Dataset)
    (options : ConvertOptions) (a b : List Nat) (entity : ours.entity = theirs.entity)
    (plain : ours.properties.inverse = false) (plainToo : theirs.properties.inverse = false)
    (succeeded : ours.subtract theirs = (.ok (), reduced))
    (first : ours.resolve dataset options = .ok a)
    (second : theirs.resolve dataset options = .ok b) :
    ∃ c, reduced.resolve dataset options = .ok c ∧ c.Pairwise (· < ·) ∧
      ∀ i, i ∈ c ↔ i ∈ a ∧ i ∉ b := by
  obtain ⟨⟨content, supported⟩, name, label, mine, yours, remaining, listed, listedToo, reduces,
    both, remains⟩ := of_subtract succeeded
  obtain ⟨x, testOurs, memberA⟩ := resolve_eq_ok first
  obtain ⟨y, testTheirs, memberB⟩ := resolve_eq_ok second
  obtain ⟨x', again, selectsA⟩ :=
    exists_listTest_of_idArrays supported rfl rfl listed listed rfl testOurs
  cases testOurs.symm.trans again
  obtain ⟨y', againToo, selectsB⟩ := exists_listTest_of_idArrays (content ▸ supported) rfl rfl
    listedToo listedToo rfl testTheirs
  cases testTheirs.symm.trans againToo
  obtain ⟨z, testReduced, selectsC⟩ : ∃ z, reduced.listTest dataset options = .ok z ∧
      ∀ i, z i = true ↔
        ∃ id, dataset.Identifies ours.entity ours.content i id ∧ id ∈ remaining.getD [] :=
    exists_listTest_of_idArrays supported (by rw [reduces]) (by rw [reduces]) listed
      (by rw [reduces]) both testOurs
  obtain ⟨c, resolved, ascending, memberC⟩ := exists_resolve testReduced
  refine ⟨c, resolved, ascending, ?_⟩
  intro i
  rw [memberC, reduces]
  simp only [memberA, memberB, plain, plainToo, Bool.bne_false, selectsA, selectsB, selectsC,
    remains, ← entity, ← content]
  constructor
  · rintro ⟨inside, id, identified, kept, lost⟩
    refine ⟨⟨inside, id, identified, kept⟩, ?_⟩
    rintro ⟨-, other, identifiedToo, taken⟩
    rw [identified.unique identifiedToo] at lost
    exact lost taken
  · rintro ⟨⟨inside, id, identified, kept⟩, unselected⟩
    exact ⟨inside, id, identified, kept, fun taken => unselected ⟨inside, id, identified, taken⟩⟩

theorem resolve_subtract_shared :
    let ours : Node := .ofIds .globalIds .cell [9, 7, -1, 7]
    let theirs : Node := .ofIds .globalIds .cell [4, 9, 9]
    let dataset := Dataset.empty.setGlobalIds .cell (.ofIds [7, 7, 3, 9])
    ∃ c, (ours.subtract theirs).2.resolve dataset {} = .ok c ∧ c.Pairwise (· < ·) ∧
      ∀ i, i ∈ c ↔ i ∈ [0, 1, 3] ∧ i ∉ [3] := by
  intro ours theirs dataset
  exact resolve_subtract ours theirs _ dataset {} [0, 1, 3] [3] rfl rfl rfl rfl rfl rfl

end Node

end SelectionAlgebra
