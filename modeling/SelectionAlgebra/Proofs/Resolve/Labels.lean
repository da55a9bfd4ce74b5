import Mathlib.Data.List.Sort
import SelectionAlgebra.Proofs.Resolve.Lists
import SelectionAlgebra.Proofs.Resolve.Positions

/-!
Entities by labels. A list of ids selects the entities that carry one of them, so it selects all
entities of one label or none of them. Where each entity has a label of its own, any entities can
be selected in this way.
-/

namespace SelectionAlgebra

section

variable {κ : Type} {label : Nat → Option κ} {size : Nat}

def SharesLabel (label : Nat → Option κ) (i j : Nat) : Prop :=
  ∃ l, label i = some l ∧ label j = some l

structure TellsApart (label : Nat → Option κ) (size : Nat) : Prop where
  covers : ∀ i < size, ∃ l, label i = some l
  distinct : ∀ i < size, ∀ j < size, label i = label j → i = j

/-- The entities at the positions share a label with those at other ones. -/
def Relabels (label : Nat → Option κ) (size : Nat) (found again : List Nat) : Prop :=
  ∀ i, i ∈ again ↔ i < size ∧ ∃ j ∈ found, SharesLabel label i j

theorem relabels_of_listed {listed : κ → Prop} {found : List Nat}
    (byLabel : ∀ i, i ∈ found ↔ i < size ∧ ∃ l, label i = some l ∧ listed l) :
    Relabels label size found found := by
  intro i
  constructor
  · intro member
    obtain ⟨inside, l, carried, -⟩ := (byLabel i).mp member
    exact ⟨inside, i, member, l, carried, carried⟩
  · rintro ⟨inside, j, member, l, carried, shared⟩
    obtain ⟨-, m, carriedToo, listed⟩ := (byLabel j).mp member
    cases shared.symm.trans carriedToo
    exact (byLabel i).mpr ⟨inside, l, carried, listed⟩

theorem relabels_of_gathered {found again : List Nat}
    (byLabel : ∀ i, i ∈ again ↔ i < size ∧ ∃ l, label i = some l ∧ l ∈ found.filterMap label) :
    Relabels label size found again := by
  intro i
  rw [byLabel]
  simp only [List.mem_filterMap]
  constructor
  · rintro ⟨inside, l, carried, j, member, shared⟩
    exact ⟨inside, j, member, l, carried, shared⟩
  · rintro ⟨inside, j, member, l, carried, shared⟩
    exact ⟨inside, l, carried, j, member, shared⟩

theorem TellsApart.eq_of_relabels (apart : TellsApart label size) {found again : List Nat}
    (relabels : Relabels label size found again) (inside : ∀ i ∈ found, i < size)
    (ascending : found.Pairwise (· < ·)) (ascendingToo : again.Pairwise (· < ·)) :
    again = found := by
  apply ascendingToo.eq_of_mem_iff ascending
  intro i
  rw [relabels i]
  constructor
  · rintro ⟨here, j, member, l, carried, shared⟩
    rwa [apart.distinct i here j (inside j member) (carried.trans shared.symm)]
  · intro member
    obtain ⟨l, carried⟩ := apart.covers i (inside i member)
    exact ⟨inside i member, i, member, l, carried, carried⟩

end

namespace Node

variable {node : Node} {dataset : Dataset} {options : ConvertOptions}

theorem lt_of_mem_resolve {found : List Nat} (resolved : node.resolve dataset options = .ok found)
    {i : Nat} (member : i ∈ found) : i < dataset.size node.entity := by
  obtain ⟨test, -, inside⟩ := resolve_eq_ok resolved
  exact ((inside i).mp member).1

theorem eq_nil_of_unlisted {found : List Nat} {size : Nat} {listed : Nat → Prop}
    (byList : ∀ i, i ∈ found ↔ i < size ∧ listed i) (unlisted : ∀ i, ¬ listed i) : found = [] := by
  apply List.eq_nil_iff_forall_not_mem.mpr
  intro i member
  exact unlisted i ((byList i).mp member).2

variable (plain : node.properties.inverse = false)
include plain

theorem resolve_of_listTest {test : EntityTest}
    (accepted : node.listTest dataset options = .ok test) :
    ∃ found, node.resolve dataset options = .ok found ∧
      ∀ i, i ∈ found ↔ i < dataset.size node.entity ∧ test i = true := by
  obtain ⟨found, resolved, -, inside⟩ := exists_resolve accepted
  simp only [plain, Bool.bne_false] at inside
  exact ⟨found, resolved, inside⟩

variable (dataset options)

theorem resolve_indices (kind : node.content = .indices) :
    ∃ found, node.resolve dataset options = .ok found ∧
      ∀ i, i ∈ found ↔ i < dataset.size node.entity ∧ ∃ id ∈ node.listedIds, id.toInt = i := by
  have accepted : node.listTest dataset options = .ok node.indexTest := by
    rw [listTest, kind]
  simpa only [indexTest, List.any_eq_true, beq_iff_eq] using resolve_of_listTest plain accepted

theorem resolve_globalIds (kind : node.content = .globalIds) {ids : TupleArray}
    (present : dataset.globalIds? node.entity = some ids) (single : ids.components = 1) :
    ∃ found, node.resolve dataset options = .ok found ∧
      ∀ i, i ∈ found ↔
        i < dataset.size node.entity ∧ ∃ id, ids.data.idAt? i = some id ∧ id ∈ node.listedIds := by
  have accepted : node.listTest dataset options = .ok (idTest node.listedIds ids) := by
    rw [listTest, kind]
    exact (globalIdTest_eq_ok_iff ..).mpr ⟨ids, present, rfl⟩
  simpa only [idTest_eq_true_iff, single, Nat.mul_one] using resolve_of_listTest plain accepted

theorem resolve_pedigreeIds (kind : node.content = .pedigreeIds) {ids : TupleArray}
    (present : dataset.pedigreeIds? node.entity = some ids) (single : ids.components = 1)
    (typed : ∀ array ∈ node.arrays, array.elementType = ids.elementType) :
    ∃ found, node.resolve dataset options = .ok found ∧
      ∀ i, i ∈ found ↔ i < dataset.size node.entity ∧
        ∃ key, ids.data.keyAt? i = some key ∧ ∃ array ∈ node.arrays, key ∈ array.data.keys := by
  have tests : node.arrays.mapM (fun wanted => valueTest wanted ids 0) =
      .ok (node.arrays.map fun wanted => keyTest wanted.data.keys ids 0) := by
    rw [mapM_eq_ok_iff, List.forall₂_map_right_iff, List.forall₂_same]
    intro array member
    exact (valueTest_eq_ok_iff ..).mpr ⟨typed array member, by omega, rfl⟩
  have accepted : node.listTest dataset options =
      .ok (.any (node.arrays.map fun wanted => keyTest wanted.data.keys ids 0)) := by
    rw [listTest, kind]
    exact (pedigreeTest_eq_ok_iff ..).mpr ⟨ids, present, _, tests, rfl⟩
  obtain ⟨found, resolved, inside⟩ := resolve_of_listTest plain accepted
  refine ⟨found, resolved, ?_⟩
  intro i
  rw [inside]
  simp only [EntityTest.any, List.any_map, List.any_eq_true, Function.comp_apply,
    keyTest_eq_true_iff, single, Nat.mul_one, Nat.add_zero]
  grind

end Node

end SelectionAlgebra
