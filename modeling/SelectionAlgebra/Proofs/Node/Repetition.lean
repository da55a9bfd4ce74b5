import SelectionAlgebra.Proofs.Node.Counterparts

/-!
Unions made twice. Of single values what is there already is not taken in again, so a second union
with the same node changes nothing, and neither does a union of a node with itself. The exception is
NaN, which differs from itself.
-/

namespace SelectionAlgebra

namespace TupleArray

variable {array partner : TupleArray}

theorem absorb_self_iff (single : array.components = 1) :
    array.absorb array = array ↔ array.data.holdsNaN = false := by
  rw [← Data.unite_self_iff, absorb, if_pos single]
  constructor
  · exact congrArg TupleArray.data
  · intro same
    rw [same]

theorem absorb_again_iff (single : array.components = 1) (agreed : array.conflict? partner = none) :
    (array.absorb partner).absorb partner = array.absorb partner ↔ partner.data.holdsNaN = false := by
  have type := ((conflict?_eq_none_iff ..).mp agreed).1
  rw [← Data.unite_again_iff type]
  simp only [absorb, if_pos single]
  constructor
  · exact congrArg TupleArray.data
  · intro same
    rw [same]

end TupleArray

namespace Node

def listsNaN (node : Node) : Bool :=
  node.arrays.any fun array => array.data.holdsNaN

theorem listsNaN_eq_false_iff (node : Node) :
    node.listsNaN = false ↔ ∀ array ∈ node.arrays, array.data.holdsNaN = false := by
  simp [listsNaN]

theorem zipWith_absorb_self_iff {arrays : List TupleArray}
    (single : ∀ array ∈ arrays, array.components = 1) :
    List.zipWith TupleArray.absorb arrays arrays = arrays ↔
      ∀ array ∈ arrays, array.data.holdsNaN = false := by
  induction arrays with
  | nil => simp
  | cons array rest ih =>
    obtain ⟨first, others⟩ := List.forall_mem_cons.mp single
    rw [List.zipWith_cons_cons, List.cons.injEq, List.forall_mem_cons,
      TupleArray.absorb_self_iff first, ih others]

theorem zipWith_absorb_again_iff {byName : Bool} {ours partners : List TupleArray}
    (fits : List.Forall₂ (Fits byName) ours partners)
    (single : ∀ array ∈ ours, array.components = 1) :
    List.zipWith TupleArray.absorb (List.zipWith TupleArray.absorb ours partners) partners =
        List.zipWith TupleArray.absorb ours partners ↔
      ∀ partner ∈ partners, partner.data.holdsNaN = false := by
  induction fits with
  | nil => simp
  | cons fit _ ih =>
    obtain ⟨first, others⟩ := List.forall_mem_cons.mp single
    rw [List.zipWith_cons_cons, List.zipWith_cons_cons, List.cons.injEq, List.forall_mem_cons,
      TupleArray.absorb_again_iff first fit.agreed, ih others]

variable {node other : Node}

theorem partners_self (supported : node.content.supportsUnion = true) :
    node.partners node = .ok node.arrays := by
  have fits (byName : Bool) : List.Forall₂ (Fits byName) node.arrays node.arrays := by
    rw [List.forall₂_same]
    exact fun array _ => ⟨(TupleArray.conflict?_eq_none_iff ..).mpr ⟨rfl, rfl⟩, fun _ => rfl⟩
  rw [partners_of_unitable ⟨rfl, supported⟩, if_neg (not_not.mpr rfl)]
  cases node.content.pairsByName with
  | false => exact partnersByPlace_of_fits (fits false)
  | true => exact (partnersByName_eq_ok_iff rfl).mpr ⟨fits true, fun _ => rfl⟩

theorem union_self (supported : node.content.supportsUnion = true)
    (single : ∀ array ∈ node.arrays, array.components = 1) :
    ∃ united, node.union node = (.ok (), united) ∧ (united = node ↔ node.listsNaN = false) := by
  refine ⟨{ node with arrays := List.zipWith TupleArray.absorb node.arrays node.arrays }, ?_, ?_⟩
  · rw [union_eq, partners_self supported]
  · rw [listsNaN_eq_false_iff, ← zipWith_absorb_self_iff single]
    constructor
    · exact congrArg Node.arrays
    · intro same
      rw [same]

theorem union_twice {united : Node} (single : ∀ array ∈ node.arrays, array.components = 1)
    (succeeded : node.union other = (.ok (), united)) :
    ∃ again, united.union other = (.ok (), again) ∧ (again = united ↔ other.listsNaN = false) := by
  have shapes : united.shape = node.shape := by
    rw [← shape_union node other, succeeded]
  rw [union_eq] at succeeded
  split at succeeded
  · cases succeeded
  · rename_i partners paired
    cases succeeded
    obtain ⟨-, -, order, fits⟩ := partners_spec paired
    -- pairing goes by shapes, which a union keeps, so the partners are the same
    refine ⟨_, by rw [union_eq, partners_congr shapes, paired], ?_⟩
    simp only [listsNaN_eq_false_iff, ← order.mem_iff]
    rw [← zipWith_absorb_again_iff fits single]
    constructor
    · exact congrArg Node.arrays
    · intro same
      rw [same]

/-- A node of single values can be united with itself, and with any other node a second time. That
changes nothing, unless a NaN is listed. -/
theorem union_repeated (node : Node) (supported : node.content.supportsUnion = true)
    (single : ∀ array ∈ node.arrays, array.components = 1) :
    (∃ united, node.union node = (.ok (), united) ∧ (united = node ↔ node.listsNaN = false)) ∧
    ∀ other united, node.union other = (.ok (), united) →
      ∃ again, united.union other = (.ok (), again) ∧ (again = united ↔ other.listsNaN = false) :=
  ⟨union_self supported single, fun _ _ succeeded => union_twice single succeeded⟩

/-- The two zeros are equal, so nothing is gained of them; a NaN is gained each time. -/
theorem union_repeated_zeros :
    let node : Node := { bare .values .cell with
      arrays := [.ofValues (.doubles [.zero, .ofMagnitude true 0]) (some "x"),
        .ofValues (.ids [4, 4]) (some "x")] }
    let other : Node := { bare .values .cell with
      arrays := [.ofValues (.doubles [.indefinite]) (some "x"), .ofValues (.ids [5]) (some "x")] }
    node.union node = (.ok (), node) ∧
      ∃ united again, node.union other = (.ok (), united) ∧
        united.union other = (.ok (), again) ∧ again ≠ united := by
  intro node other
  obtain ⟨⟨same, itself, plain⟩, twice⟩ := union_repeated node rfl (by decide)
  have succeeded : node.union other = (.ok (), (node.union other).2) :=
    Prod.ext (by decide) rfl
  obtain ⟨again, done, changes⟩ := twice other _ succeeded
  have changed : again ≠ (node.union other).2 := fun kept => absurd (changes.mp kept) (by decide)
  exact ⟨plain.mpr (by decide) ▸ itself, _, again, succeeded, done, changed⟩

/-- A node that lists a NaN lists it twice after a union with itself. -/
theorem not_union_repeated_of_nan :
    ¬ ∀ node : Node, node.content.supportsUnion = true →
      (∀ array ∈ node.arrays, array.components = 1) →
        node.union node = (.ok (), node) ∧
          ∀ other united, node.union other = (.ok (), united) →
            united.union other = (.ok (), united) := by
  intro unchanged
  have same := (unchanged (.ofValues .cell "x" (.doubles [.indefinite])) rfl (by decide)).1
  exact absurd same (by decide)

end Node

end SelectionAlgebra
