import SelectionAlgebra.Proofs.Data
import SelectionAlgebra.Proofs.Node.Difference
import SelectionAlgebra.Proofs.Node.Union

/-!
Whole tuples. Neither a union nor a difference breaks up the tuples of an array, and neither changes
the number of their components.
-/

namespace SelectionAlgebra

theorem TupleArray.whole_absorb {array partner : TupleArray}
    (agreed : array.conflict? partner = none) (whole : array.components ∣ array.data.size)
    (wholeToo : partner.components ∣ partner.data.size) :
    (array.absorb partner).components ∣ (array.absorb partner).data.size := by
  obtain ⟨type, components⟩ := (conflict?_eq_none_iff ..).mp agreed
  rw [components_absorb]
  by_cases single : array.components = 1
  · rw [single]
    exact Nat.one_dvd _
  · have data : (array.absorb partner).data = array.data.append partner.data := by
      simp only [absorb, if_neg single]
    rw [data, Data.size_append type]
    exact Nat.dvd_add whole (components ▸ wholeToo)

namespace Node

theorem forall_zipWith_absorb {byName : Bool} {ours partners : List TupleArray}
    (fits : List.Forall₂ (Fits byName) ours partners)
    (whole : ∀ array ∈ ours, array.components ∣ array.data.size)
    (wholeToo : ∀ partner ∈ partners, partner.components ∣ partner.data.size) :
    ∀ array ∈ List.zipWith TupleArray.absorb ours partners,
      array.components ∣ array.data.size := by
  induction fits with
  | nil => exact fun _ member => (List.not_mem_nil member).elim
  | cons fit _ ih =>
    obtain ⟨first, rest⟩ := List.forall_mem_cons.mp whole
    obtain ⟨firstToo, restToo⟩ := List.forall_mem_cons.mp wholeToo
    exact List.forall_mem_cons.mpr
      ⟨TupleArray.whole_absorb fit.agreed first firstToo, ih rest restToo⟩

theorem whole_union {node other : Node}
    (whole : ∀ array ∈ node.arrays, array.components ∣ array.data.size)
    (wholeToo : ∀ array ∈ other.arrays, array.components ∣ array.data.size) :
    ∀ array ∈ (node.union other).2.arrays, array.components ∣ array.data.size := by
  rw [union_eq]
  cases paired : node.partners other with
  | error e => exact whole
  | ok partners =>
    obtain ⟨-, -, order, fits⟩ := partners_spec paired
    exact forall_zipWith_absorb fits whole fun partner member =>
      wholeToo partner (order.mem_iff.mp member)

/-! ## Well-shaped arrays -/

section

variable {node other : Node}

theorem shapes_union : (node.union other).2.arrays.map TupleArray.shape =
    node.arrays.map TupleArray.shape :=
  congrArg NodeShape.arrays (shape_union node other)

theorem shapes_subtract : (node.subtract other).2.arrays.map TupleArray.shape =
    node.arrays.map TupleArray.shape :=
  congrArg NodeShape.arrays (shape_subtract node other)

theorem wellShaped_union (shaped : ∀ array ∈ node.arrays, array.WellShaped)
    (shapedToo : ∀ array ∈ other.arrays, array.WellShaped) :
    ∀ array ∈ (node.union other).2.arrays, array.WellShaped := by
  intro array member
  refine ⟨?_, whole_union (fun array member => (shaped array member).whole)
    (fun array member => (shapedToo array member).whole) array member⟩
  have shape : array.shape ∈ node.arrays.map TupleArray.shape :=
    shapes_union ▸ List.mem_map_of_mem member
  obtain ⟨former, before, same⟩ := List.mem_map.mp shape
  have components : former.components = array.components := congrArg ArrayShape.components same
  exact components ▸ (shaped former before).positive

theorem wellShaped_idArrays (name : Option String) (ids? : Option (List Int64)) :
    ∀ array ∈ idArrays name ids?, array.WellShaped := by
  intro array member
  cases ids? with
  | none => cases member
  | some ids =>
    cases List.mem_singleton.mp member
    exact ⟨Nat.one_pos, Nat.one_dvd _⟩

theorem wellShaped_subtract (shaped : ∀ array ∈ node.arrays, array.WellShaped) :
    ∀ array ∈ (node.subtract other).2.arrays, array.WellShaped := by
  cases accepted : node.checkSubtract other with
  | error e => rwa [subtract_of_refused accepted]
  | ok _ =>
    obtain ⟨-, unproblematic, unproblematicToo⟩ := (checkSubtract_eq_ok_iff ..).mp accepted
    obtain ⟨name, mine, listed⟩ := eq_idArrays_of_unproblematic unproblematic
    obtain ⟨label, yours, listedToo⟩ := eq_idArrays_of_unproblematic unproblematicToo
    rw [subtract_of_idArrays accepted listed listedToo]
    exact wellShaped_idArrays name (remaining mine yours)

end

end Node

end SelectionAlgebra
