import SelectionAlgebra.TupleArray

/-!
Values by their keys. Where a value counts as listed already there is one with its key, so joining
two lists joins their keys, whether or not it leaves out the values that are there.
-/

namespace SelectionAlgebra

namespace Double

theorem toNat_bits (x : Double) :
    x.bits.toNat = (if x.negative then signWeight else 0) + x.magnitude := by
  have bound : x.bits.toNat < 2 ^ 64 := x.bits.toNat_lt
  have weight : signWeight = 2 ^ 63 := rfl
  unfold magnitude
  by_cases signed : signWeight ≤ x.bits.toNat
  · have negative : x.negative = true := decide_eq_true signed
    rw [if_pos negative, weight]
    rw [weight] at signed
    omega
  · have positive : ¬ x.negative = true := fun negative => signed (of_decide_eq_true negative)
    rw [if_neg positive, weight]
    rw [weight] at signed
    omega

theorem rank_eq_zero_iff (x : Double) : x.rank = 0 ↔ x.magnitude = 0 := by
  unfold rank
  split <;> omega

theorem eq_of_rank_eq {x y : Double} (ranks : x.rank = y.rank) (nonzero : x.magnitude ≠ 0) :
    x = y := by
  have nonzeroToo : y.magnitude ≠ 0 := by
    rw [Ne, ← rank_eq_zero_iff, ← ranks, rank_eq_zero_iff]
    exact nonzero
  have bits : x.bits.toNat = y.bits.toNat := by
    rw [toNat_bits, toNat_bits]
    unfold rank at ranks
    cases signX : x.negative <;> cases signY : y.negative <;>
      simp [signX, signY] at ranks ⊢ <;> omega
  cases x
  cases y
  exact congrArg Double.mk (UInt64.toNat_inj.mp bits)

theorem beq_eq_true_iff (x y : Double) :
    (x == y) = true ↔ (x.isNaN = false ∧ y.isNaN = false) ∧ x.rank = y.rank := by
  have unfolded : (x == y) = (!x.isNaN && !y.isNaN && decide (x.rank = y.rank)) := rfl
  simp [unfolded]

instance : PartialEquivBEq Double where
  symm := by
    intro x y same
    obtain ⟨⟨first, second⟩, ranks⟩ := (beq_eq_true_iff ..).mp same
    exact (beq_eq_true_iff ..).mpr ⟨⟨second, first⟩, ranks.symm⟩
  trans := by
    intro x y z same sameToo
    obtain ⟨⟨first, -⟩, ranks⟩ := (beq_eq_true_iff ..).mp same
    obtain ⟨⟨-, third⟩, ranksToo⟩ := (beq_eq_true_iff ..).mp sameToo
    exact (beq_eq_true_iff ..).mpr ⟨⟨first, third⟩, ranks.trans ranksToo⟩

theorem beq_self_iff (x : Double) : (x == x) = true ↔ x.isNaN = false := by
  simp [beq_eq_true_iff]

/-- Equal numbers are the same bit for bit, the two zeros apart. -/
theorem eq_or_isZero_of_beq {x y : Double} (same : (x == y) = true) :
    x = y ∨ x.isZero = true ∧ y.isZero = true := by
  have ranks := ((beq_eq_true_iff x y).mp same).2
  by_cases zero : x.magnitude = 0
  · have zeroToo : y.magnitude = 0 := by
      rw [← rank_eq_zero_iff, ← ranks, rank_eq_zero_iff]
      exact zero
    exact .inr ⟨decide_eq_true zero, decide_eq_true zeroToo⟩
  · exact .inl (eq_of_rank_eq ranks zero)

theorem key_eq_of_beq {x y : Double} (same : (x == y) = true) : x.key = y.key := by
  rcases eq_or_isZero_of_beq same with rfl | ⟨zero, zeroToo⟩
  · rfl
  · simp only [key, zero, zeroToo, if_true]

end Double

theorem appendMissing_cons {α : Type} [BEq α] (values : List α) (v : α) (rest : List α) :
    appendMissing values (v :: rest) =
      appendMissing (if values.contains v then values else values ++ [v]) rest :=
  rfl

/-- What is read off values alike for equal ones is kept by leaving out values that are there. -/
theorem mem_map_appendMissing {α β : Type} [BEq α] {f : α → β}
    (respects : ∀ v w : α, (v == w) = true → f v = f w) (values added : List α) (b : β) :
    b ∈ (appendMissing values added).map f ↔ b ∈ values.map f ∨ b ∈ added.map f := by
  induction added generalizing values with
  | nil => simp [appendMissing]
  | cons v rest ih =>
    rw [appendMissing_cons, ih, List.map_cons, List.mem_cons]
    by_cases present : values.contains v = true
    · -- the value is left out, but one that is equal to it is there
      obtain ⟨w, member, equal⟩ := List.contains_iff_exists_mem_beq.mp present
      have known : f v ∈ values.map f := respects v w equal ▸ List.mem_map_of_mem member
      rw [if_pos present]
      constructor
      · rintro (old | new)
        · exact .inl old
        · exact .inr (.inr new)
      · rintro (old | rfl | new)
        · exact .inl old
        · exact .inl known
        · exact .inr new
    · rw [if_neg present, List.map_append, List.mem_append, List.map_singleton,
        List.mem_singleton, or_assoc]

theorem filterMap_getElem? {α β : Type} (f : α → β) (values : List α) :
    ((List.range values.length).filterMap fun i => values[i]?.map f) = values.map f := by
  induction values with
  | nil => rfl
  | cons v rest ih =>
    rw [List.length_cons, List.range_succ_eq_map, List.filterMap_cons, List.filterMap_map]
    simpa [Function.comp_def] using ih

namespace Data

def keys : Data → List Key
  | ids values => values.map .id
  | ints values => values.map .int
  | doubles values => values.map Double.key
  | strings values => values.map .text

theorem filterMap_keyAt? (data : Data) :
    (List.range data.size).filterMap data.keyAt? = data.keys := by
  cases data with
  | ids values => exact filterMap_getElem? _ values
  | ints values => exact filterMap_getElem? _ values
  | doubles values => exact filterMap_getElem? _ values
  | strings values => exact filterMap_getElem? _ values

section

variable {data added : Data} (type : data.elementType = added.elementType)
include type

theorem mem_keys_unite (key : Key) :
    key ∈ (data.unite added).keys ↔ key ∈ data.keys ∨ key ∈ added.keys := by
  cases data <;> cases added <;> try cases type
  · exact mem_map_appendMissing (fun v w same => congrArg Key.id (eq_of_beq same)) ..
  · exact mem_map_appendMissing (fun v w same => congrArg Key.int (eq_of_beq same)) ..
  · exact mem_map_appendMissing (fun v w same => Double.key_eq_of_beq same) ..
  · exact mem_map_appendMissing (fun v w same => congrArg Key.text (eq_of_beq same)) ..

theorem keys_append : (data.append added).keys = data.keys ++ added.keys := by
  cases data <;> cases added <;> try cases type
  all_goals exact List.map_append

theorem size_append : (data.append added).size = data.size + added.size := by
  cases data <;> cases added <;> try cases type
  all_goals exact List.length_append

theorem doubleAt?_append (i : Nat) :
    (data.append added).doubleAt? i =
      if i < data.size then data.doubleAt? i else added.doubleAt? (i - data.size) := by
  cases data <;> cases added <;> try cases type
  all_goals
    simp only [append, joinWith, doubleAt?, size, List.getElem?_append]
    grind

end

end Data

namespace TupleArray

structure WellShaped (array : TupleArray) : Prop where
  positive : 0 < array.components
  whole : array.components ∣ array.data.size

theorem conflict?_eq_none_iff (array other : TupleArray) :
    array.conflict? other = none ↔
      array.elementType = other.elementType ∧ array.components = other.components := by
  unfold conflict?
  split
  · simp_all
  · split <;> simp_all

theorem mem_keys_absorb {array other : TupleArray} (agreed : array.conflict? other = none)
    (key : Key) :
    key ∈ (array.absorb other).data.keys ↔ key ∈ array.data.keys ∨ key ∈ other.data.keys := by
  have type := ((conflict?_eq_none_iff ..).mp agreed).1
  simp only [absorb]
  split
  · exact Data.mem_keys_unite type key
  · rw [Data.keys_append type, List.mem_append]

end TupleArray

end SelectionAlgebra
