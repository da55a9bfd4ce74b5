import SelectionAlgebra.Proofs.Data

/-!
What a list gains when it takes in the values of another one that it does not have yet. Equality of
values need not be reflexive: a NaN differs from itself, so it is never there and gained each time.
-/

namespace SelectionAlgebra

section

variable {α : Type} [BEq α]

/-- The offered values, in order, that are equal neither to one of the values nor to one that is
offered before. -/
def newcomers (values offered : List α) : List α :=
  (offered.zipIdx.filter fun entry =>
    !(values ++ offered.take entry.2).contains entry.1).map Prod.fst

theorem newcomers_sublist (values offered : List α) :
    (newcomers values offered).Sublist offered := by
  have kept := (List.filter_sublist (l := offered.zipIdx) (p := fun entry =>
    !(values ++ offered.take entry.2).contains entry.1)).map Prod.fst
  rwa [List.zipIdx_map_fst] at kept

theorem newcomers_cons (values : List α) (v : α) (rest : List α) :
    newcomers values (v :: rest) =
      (if values.contains v then [] else [v]) ++ newcomers (values ++ [v]) rest := by
  have later : ((rest.zipIdx 1).filter fun entry =>
      !(values ++ (v :: rest).take entry.2).contains entry.1).map Prod.fst =
        newcomers (values ++ [v]) rest := by
    rw [newcomers, List.zipIdx_succ, List.filter_map, List.map_map]
    simp [Function.comp_def]
  rw [newcomers, List.zipIdx_cons, List.filter_cons, List.take_zero, List.append_nil, Nat.zero_add]
  cases values.contains v <;> simp only [Bool.not_false, Bool.not_true, if_true,
    Bool.false_eq_true, if_false, List.map_cons, later, List.singleton_append, List.nil_append]

theorem newcomers_congr {values same : List α} (alike : ∀ v, values.contains v = same.contains v)
    (offered : List α) : newcomers values offered = newcomers same offered := by
  simp only [newcomers, List.contains_append, alike]

variable [PartialEquivBEq α]

theorem appendMissing_eq (values offered : List α) :
    appendMissing values offered = values ++ newcomers values offered := by
  induction offered generalizing values with
  | nil => exact (List.append_nil values).symm
  | cons v rest ih =>
    rw [appendMissing_cons, ih, newcomers_cons]
    by_cases present : values.contains v = true
    · -- a second copy of a value that is there makes none of the others known
      have alike (w : α) : values.contains w = (values ++ [v]).contains w := by
        by_cases same : (w == v) = true
        · simp [List.contains_congr same, present]
        · simp [same]
      rw [if_pos present, if_pos present, List.nil_append, newcomers_congr alike]
    · rw [if_neg present, if_neg present, List.append_assoc]

theorem appendMissing_eq_self_iff (values offered : List α) :
    appendMissing values offered = values ↔ ∀ v ∈ offered, values.contains v = true := by
  induction offered generalizing values with
  | nil => simp [appendMissing]
  | cons v rest ih =>
    rw [appendMissing_cons, List.forall_mem_cons]
    by_cases present : values.contains v = true
    · rw [if_pos present, ih]
      exact (and_iff_right present).symm
    · have grown : appendMissing (values ++ [v]) rest ≠ values := by
        intro same
        have lengths := congrArg List.length same
        rw [appendMissing_eq, List.length_append, List.length_append, List.length_singleton]
          at lengths
        omega
      rw [if_neg present]
      exact iff_of_false grown fun all => present all.1

theorem contains_appendMissing (values offered : List α) (w : α) :
    (appendMissing values offered).contains w = (values.contains w || offered.contains w) := by
  induction offered generalizing values with
  | nil => simp [appendMissing]
  | cons v rest ih =>
    rw [appendMissing_cons, ih, List.contains_cons, ← Bool.or_assoc]
    by_cases present : values.contains v = true
    · by_cases same : (w == v) = true
      · simp [List.contains_congr same, present]
      · simp [present, same]
    · rw [if_neg present, List.contains_append]
      simp

theorem contains_iff_of_mem {values : List α} {v : α} (member : v ∈ values) :
    values.contains v = true ↔ (v == v) = true := by
  rw [List.contains_iff_exists_mem_beq]
  constructor
  · rintro ⟨w, -, same⟩
    exact BEq.trans same (BEq.symm same)
  · intro same
    exact ⟨v, member, same⟩

theorem appendMissing_self_iff (values : List α) :
    appendMissing values values = values ↔ ∀ v ∈ values, (v == v) = true := by
  rw [appendMissing_eq_self_iff]
  exact forall₂_congr fun _ member => contains_iff_of_mem member

/-- What was taken in once is not taken in again, unless it differs from itself. -/
theorem appendMissing_again_iff (values offered : List α) :
    appendMissing (appendMissing values offered) offered = appendMissing values offered ↔
      ∀ v ∈ offered, (v == v) = true := by
  rw [appendMissing_eq_self_iff]
  refine forall₂_congr fun v member => ?_
  rw [contains_appendMissing, Bool.or_eq_true, contains_iff_of_mem member, or_iff_right_iff_imp,
    List.contains_iff_exists_mem_beq]
  rintro ⟨w, -, same⟩
  exact BEq.trans same (BEq.symm same)

end

namespace Data

/-- The values of one list that are new to the other. -/
def newcomers (data offered : Data) : Data :=
  data.joinWith SelectionAlgebra.newcomers offered

def holdsNaN : Data → Bool
  | doubles values => values.any Double.isNaN
  | ids _ | ints _ | strings _ => false

section

variable {data added : Data} (type : data.elementType = added.elementType)
include type

theorem unite_eq : data.unite added = data.append (data.newcomers added) := by
  cases data <;> cases added <;> try cases type
  all_goals simp only [unite, append, newcomers, joinWith, appendMissing_eq]

theorem unite_again_iff :
    (data.unite added).unite added = data.unite added ↔ added.holdsNaN = false := by
  cases data <;> cases added <;> try cases type
  all_goals simp [unite, joinWith, holdsNaN, appendMissing_again_iff, Double.beq_self_iff]

end

theorem unite_self_iff (data : Data) : data.unite data = data ↔ data.holdsNaN = false := by
  cases data
  all_goals simp [unite, joinWith, holdsNaN, appendMissing_self_iff, Double.beq_self_iff]

end Data

end SelectionAlgebra
