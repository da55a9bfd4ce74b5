import SelectionAlgebra.Node.Difference
import SelectionAlgebra.Proofs.Node.Shape

/-!
What a difference of id lists takes away, and what it leaves alone: it changes no shape, so neither
does it change whether another difference can be taken.
-/

namespace SelectionAlgebra.Node

/-! ## The surviving ids -/

section

variable {id : Int64} {ids : List Int64}

theorem mem_dropWhile_lt {other : Int64} (above : id ≤ other) :
    (other ∈ ids.dropWhile fun skipped => decide (skipped < id)) ↔ other ∈ ids := by
  induction ids with
  | nil => rfl
  | cons first rest ih =>
    rw [List.dropWhile_cons]
    split
    · rename_i smaller
      have distinct : other ≠ first := by
        rintro rfl
        exact Int64.not_lt.mpr above (of_decide_eq_true smaller)
      rw [ih, List.mem_cons, or_iff_right distinct]
    · rfl

theorem head?_dropWhile_lt (ascends : ids.Pairwise (· ≤ ·)) :
    (ids.dropWhile fun skipped => decide (skipped < id)).head? = some id ↔ id ∈ ids := by
  rw [← mem_dropWhile_lt (Int64.le_refl id)]
  have ascendsToo := ascends.sublist (List.dropWhile_sublist fun skipped => decide (skipped < id))
  have reached := List.head?_dropWhile_not (fun skipped => decide (skipped < id)) ids
  cases ahead : ids.dropWhile fun skipped => decide (skipped < id) with
  | nil => simp
  | cons first rest =>
    rw [ahead] at ascendsToo reached
    have above : id ≤ first := by simpa using reached
    rw [List.head?_cons, Option.some.injEq, List.mem_cons]
    constructor
    · intro same
      exact .inl same.symm
    · rintro (same | later)
      · exact same.symm
      · exact Int64.le_antisymm (List.rel_of_pairwise_cons ascendsToo later) above

end

/-- One pass over ascending lists leaves out exactly what is in the other list. -/
theorem sortedDifference_eq_filter {ours theirs : List Int64} (ascends : ours.Pairwise (· ≤ ·))
    (ascendsToo : theirs.Pairwise (· ≤ ·)) :
    sortedDifference ours theirs = ours.filter fun id => decide (id ∉ theirs) := by
  induction ours generalizing theirs with
  | nil => rfl
  | cons id rest ih =>
    obtain ⟨below, ascendsRest⟩ := List.pairwise_cons.mp ascends
    have ascendsAhead := ascendsToo.sublist
      (List.dropWhile_sublist fun other => decide (other < id))
    -- what is skipped is smaller than all that is to come
    have remaining : sortedDifference rest (theirs.dropWhile fun other => decide (other < id)) =
        rest.filter fun later => decide (later ∉ theirs) := by
      rw [ih ascendsRest ascendsAhead]
      apply List.filter_congr
      intro later member
      simp only [mem_dropWhile_lt (below later member)]
    rw [sortedDifference, remaining, List.filter_cons]
    simp only [head?_dropWhile_lt ascendsToo, decide_not, Bool.not_eq_true', decide_eq_false_iff_not,
      ite_not]

theorem ascending_pairwise (ids : List Int64) : (ascending ids).Pairwise (· ≤ ·) := by
  have trans (a b c : Int64) : decide (a ≤ b) → decide (b ≤ c) → decide (a ≤ c) := by
    simpa using Int64.le_trans
  have total (a b : Int64) : decide (a ≤ b) || decide (b ≤ a) := by
    simpa using Int64.le_total a b
  exact (List.pairwise_mergeSort trans total ids).imp of_decide_eq_true

theorem mem_survivors (ours theirs : List Int64) (id : Int64) :
    id ∈ survivors ours theirs ↔ id ∈ ours ∧ id ∉ theirs := by
  rw [survivors, sortedDifference_eq_filter (ascending_pairwise ours) (ascending_pairwise theirs)]
  simp [ascending]

/-! ## What stays as it was -/

theorem idListProblem?_congr {ours same : List TupleArray}
    (shapes : ours.map TupleArray.shape = same.map TupleArray.shape) :
    idListProblem? ours = idListProblem? same := by
  have twins := map_eq_map_iff_forall₂.mp shapes
  cases twins with
  | nil => rfl
  | cons first rest =>
    cases rest with
    | nil =>
      obtain ⟨-, components, elementType⟩ := ArrayShape.mk.inj first
      simp only [idListProblem?, components, elementType]
    | cons _ _ => rfl

theorem checkSubtract_congr {node same : Node} (shapes : node.shape = same.shape) (other : Node) :
    node.checkSubtract other = same.checkSubtract other := by
  obtain ⟨content, -, arrays, -⟩ := NodeShape.mk.inj shapes
  simp only [checkSubtract, content, idListProblem?_congr arrays]

theorem checkSubtract_eq_ok_iff (node other : Node) :
    node.checkSubtract other = .ok () ↔
      (node.content = other.content ∧ node.content.supportsDifference = true) ∧
        idListProblem? node.arrays = none ∧ idListProblem? other.arrays = none := by
  unfold checkSubtract
  split
  · rename_i unfit
    have unsupported : ¬ (node.content = other.content ∧
        node.content.supportsDifference = true) := by
      simpa [or_iff_not_imp_left] using unfit
    simp [unsupported]
  · rename_i fit
    have supported : node.content = other.content ∧ node.content.supportsDifference = true := by
      simpa using fit
    cases idListProblem? node.arrays <;> cases idListProblem? other.arrays <;>
      simp [← supported.1, supported.2]

theorem idListProblem?_of_checkSubtract {node other : Node}
    (accepted : node.checkSubtract other = .ok ()) : idListProblem? node.arrays = none :=
  ((checkSubtract_eq_ok_iff ..).mp accepted).2.1

def idArrays (name : Option String) (ids? : Option (List Int64)) : List TupleArray :=
  (ids?.map fun ids => .ofValues (.ids ids) name).toList

theorem eq_idArrays_of_unproblematic {arrays : List TupleArray}
    (unproblematic : idListProblem? arrays = none) : ∃ name ids?, arrays = idArrays name ids? := by
  match arrays with
  | [] => exact ⟨none, none, rfl⟩
  | [array] =>
    have fits : array.elementType = .id ∧ array.components = 1 := by
      simpa [idListProblem?] using unproblematic
    obtain ⟨name, components, data⟩ := array
    obtain ⟨typed, rfl⟩ := fits
    cases data with
    | ids values => exact ⟨name, some values, rfl⟩
    | ints _ | doubles _ | strings _ => cases typed
  | _ :: _ :: _ => cases unproblematic

theorem shape_withoutIds (theirs : List Int64) {arrays : List TupleArray}
    (unproblematic : idListProblem? arrays = none) :
    (withoutIds theirs arrays).map TupleArray.shape = arrays.map TupleArray.shape := by
  obtain ⟨name, ids?, rfl⟩ := eq_idArrays_of_unproblematic unproblematic
  cases ids? <;> rfl

theorem subtract_result (node other : Node) :
    (node.subtract other).1 = node.checkSubtract other := by
  unfold subtract
  cases node.checkSubtract other with
  | error e => rfl
  | ok _ => cases other.ids? <;> rfl

theorem shape_subtract (node other : Node) : (node.subtract other).2.shape = node.shape := by
  unfold subtract
  split
  · rfl
  · rename_i accepted
    split
    · rfl
    · simp only [shape, shape_withoutIds _ (idListProblem?_of_checkSubtract accepted)]

theorem subtract_of_refused {node other : Node} {e : SelectionError}
    (refused : node.checkSubtract other = .error e) : node.subtract other = (.error e, node) := by
  rw [subtract, refused]

def remaining (mine yours : Option (List Int64)) : Option (List Int64) :=
  match yours with
  | none => mine
  | some theirs => mine.map fun ours => survivors ours theirs

theorem isSome_remaining (mine yours : Option (List Int64)) :
    (remaining mine yours).isSome = mine.isSome := by
  cases yours <;> cases mine <;> rfl

theorem mem_remaining (mine yours : Option (List Int64)) (id : Int64) :
    id ∈ (remaining mine yours).getD [] ↔ id ∈ mine.getD [] ∧ id ∉ yours.getD [] := by
  cases yours with
  | none => simp [remaining]
  | some theirs =>
    cases mine with
    | none => simp [remaining]
    | some ours => exact mem_survivors ours theirs id

theorem subtract_of_idArrays {node other : Node} {name label : Option String}
    {mine yours : Option (List Int64)} (accepted : node.checkSubtract other = .ok ())
    (listed : node.arrays = idArrays name mine) (listedToo : other.arrays = idArrays label yours) :
    node.subtract other =
      (.ok (), { node with arrays := idArrays name (remaining mine yours) }) := by
  have ids : other.ids? = yours := by
    rw [ids?, listedToo]
    cases yours <;> rfl
  rw [subtract, accepted, ids]
  cases yours with
  | none => simp only [remaining, ← listed]
  | some theirs =>
    rw [listed]
    cases mine <;> rfl

/-- What a difference does: the ids that remain are those of the one list that the other one does
not have. A list that was missing remains so. -/
theorem of_subtract {ours theirs reduced : Node}
    (succeeded : ours.subtract theirs = (.ok (), reduced)) :
    (ours.content = theirs.content ∧ ours.content.supportsDifference = true) ∧
      ∃ name other mine yours remaining, ours.arrays = idArrays name mine ∧
        theirs.arrays = idArrays other yours ∧
        reduced = { ours with arrays := idArrays name remaining } ∧
        remaining.isSome = mine.isSome ∧
        ∀ id, id ∈ remaining.getD [] ↔ id ∈ mine.getD [] ∧ id ∉ yours.getD [] := by
  have accepted : ours.checkSubtract theirs = .ok () := by
    rw [← subtract_result, succeeded]
  obtain ⟨kind, unproblematic, unproblematicToo⟩ := (checkSubtract_eq_ok_iff ..).mp accepted
  obtain ⟨name, mine, listed⟩ := eq_idArrays_of_unproblematic unproblematic
  obtain ⟨other, yours, listedToo⟩ := eq_idArrays_of_unproblematic unproblematicToo
  rw [subtract_of_idArrays accepted listed listedToo] at succeeded
  exact ⟨kind, name, other, mine, yours, remaining mine yours, listed, listedToo,
    (congrArg Prod.snd succeeded).symm, isSome_remaining mine yours, mem_remaining mine yours⟩

end SelectionAlgebra.Node
