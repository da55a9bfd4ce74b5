import SelectionAlgebra.Proofs.Newcomers
import SelectionAlgebra.Proofs.Node.Difference
import SelectionAlgebra.Proofs.Node.Union

/-!
What a difference of id lists leaves, occurrence by occurrence: of the ids of the one list those that
the other does not have, each as often as before, in ascending order. The order does not depend on
how the ids stood before, so differences can be taken in any order, and once is enough.
-/

namespace SelectionAlgebra.Node

/-! ## The surviving ids -/

section

variable {ours same theirs : List Int64}

theorem ascending_perm (ids : List Int64) : (ascending ids).Perm ids :=
  List.mergeSort_perm ids _

theorem eq_of_ascending (order : ours.Perm same) (ascends : ours.Pairwise (· ≤ ·))
    (ascendsToo : same.Pairwise (· ≤ ·)) : ours = same :=
  order.eq_of_pairwise (fun _ _ _ _ => Int64.le_antisymm) ascends ascendsToo

/-- The occurrences of ids that the other list does not have. -/
def unlisted (ours theirs : List Int64) : List Int64 :=
  ours.filter fun id => decide (id ∉ theirs)

theorem survivors_perm (ours theirs : List Int64) :
    (survivors ours theirs).Perm (unlisted ours theirs) := by
  have sameMembers (id : Int64) : id ∉ ascending theirs ↔ id ∉ theirs :=
    not_congr (ascending_perm theirs).mem_iff
  rw [survivors, sortedDifference_eq_filter (ascending_pairwise ours) (ascending_pairwise theirs)]
  simp only [sameMembers]
  exact (ascending_perm ours).filter _

theorem survivors_pairwise (ours theirs : List Int64) :
    (survivors ours theirs).Pairwise (· ≤ ·) := by
  rw [survivors, sortedDifference_eq_filter (ascending_pairwise ours) (ascending_pairwise theirs)]
  exact (ascending_pairwise ours).filter _

theorem survivors_eq {left : List Int64} (order : left.Perm (unlisted ours theirs))
    (ascends : left.Pairwise (· ≤ ·)) : survivors ours theirs = left :=
  eq_of_ascending ((survivors_perm ours theirs).trans order.symm) (survivors_pairwise ours theirs)
    ascends

theorem survivors_survivors (ours theirs : List Int64) :
    survivors (survivors ours theirs) theirs = survivors ours theirs := by
  apply survivors_eq _ (survivors_pairwise ours theirs)
  rw [unlisted, List.filter_eq_self.mpr]
  intro id member
  exact decide_eq_true ((mem_survivors ours theirs id).mp member).2

theorem survivors_comm (ours first second : List Int64) :
    survivors (survivors ours first) second = survivors (survivors ours second) first := by
  apply survivors_eq _ (survivors_pairwise _ first)
  have both (one other : List Int64) :
      (unlisted (survivors ours one) other).Perm (unlisted (unlisted ours one) other) :=
    (survivors_perm ours one).filter _
  have either : unlisted (unlisted ours second) first = unlisted (unlisted ours first) second := by
    simp only [unlisted, List.filter_filter, Bool.and_comm]
  calc
    List.Perm (survivors (survivors ours second) first)
        (unlisted (survivors ours second) first) := survivors_perm _ first
    List.Perm _ (unlisted (unlisted ours second) first) := both second first
    _ = unlisted (unlisted ours first) second := either
    List.Perm _ (unlisted (survivors ours first) second) := (both first second).symm

/-- To add ids and take them away again is to take them away. -/
theorem survivors_appendMissing (ours theirs : List Int64) :
    survivors (appendMissing ours theirs) theirs = survivors ours theirs := by
  apply survivors_eq _ (survivors_pairwise ours theirs)
  have none : unlisted (newcomers ours theirs) theirs = [] := by
    rw [unlisted, List.filter_eq_nil_iff]
    intro id member
    simpa using (newcomers_sublist ours theirs).subset member
  have kept : unlisted (appendMissing ours theirs) theirs = unlisted ours theirs := by
    rw [appendMissing_eq, unlisted, List.filter_append]
    exact (congrArg _ none).trans (List.append_nil _)
  rw [kept]
  exact survivors_perm ours theirs

end

section

variable (mine first second : Option (List Int64))

theorem remaining_remaining : remaining (remaining mine first) first = remaining mine first := by
  cases first with
  | none => rfl
  | some theirs =>
    cases mine with
    | none => rfl
    | some ours => exact congrArg some (survivors_survivors ours theirs)

theorem remaining_comm :
    remaining (remaining mine first) second = remaining (remaining mine second) first := by
  cases mine with
  | none => cases first <;> cases second <;> rfl
  | some ours =>
    cases first with
    | none => cases second <;> rfl
    | some firstIds =>
      cases second with
      | none => rfl
      | some secondIds => exact congrArg some (survivors_comm ours firstIds secondIds)

end

/-! ## Differences of nodes -/

def ListsIds (node : Node) : Prop :=
  node.arrays.length ≤ 1 ∧ ∀ array ∈ node.arrays, array.elementType = .id ∧ array.components = 1

theorem idListProblem?_eq_none_iff (node : Node) :
    idListProblem? node.arrays = none ↔ node.ListsIds := by
  unfold ListsIds
  rcases node.arrays with _ | ⟨array, _ | ⟨_, _⟩⟩ <;> simp [idListProblem?]

theorem supportsDifference_iff (content : Content) :
    content.supportsDifference = true ↔ content ∈ [.globalIds, .indices, .pedigreeIds] := by
  cases content <;> decide

def Subtractable (node other : Node) : Prop :=
  (node.content = other.content ∧ node.content ∈ [.globalIds, .indices, .pedigreeIds]) ∧
    node.ListsIds ∧ other.ListsIds

section

variable {node other : Node}

theorem checkSubtract_iff : node.checkSubtract other = .ok () ↔ node.Subtractable other := by
  rw [checkSubtract_eq_ok_iff, supportsDifference_iff, idListProblem?_eq_none_iff,
    idListProblem?_eq_none_iff, Subtractable]

theorem Subtractable.symm (fit : node.Subtractable other) : other.Subtractable node :=
  ⟨⟨fit.1.1.symm, fit.1.1 ▸ fit.1.2⟩, fit.2.2, fit.2.1⟩

theorem checkSubtract_subtract (node other third : Node) :
    (node.subtract other).2.checkSubtract third = node.checkSubtract third :=
  checkSubtract_congr (shape_subtract node other) third

theorem exists_idArrays (accepted : node.checkSubtract other = .ok ()) :
    ∃ name label mine yours, node.arrays = idArrays name mine ∧
      other.arrays = idArrays label yours := by
  obtain ⟨-, unproblematic, unproblematicToo⟩ := (checkSubtract_eq_ok_iff ..).mp accepted
  obtain ⟨name, mine, listed⟩ := eq_idArrays_of_unproblematic unproblematic
  obtain ⟨label, yours, listedToo⟩ := eq_idArrays_of_unproblematic unproblematicToo
  exact ⟨name, label, mine, yours, listed, listedToo⟩

theorem subtract_again (node other : Node) :
    (node.subtract other).2.subtract other = node.subtract other := by
  cases accepted : node.checkSubtract other with
  | error e =>
    simp only [subtract_of_refused accepted]
  | ok _ =>
    obtain ⟨name, label, mine, yours, listed, listedToo⟩ := exists_idArrays accepted
    have acceptedToo := (checkSubtract_subtract node other other).trans accepted
    have once := subtract_of_idArrays accepted listed listedToo
    rw [once] at acceptedToo ⊢
    rw [subtract_of_idArrays acceptedToo rfl listedToo, remaining_remaining]

theorem subtract_comm (node first second : Node) :
    ((node.subtract first).2.subtract second).2 = ((node.subtract second).2.subtract first).2 := by
  have after := checkSubtract_subtract node first second
  have afterToo := checkSubtract_subtract node second first
  -- either one may be refused, and then it is refused after the other one as well
  cases accepted : node.checkSubtract first with
  | error e =>
    rw [accepted] at afterToo
    rw [subtract_of_refused accepted, subtract_of_refused afterToo]
  | ok _ =>
    cases acceptedToo : node.checkSubtract second with
    | error e =>
      rw [acceptedToo] at after
      rw [subtract_of_refused acceptedToo, subtract_of_refused after]
    | ok _ =>
      obtain ⟨name, label, mine, yours, listed, listedFirst⟩ := exists_idArrays accepted
      obtain ⟨-, tag, -, others, -, listedSecond⟩ := exists_idArrays acceptedToo
      rw [accepted] at afterToo
      rw [acceptedToo] at after
      rw [subtract_of_idArrays accepted listed listedFirst] at after ⊢
      rw [subtract_of_idArrays acceptedToo listed listedSecond] at afterToo ⊢
      rw [subtract_of_idArrays after rfl listedSecond, subtract_of_idArrays afterToo rfl listedFirst]
      simp only [remaining_comm mine yours others]

theorem exists_grown {name label : Option String} {mine yours : Option (List Int64)}
    {partners : List TupleArray} {byName : Bool} (order : partners.Perm (idArrays label yours))
    (fits : List.Forall₂ (Fits byName) (idArrays name mine) partners) :
    ∃ grown, List.zipWith TupleArray.absorb (idArrays name mine) partners = idArrays name grown ∧
      remaining grown yours = remaining mine yours := by
  cases mine with
  | none => exact ⟨none, rfl, rfl⟩
  | some ours =>
    obtain ⟨partner, _, fit, rest, rfl⟩ := List.forall₂_cons_left_iff.mp fits
    cases rest
    cases yours with
    | none => exact absurd order.eq_nil (List.cons_ne_nil _ _)
    | some theirs =>
      cases List.singleton_perm_singleton.mp order
      exact ⟨some (appendMissing ours theirs), rfl,
        congrArg some (survivors_appendMissing ours theirs)⟩

theorem subtract_union (accepted : node.checkSubtract other = .ok ()) :
    (node.union other).2.subtract other = node.subtract other := by
  have acceptedToo : (node.union other).2.checkSubtract other = .ok () :=
    (checkSubtract_congr (shape_union node other) other).trans accepted
  rw [union_eq] at acceptedToo ⊢
  cases paired : node.partners other with
  | error e => rfl
  | ok partners =>
    obtain ⟨-, -, order, fits⟩ := partners_spec paired
    obtain ⟨name, label, mine, yours, listed, listedToo⟩ := exists_idArrays accepted
    rw [listed] at fits
    rw [listedToo] at order
    obtain ⟨grown, arrays, same⟩ := exists_grown order fits
    simp only [paired, listed, arrays] at acceptedToo ⊢
    rw [subtract_of_idArrays acceptedToo rfl listedToo, same,
      subtract_of_idArrays accepted listed listedToo]

theorem subtract_of_singletons (accepted : node.checkSubtract other = .ok ())
    {array partner : TupleArray} (listed : node.arrays = [array])
    (listedToo : other.arrays = [partner]) :
    ∃ ours theirs left, array.data = .ids ours ∧ partner.data = .ids theirs ∧
      node.subtract other = (.ok (), { node with arrays := [{ array with data := .ids left }] }) ∧
      left.Pairwise (· ≤ ·) ∧ left.Perm (unlisted ours theirs) := by
  obtain ⟨name, label, mine, yours, first, second⟩ := exists_idArrays accepted
  cases mine with
  | none => cases listed.symm.trans first
  | some ours =>
    cases yours with
    | none => cases listedToo.symm.trans second
    | some theirs =>
      cases listed.symm.trans first
      cases listedToo.symm.trans second
      exact ⟨ours, theirs, survivors ours theirs, rfl, rfl,
        subtract_of_idArrays accepted first second, survivors_pairwise ours theirs,
        survivors_perm ours theirs⟩

theorem subtract_of_missing (accepted : node.checkSubtract other = .ok ())
    (missing : node.arrays = [] ∨ other.arrays = []) : node.subtract other = (.ok (), node) := by
  obtain ⟨name, label, mine, yours, listed, listedToo⟩ := exists_idArrays accepted
  have kept : remaining mine yours = mine := by
    cases mine with
    | none => cases yours <;> rfl
    | some ours =>
      cases yours with
      | none => rfl
      | some theirs =>
        rcases missing with none | none
        · cases none.symm.trans listed
        · cases none.symm.trans listedToo
  rw [subtract_of_idArrays accepted listed listedToo, kept, ← listed]

theorem subtract_eq_ok_iff : (node.subtract other).1 = .ok () ↔ node.Subtractable other := by
  rw [subtract_result, checkSubtract_iff]

end

/-- When a difference can be taken, what it leaves, and what follows: a second one changes nothing,
the order of two is all the same, and a union before it makes no difference. -/
theorem subtract_exact (node other : Node) :
    ((node.subtract other).1 = .ok () ↔ node.Subtractable other) ∧
    ((node.subtract other).1 = .ok () ↔ (other.subtract node).1 = .ok ()) ∧
    (node.Subtractable other →
      (node.arrays = [] ∨ other.arrays = [] → node.subtract other = (.ok (), node)) ∧
      ∀ array partner, node.arrays = [array] → other.arrays = [partner] →
        ∃ ours theirs left, array.data = .ids ours ∧ partner.data = .ids theirs ∧
          node.subtract other =
            (.ok (), { node with arrays := [{ array with data := .ids left }] }) ∧
          left.Pairwise (· ≤ ·) ∧ left.Perm (unlisted ours theirs)) ∧
    (¬ node.Subtractable other → (node.subtract other).2 = node) ∧
    (node.subtract other).2.subtract other = node.subtract other ∧
    (∀ third, ((node.subtract other).2.subtract third).2 =
      ((node.subtract third).2.subtract other).2) ∧
    (node.Subtractable other → (node.union other).2.subtract other = node.subtract other) := by
  refine ⟨subtract_eq_ok_iff, ?_, ?_, ?_, subtract_again node other,
    subtract_comm node other, fun fit => subtract_union (checkSubtract_iff.mpr fit)⟩
  · rw [subtract_eq_ok_iff, subtract_eq_ok_iff]
    exact ⟨Subtractable.symm, Subtractable.symm⟩
  · intro fit
    have accepted := checkSubtract_iff.mpr fit
    exact ⟨subtract_of_missing accepted,
      fun _ _ listed listedToo => subtract_of_singletons accepted listed listedToo⟩
  · intro unfit
    cases accepted : node.checkSubtract other with
    | error e => rw [subtract_of_refused accepted]
    | ok _ => exact absurd (checkSubtract_iff.mp accepted) unfit

/-- Unsorted ids with repetitions, the least and the greatest among them. -/
theorem subtract_exact_extremes :
    let node := Node.ofIds .indices .cell [3, Int64.maxValue, 1, 3, Int64.minValue, 1, 7]
    let other := Node.ofIds .indices .cell [7, 1, Int64.minValue, 7, 2]
    node.Subtractable other ∧
      node.subtract other = (.ok (), .ofIds .indices .cell [3, 3, Int64.maxValue]) ∧
      (node.union other).2.subtract other = node.subtract other := by
  intro node other
  obtain ⟨-, -, succeeds, -, -, -, afterUnion⟩ := subtract_exact node other
  have fit : node.Subtractable other := checkSubtract_iff.mp (by decide)
  obtain ⟨_, _, left, mine, yours, result, ascends, order⟩ := (succeeds fit).2 _ _ rfl rfl
  cases mine
  cases yours
  have sorted : left = [3, 3, Int64.maxValue] :=
    eq_of_ascending (order.trans (by decide)) ascends (by decide)
  subst sorted
  exact ⟨fit, result, afterUnion fit⟩

end SelectionAlgebra.Node
