import Mathlib.Data.List.Forall2
import SelectionAlgebra.Proofs.Failure
import SelectionAlgebra.Proofs.Node.Shape

/-!
What a union of lists does: the arrays of the other node are matched one to one with those that
take them in, and from there on nothing fails.
-/

namespace SelectionAlgebra.Node

structure Fits (byName : Bool) (array partner : TupleArray) : Prop where
  agreed : array.conflict? partner = none
  named : byName = true → array.name = partner.name

theorem takeNamed?_eq_some {name : Option String} {arrays rest : List TupleArray}
    {found : TupleArray} (taken : takeNamed? name arrays = some (found, rest)) :
    found.name = name ∧ (found :: rest).Perm arrays := by
  induction arrays generalizing rest with
  | nil => cases taken
  | cons array others ih =>
    unfold takeNamed? at taken
    split at taken
    · rename_i same
      cases taken
      exact ⟨same, .refl _⟩
    · cases later : takeNamed? name others with
      | none => rw [later] at taken; cases taken
      | some pair =>
        rw [later] at taken
        cases taken
        obtain ⟨same, order⟩ := ih later
        exact ⟨same, (List.Perm.swap ..).trans (order.cons array)⟩

theorem length_of_takeNamed? {name : Option String} {array found : TupleArray}
    {ours theirs rest : List TupleArray} (lengths : (array :: ours).length = theirs.length)
    (taken : takeNamed? name theirs = some (found, rest)) : ours.length = rest.length := by
  have total := (takeNamed?_eq_some taken).2.length_eq
  rw [List.length_cons] at total lengths
  omega

theorem partnersByName_cons_eq_ok_iff {array : TupleArray} {ours theirs partners : List TupleArray} :
    partnersByName (array :: ours) theirs = .ok partners ↔
      ∃ partner rest, takeNamed? array.name theirs = some (partner, rest) ∧
        array.conflict? partner = none ∧
        ∃ more, partnersByName ours rest = .ok more ∧ partners = partner :: more := by
  rw [partnersByName]
  cases taken : takeNamed? array.name theirs with
  | none => simp
  | some pair =>
    obtain ⟨partner, rest⟩ := pair
    cases agreed : array.conflict? partner with
    | some reason => simp [agreed]
    | none =>
      simp only [agreed, map_eq_ok_iff, Option.some.injEq, Prod.mk.injEq]
      constructor
      · exact fun paired => ⟨partner, rest, ⟨rfl, rfl⟩, agreed, paired⟩
      · rintro ⟨_, _, ⟨rfl, rfl⟩, -, paired⟩
        exact paired

theorem partnersByName_spec {ours theirs partners : List TupleArray}
    (lengths : ours.length = theirs.length) (paired : partnersByName ours theirs = .ok partners) :
    partners.Perm theirs ∧ List.Forall₂ (Fits true) ours partners := by
  induction ours generalizing theirs partners with
  | nil =>
    have none : theirs = [] := by simpa using lengths.symm
    cases paired
    rw [none]
    exact ⟨.refl _, .nil⟩
  | cons array ours ih =>
    obtain ⟨partner, rest, taken, agreed, more, tail, rfl⟩ :=
      partnersByName_cons_eq_ok_iff.mp paired
    obtain ⟨same, order⟩ := takeNamed?_eq_some taken
    obtain ⟨orderRest, fits⟩ := ih (length_of_takeNamed? lengths taken) tail
    exact ⟨(orderRest.cons partner).trans order, .cons ⟨agreed, fun _ => same.symm⟩ fits⟩

theorem partnersByPlace_spec {ours theirs partners : List TupleArray}
    (lengths : ours.length = theirs.length)
    (paired : partnersByPlace ours theirs = .ok partners) :
    partners = theirs ∧ List.Forall₂ (Fits false) ours partners := by
  induction ours generalizing theirs partners with
  | nil =>
    have none : theirs = [] := by simpa using lengths.symm
    subst none
    cases paired
    exact ⟨rfl, .nil⟩
  | cons array ours ih =>
    cases theirs with
    | nil => cases lengths
    | cons partner theirs =>
      unfold partnersByPlace at paired
      split at paired
      · cases paired
      · rename_i agreed
        cases tail : partnersByPlace ours theirs with
        | error e => rw [tail] at paired; cases paired
        | ok more =>
          rw [tail] at paired
          cases paired
          obtain ⟨rfl, fits⟩ := ih (Nat.succ.inj lengths) tail
          exact ⟨rfl, .cons ⟨agreed, fun byName => by cases byName⟩ fits⟩

def partnersBy (byName : Bool) (ours theirs : List TupleArray) :
    Except SelectionError (List TupleArray) :=
  if byName then partnersByName ours theirs else partnersByPlace ours theirs

theorem partnersBy_spec {byName : Bool} {ours theirs partners : List TupleArray}
    (lengths : ours.length = theirs.length)
    (paired : partnersBy byName ours theirs = .ok partners) :
    partners.Perm theirs ∧ List.Forall₂ (Fits byName) ours partners := by
  cases byName with
  | false =>
    obtain ⟨rfl, fits⟩ := partnersByPlace_spec lengths paired
    exact ⟨.refl _, fits⟩
  | true => exact partnersByName_spec lengths paired

/-- The partners are the arrays of the other node, in the order in which they fit. -/
theorem partners_spec {node other : Node} {partners : List TupleArray}
    (paired : node.partners other = .ok partners) :
    node.content = other.content ∧ node.content.supportsUnion = true ∧
      partners.Perm other.arrays ∧
      List.Forall₂ (Fits node.content.pairsByName) node.arrays partners := by
  unfold Node.partners at paired
  split at paired
  · cases paired
  · rename_i supported
    simp only [ne_eq, Bool.or_eq_true, decide_eq_true_eq, Bool.not_eq_true', not_or,
      Bool.not_eq_false, Decidable.not_not] at supported
    split at paired
    · cases paired
    · rename_i lengths
      rw [ne_eq, Decidable.not_not] at lengths
      exact ⟨supported.1, supported.2, partnersBy_spec lengths paired⟩

section

variable {byName : Bool} {ours partners : List TupleArray}

theorem takeInAll_of_fits (fits : List.Forall₂ (Fits byName) ours partners) :
    takeInAll partners ours = (.ok (), List.zipWith TupleArray.absorb ours partners) := by
  induction fits with
  | nil => rfl
  | cons fit _ ih =>
    simp only [takeInAll, TupleArray.takeIn, fit.agreed, ih, List.zipWith_cons_cons]

theorem shape_zipWith_absorb (fits : List.Forall₂ (Fits byName) ours partners) :
    (List.zipWith TupleArray.absorb ours partners).map TupleArray.shape =
      ours.map TupleArray.shape := by
  induction fits with
  | nil => rfl
  | cons _ _ ih => simp only [List.zipWith_cons_cons, List.map_cons, TupleArray.shape_absorb, ih]

end

/-- Once the arrays are paired nothing can fail. -/
theorem union_eq (node other : Node) :
    node.union other =
      match node.partners other with
      | .error e => (.error e, node)
      | .ok partners =>
        (.ok (), { node with arrays := List.zipWith TupleArray.absorb node.arrays partners }) := by
  unfold union
  cases paired : node.partners other with
  | error e => rfl
  | ok partners =>
    obtain ⟨-, -, -, fits⟩ := partners_spec paired
    simp only [takeInAll_of_fits fits]

theorem union_result (node other : Node) : (node.union other).1 = node.checkUnion other := by
  rw [union_eq, checkUnion]
  cases node.partners other <;> rfl

theorem shape_union (node other : Node) : (node.union other).2.shape = node.shape := by
  rw [union_eq]
  split
  · rfl
  · rename_i partners paired
    obtain ⟨-, -, -, fits⟩ := partners_spec paired
    simp only [shape, shape_zipWith_absorb fits]

theorem union_keeps {node other united : Node} (succeeded : node.union other = (.ok (), united)) :
    united.entity = node.entity ∧ united.properties = node.properties := by
  have shape := shape_union node other
  rw [succeeded] at shape
  obtain ⟨-, entity, -, properties⟩ := NodeShape.mk.inj shape
  exact ⟨entity, properties⟩

end SelectionAlgebra.Node
