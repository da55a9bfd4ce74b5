import SelectionAlgebra.Proofs.Data
import SelectionAlgebra.Property

/-!
Equality of qualifiers and of bags of them. It is that of the values, so a NaN makes a qualifier
differ from itself, and the two zeros make equal qualifiers: equality is symmetric and transitive,
and it is reflexive where there is no NaN.
-/

namespace SelectionAlgebra

namespace Double

def folded (x : Double) : Double :=
  if x.isZero then zero else x

theorem isZero_folded (x : Double) : x.folded.isZero = x.isZero := by
  unfold folded
  split
  · rename_i isZero
    rw [isZero]
    rfl
  · rfl

theorem beq_iff_folded (x y : Double) :
    (x == y) = true ↔ (x.isNaN = false ∧ y.isNaN = false) ∧ x.folded = y.folded := by
  constructor
  · intro same
    refine ⟨((beq_eq_true_iff x y).mp same).1, ?_⟩
    rcases eq_or_isZero_of_beq same with rfl | ⟨zero, zeroToo⟩
    · rfl
    · rw [folded, folded, if_pos zero, if_pos zeroToo]
  · rintro ⟨numbers, same⟩
    have zeros : x.isZero = y.isZero := by rw [← isZero_folded x, same, isZero_folded y]
    by_cases zero : x.isZero = true
    · have origin := (rank_eq_zero_iff x).mpr (of_decide_eq_true zero)
      have originToo := (rank_eq_zero_iff y).mpr (of_decide_eq_true (zeros.symm.trans zero))
      exact (beq_eq_true_iff x y).mpr ⟨numbers, origin.trans originToo.symm⟩
    · rw [folded, folded, if_neg zero, if_neg (zeros ▸ zero)] at same
      subst same
      exact (beq_self_iff x).mpr numbers.1

end Double

namespace ExtensionValue

def holdsNaN : ExtensionValue → Bool
  | double value => value.isNaN
  | int _ | text _ => false

def folded : ExtensionValue → ExtensionValue
  | double value => double value.folded
  | value => value

theorem beq_iff (v w : ExtensionValue) :
    (v == w) = true ↔ (v.holdsNaN = false ∧ w.holdsNaN = false) ∧ v.folded = w.folded := by
  cases v <;> cases w
  case double.double x y =>
    simp only [holdsNaN, folded, double.injEq]
    exact Double.beq_iff_folded x y
  all_goals simp [BEq.beq, instBEqExtensionValue.beq, holdsNaN, folded]

end ExtensionValue

namespace Property

def holdsNaN : Property → Bool
  | epsilon value => value.isNaN
  | extension _ value => value.holdsNaN
  | _ => false

def folded : Property → Property
  | epsilon value => epsilon value.folded
  | extension key value => extension key value.folded
  | property => property

theorem beq_iff (p q : Property) :
    (p == q) = true ↔ (p.holdsNaN = false ∧ q.holdsNaN = false) ∧ p.folded = q.folded := by
  cases p <;> cases q
  case epsilon.epsilon x y =>
    simp only [holdsNaN, folded, epsilon.injEq]
    exact Double.beq_iff_folded x y
  case extension.extension k v l w =>
    have parts : (extension k v == extension l w) = (k == l && v == w) := rfl
    simp only [parts, Bool.and_eq_true, beq_iff_eq, ExtensionValue.beq_iff, holdsNaN, folded,
      extension.injEq]
    exact and_left_comm
  -- qualifiers of two kinds differ, whatever their values
  all_goals try exact iff_of_false (by rintro ⟨⟩) (by rintro ⟨-, ⟨⟩⟩)
  -- the other kinds hold no doubles, and their values equal only themselves
  all_goals
    rename_i v w
    constructor
    · intro same
      cases (eq_of_beq same : v = w)
      exact ⟨⟨rfl, rfl⟩, rfl⟩
    · rintro ⟨-, ⟨⟩⟩
      exact beq_self_eq_true v

instance : PartialEquivBEq Property where
  symm same := by
    obtain ⟨numbers, folded⟩ := (beq_iff ..).mp same
    exact (beq_iff ..).mpr ⟨numbers.symm, folded.symm⟩
  trans same sameToo := by
    obtain ⟨⟨first, -⟩, folded⟩ := (beq_iff ..).mp same
    obtain ⟨⟨-, third⟩, foldedToo⟩ := (beq_iff ..).mp sameToo
    exact (beq_iff ..).mpr ⟨⟨first, third⟩, folded.trans foldedToo⟩

theorem beq_self_iff (p : Property) : (p == p) = true ↔ p.holdsNaN = false := by
  simp [beq_iff]

end Property

namespace Properties

section

variable {properties : Properties}

theorem inverse_eq_true_iff :
    properties.inverse = true ↔ properties.get? .inverse = some (.inverse true) := by
  unfold inverse
  split <;> simp_all

theorem componentNumber?_eq_some_iff (v : Int32) :
    properties.componentNumber? = some v ↔
      properties.get? .componentNumber = some (.componentNumber v) := by
  unfold componentNumber?
  split <;> simp_all

theorem epsilon?_eq_some_iff (v : Double) :
    properties.epsilon? = some v ↔ properties.get? .epsilon = some (.epsilon v) := by
  unfold epsilon?
  split <;> simp_all

end

def Agree (properties other : Properties) : Prop :=
  ∀ key, Option.Rel (fun p q => (p == q) = true) (properties.get? key) (other.get? key)

theorem isSubset_iff (properties other : Properties) :
    properties.isSubset other = true ↔
      ∀ key p, properties.get? key = some p → ∃ q, other.get? key = some q ∧ (q == p) = true := by
  rw [isSubset, List.all_eq_true]
  constructor
  · intro each key p found
    obtain ⟨member, rfl⟩ := (Keyed.get?_eq_some_iff ..).mp found
    have passed := each p member
    split at passed
    · rename_i q there
      exact ⟨q, there, passed⟩
    · cases passed
  · intro each p member
    obtain ⟨q, there, same⟩ := each p.key p ((Keyed.get?_eq_some_iff ..).mpr ⟨member, rfl⟩)
    simp only [there, same]

theorem isSubset_trans {first second third : Properties} (lower : first.isSubset second = true)
    (upper : second.isSubset third = true) : first.isSubset third = true := by
  rw [isSubset_iff] at lower upper ⊢
  intro key p found
  obtain ⟨q, between, same⟩ := lower key p found
  obtain ⟨r, last, sameToo⟩ := upper key q between
  exact ⟨r, last, BEq.trans sameToo same⟩

theorem isSubset_self_iff (properties : Properties) :
    properties.isSubset properties = true ↔ ∀ p ∈ properties.entries, p.holdsNaN = false := by
  simp only [isSubset_iff, ← Property.beq_self_iff]
  constructor
  · intro each p member
    have found := (Keyed.get?_eq_some_iff properties p.key p).mpr ⟨member, rfl⟩
    obtain ⟨q, foundToo, same⟩ := each p.key p found
    cases found.symm.trans foundToo
    exact same
  · intro each key p found
    exact ⟨p, found, each p ((Keyed.get?_eq_some_iff ..).mp found).1⟩

theorem Agree.symm {properties other : Properties} (agree : properties.Agree other) :
    other.Agree properties := by
  intro key
  have related := agree key
  revert related
  generalize properties.get? key = left, other.get? key = right
  rintro (⟨same⟩ | _)
  · exact .some (BEq.symm same)
  · exact .none

theorem Agree.isSubset {properties other : Properties} (agree : properties.Agree other) :
    properties.isSubset other = true := by
  rw [isSubset_iff]
  intro key p found
  have related := agree key
  rw [found] at related
  generalize other.get? key = right at related
  obtain ⟨same⟩ := related
  exact ⟨_, rfl, BEq.symm same⟩

theorem isSubset_both_iff (properties other : Properties) :
    properties.isSubset other = true ∧ other.isSubset properties = true ↔
      properties.Agree other := by
  constructor
  · rw [isSubset_iff, isSubset_iff]
    rintro ⟨subset, superset⟩ key
    cases found : properties.get? key with
    | some p =>
      obtain ⟨q, there, same⟩ := subset key p found
      rw [there]
      exact .some (BEq.symm same)
    | none =>
      cases there : other.get? key with
      | none => exact .none
      | some q =>
        obtain ⟨p, here, -⟩ := superset key q there
        cases found.symm.trans here
  · exact fun agree => ⟨agree.isSubset, agree.symm.isSubset⟩

end Properties

end SelectionAlgebra
