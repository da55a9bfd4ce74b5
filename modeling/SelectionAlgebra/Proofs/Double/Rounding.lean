import Mathlib.Tactic.Ring
import SelectionAlgebra.Double.Basic

/-!
Whole numbers as doubles. Up to `2 ^ 53` a whole number is a double. A greater one is rounded to a
multiple of the weight of its last place, and doubles compare such numbers as they are rounded:
order is kept, but what is rounded to the same number is no longer told apart.
-/

namespace SelectionAlgebra.Double

/-! ## Quotients rounded to whole numbers -/

theorem roundHalfEven_bounds (n den : Nat) :
    n / den ≤ roundHalfEven n den ∧ roundHalfEven n den ≤ n / den + 1 := by
  rw [roundHalfEven]
  split
  · omega
  · split <;> omega

theorem roundHalfEven_mono {m n : Nat} (den : Nat) (le : m ≤ n) :
    roundHalfEven m den ≤ roundHalfEven n den := by
  have quotients : m / den ≤ n / den := Nat.div_le_div_right le
  have upper := (roundHalfEven_bounds m den).2
  have lower := (roundHalfEven_bounds n den).1
  rcases Nat.lt_or_eq_of_le quotients with less | same
  · omega
  · have whole := Nat.div_add_mod m den
    have wholeToo := Nat.div_add_mod n den
    rw [← same] at lower wholeToo
    by_cases small : 2 * (m % den) < den
    · have down : roundHalfEven m den = m / den := if_pos small
      omega
    · by_cases large : den < 2 * (n % den)
      · have up : roundHalfEven n den = n / den + 1 :=
          (if_neg (Nat.not_lt.mpr large.le)).trans (if_pos large)
        omega
      · -- both are half way between the same neighbours
        have equal : m % den = n % den := by omega
        rw [roundHalfEven, roundHalfEven, same, equal]

theorem roundHalfEven_mul (n : Nat) {den : Nat} (positive : 0 < den) :
    roundHalfEven (n * den) den = n := by
  rw [roundHalfEven, Nat.mul_div_cancel n positive, Nat.mul_mod_left, Nat.mul_zero, if_pos positive]

/-- Weight of the last of the 53 leading bits of a number; it is 1 where there are fewer. -/
def lastPlace (n : Nat) : Nat :=
  2 ^ (n.log2 - 52)

def nearestNat (n : Nat) : Nat :=
  roundHalfEven n (lastPlace n) * lastPlace n

theorem lastPlace_pos (n : Nat) : 0 < lastPlace n :=
  Nat.two_pow_pos _

theorem nearestNat_of_dvd {n : Nat} (whole : lastPlace n ∣ n) : nearestNat n = n := by
  obtain ⟨k, split⟩ := whole
  have same : n = k * lastPlace n := split.trans (Nat.mul_comm ..)
  have exact := roundHalfEven_mul k (lastPlace_pos n)
  rw [← same] at exact
  rw [nearestNat, exact, ← same]

theorem nearestNat_of_le {n : Nat} (small : n ≤ 2 ^ 53) : nearestNat n = n := by
  apply nearestNat_of_dvd
  rcases Nat.lt_or_eq_of_le small with less | rfl
  · by_cases zero : n = 0
    · simp [zero]
    · have places : n.log2 < 53 := (Nat.log2_lt zero).mpr less
      have unit : lastPlace n = 1 := by
        rw [lastPlace, Nat.sub_eq_zero_of_le (by omega), Nat.pow_zero]
      rw [unit]
      exact Nat.one_dvd n
  · decide +kernel

def leadingBits (n : Nat) : Nat :=
  roundHalfEven (n * 2 ^ (52 - n.log2)) (lastPlace n)

theorem nearestNat_mul (n : Nat) : nearestNat n * 2 ^ 52 = leadingBits n * 2 ^ n.log2 := by
  unfold nearestNat leadingBits lastPlace
  rcases Nat.le_total n.log2 52 with few | many
  · have unit : n.log2 - 52 = 0 := Nat.sub_eq_zero_of_le few
    have places : 2 ^ 52 = 2 ^ (52 - n.log2) * 2 ^ n.log2 := by
      rw [← Nat.pow_add, Nat.sub_add_cancel few]
    have exact (k : Nat) : roundHalfEven k 1 = k := by
      simpa using roundHalfEven_mul k Nat.one_pos
    rw [unit, Nat.pow_zero, exact, exact, Nat.mul_one, places, Nat.mul_assoc]
  · have unit : 52 - n.log2 = 0 := Nat.sub_eq_zero_of_le many
    rw [unit, Nat.pow_zero, Nat.mul_one, Nat.mul_assoc, ← Nat.pow_add, Nat.sub_add_cancel many]

theorem leadingBits_bounds {n : Nat} (nonzero : n ≠ 0) :
    2 ^ 52 ≤ leadingBits n ∧ leadingBits n ≤ 2 ^ 53 := by
  have scale (k : Nat) : 2 ^ (n.log2 + k) * 2 ^ (52 - n.log2) = 2 ^ (52 + k) * lastPlace n := by
    rw [lastPlace, ← Nat.pow_add, ← Nat.pow_add]
    congr 1
    omega
  -- both powers of two around `n` are rounded to themselves; the upper one is reached by a carry
  have lower := roundHalfEven_mono (lastPlace n)
    (Nat.mul_le_mul_right (2 ^ (52 - n.log2)) (Nat.log2_self_le nonzero))
  have upper := roundHalfEven_mono (lastPlace n)
    (Nat.mul_le_mul_right (2 ^ (52 - n.log2)) (Nat.le_of_lt (Nat.lt_log2_self (n := n))))
  rw [scale 1, roundHalfEven_mul _ (lastPlace_pos n)] at upper
  have exact : 2 ^ n.log2 * 2 ^ (52 - n.log2) = 2 ^ 52 * lastPlace n := scale 0
  rw [exact, roundHalfEven_mul _ (lastPlace_pos n)] at lower
  exact ⟨lower, upper⟩

/-- Places and leading bits order numbers by their products, where the next place takes over from
twice the least leading bits. -/
theorem scaled_le_iff {w p q bits other : Nat} (positive : 0 < w)
    (bounds : w ≤ bits ∧ bits ≤ 2 * w) (boundsToo : w ≤ other ∧ other ≤ 2 * w) :
    bits * 2 ^ p ≤ other * 2 ^ q ↔ p * w + bits ≤ q * w + other := by
  rcases Nat.lt_trichotomy p q with less | rfl | more
  · obtain ⟨k, rfl⟩ := Nat.exists_eq_add_of_lt less
    refine iff_of_true ?_ ?_
    · calc bits * 2 ^ p ≤ 2 * w * 2 ^ p := Nat.mul_le_mul_right _ bounds.2
        _ = w * 2 ^ (p + 1) := by ring
        _ ≤ other * 2 ^ (p + k + 1) :=
          Nat.mul_le_mul boundsToo.1 (Nat.pow_le_pow_right Nat.two_pos (by omega))
    · calc p * w + bits ≤ p * w + 2 * w := Nat.add_le_add_left bounds.2 _
        _ = (p + 1) * w + w := by ring
        _ ≤ (p + k + 1) * w + other :=
          Nat.add_le_add (Nat.mul_le_mul_right _ (by omega)) boundsToo.1
  · rw [Nat.mul_le_mul_right_iff (Nat.two_pow_pos p), Nat.add_le_add_iff_left]
  · obtain ⟨k, rfl⟩ := Nat.exists_eq_add_of_lt more
    have scaled : bits * 2 ^ (q + k + 1) = bits * 2 ^ (k + 1) * 2 ^ q := by ring
    have shifted : (q + k + 1) * w = q * w + (k * w + w) := by ring
    rw [scaled, Nat.mul_le_mul_right_iff (Nat.two_pow_pos q), shifted]
    cases k with
    | zero => omega
    | succ k =>
      -- two places further even the least leading bits exceed the most of the other number
      have power : 2 ^ 2 ≤ 2 ^ (k + 1 + 1) := Nat.pow_le_pow_right Nat.two_pos (by omega)
      have most : bits * 2 ^ 2 ≤ bits * 2 ^ (k + 1 + 1) := Nat.mul_le_mul_left bits power
      have places : w ≤ (k + 1) * w := Nat.le_mul_of_pos_left w (Nat.succ_pos k)
      omega

theorem nearestNat_pos {n : Nat} (nonzero : n ≠ 0) : 0 < nearestNat n := by
  have product := nearestNat_mul n
  have bits := (leadingBits_bounds nonzero).1
  have positive : 0 < leadingBits n * 2 ^ n.log2 :=
    Nat.mul_pos (Nat.lt_of_lt_of_le (Nat.two_pow_pos 52) bits) (Nat.two_pow_pos _)
  rw [← product] at positive
  exact Nat.pos_of_mul_pos_right positive

theorem nearestMagnitude_eq {n : Nat} (nonzero : n ≠ 0) (small : n < 2 ^ 64) :
    nearestMagnitude n 1 = (n.log2 + 1022) * 2 ^ 52 + leadingBits n := by
  have places : n.log2 < 64 := (Nat.log2_lt nonzero).mpr small
  have place : binaryPlace n 1 = n.log2 := by
    have one : Nat.log2 1 = 0 := by decide
    simp [binaryPlace, one, Nat.log2_self_le nonzero]
  have exponent : Max.max (binaryPlace n 1 - 52) (-1074) = (n.log2 : Int) - 52 := by omega
  have up : (-((n.log2 : Int) - 52)).toNat = 52 - n.log2 := by omega
  have down : ((n.log2 : Int) - 52).toNat = n.log2 - 52 := by omega
  have field : ((n.log2 : Int) - 52 + 1074).toNat = n.log2 + 1022 := by omega
  have bits := (leadingBits_bounds nonzero).2
  have weight : leadingWeight = 2 ^ 52 := rfl
  have finite : (n.log2 + 1022) * 2 ^ 52 + leadingBits n ≤ 2047 * 2 ^ 52 := by omega
  rw [nearestMagnitude, if_neg nonzero]
  simp only [exponent, up, down, field, Nat.one_mul, weight, infinite]
  exact Nat.min_eq_left finite

theorem nearestNat_zero : nearestNat 0 = 0 := by
  decide

theorem nearestNat_le_iff {m n : Nat} (nonzero : m ≠ 0) (nonzeroToo : n ≠ 0) :
    nearestNat m ≤ nearestNat n ↔
      m.log2 * 2 ^ 52 + leadingBits m ≤ n.log2 * 2 ^ 52 + leadingBits n := by
  rw [← scaled_le_iff (Nat.two_pow_pos 52) (leadingBits_bounds nonzero)
    (leadingBits_bounds nonzeroToo), ← nearestNat_mul, ← nearestNat_mul,
    Nat.mul_le_mul_right_iff (Nat.two_pow_pos 52)]

theorem nearestNat_mono {m n : Nat} (le : m ≤ n) : nearestNat m ≤ nearestNat n := by
  by_cases zero : m = 0
  · rw [zero, nearestNat_zero]
    exact Nat.zero_le _
  · have zeroToo : n ≠ 0 := by omega
    have bits := leadingBits_bounds zero
    have bitsToo := leadingBits_bounds zeroToo
    have places : m.log2 ≤ n.log2 :=
      (Nat.le_log2 zeroToo).mpr (Nat.le_trans (Nat.log2_self_le zero) le)
    rw [nearestNat_le_iff zero zeroToo]
    rcases Nat.lt_or_eq_of_le places with less | same
    · omega
    · have order : leadingBits m ≤ leadingBits n := by
        rw [leadingBits, leadingBits, lastPlace, lastPlace, same]
        exact roundHalfEven_mono _ (Nat.mul_le_mul_right _ le)
      omega

theorem nearestMagnitude_le_iff {m n : Nat} (small : m < 2 ^ 64) (smallToo : n < 2 ^ 64) :
    nearestMagnitude m 1 ≤ nearestMagnitude n 1 ↔ nearestNat m ≤ nearestNat n := by
  by_cases zero : m = 0
  · subst zero
    rw [nearestNat_zero]
    exact iff_of_true (Nat.zero_le _) (Nat.zero_le _)
  · by_cases zeroToo : n = 0
    · subst zeroToo
      have positive := nearestNat_pos zero
      have bits := leadingBits_bounds zero
      have none : nearestMagnitude 0 1 = 0 := rfl
      rw [nearestMagnitude_eq zero small, nearestNat_zero, none]
      exact iff_of_false (by omega) (by omega)
    · rw [nearestMagnitude_eq zero small, nearestMagnitude_eq zeroToo smallToo,
        nearestNat_le_iff zero zeroToo]
      omega

/-! ## Signed numbers -/

section

variable {magnitude : Nat} (small : magnitude < signWeight) (negative : Bool)
include small

theorem toNat_bits_ofMagnitude :
    (ofMagnitude negative magnitude).bits.toNat =
      (if negative then signWeight else 0) + magnitude := by
  have weight : signWeight = 2 ^ 63 := rfl
  rw [ofMagnitude, UInt64.toNat_ofNat']
  apply Nat.mod_eq_of_lt
  split <;> omega

theorem magnitude_ofMagnitude : (ofMagnitude negative magnitude).magnitude = magnitude := by
  rw [Double.magnitude, toNat_bits_ofMagnitude small]
  cases negative with
  | false => rw [if_neg Bool.false_ne_true, Nat.zero_add, Nat.mod_eq_of_lt small]
  | true => rw [if_pos rfl, Nat.add_mod_left, Nat.mod_eq_of_lt small]

theorem negative_ofMagnitude : (ofMagnitude negative magnitude).negative = negative := by
  rw [Double.negative, toNat_bits_ofMagnitude small]
  cases negative with
  | false => simpa using small
  | true => simp

end

theorem nearestMagnitude_le (num den : Nat) : nearestMagnitude num den ≤ infinite := by
  unfold nearestMagnitude
  split
  · exact Nat.zero_le _
  · exact Nat.min_le_right ..

theorem isNaN_ofInt (n : Int) : (ofInt n).isNaN = false := by
  have below := nearestMagnitude_le n.natAbs 1
  have finite : infinite < signWeight := by decide
  rw [isNaN, ofInt, ofRatio, magnitude_ofMagnitude (Nat.lt_of_le_of_lt below finite)]
  exact decide_eq_false (Nat.not_lt.mpr below)

theorem rank_ofInt (n : Int) :
    (ofInt n).rank =
      if n < 0 then -(nearestMagnitude n.natAbs 1 : Int) else nearestMagnitude n.natAbs 1 := by
  have small : nearestMagnitude n.natAbs 1 < signWeight :=
    Nat.lt_of_le_of_lt (nearestMagnitude_le n.natAbs 1) (by decide)
  rw [rank, ofInt, ofRatio, magnitude_ofMagnitude small, negative_ofMagnitude small]
  simp only [decide_eq_true_eq]

/-- The number with at most 53 significant bits that is nearest to a whole number; of two equally
near, the one with the even last bit. -/
def nearestInt (n : Int) : Int :=
  if n < 0 then -(nearestNat n.natAbs : Int) else nearestNat n.natAbs

theorem nearestInt_of_le {n : Int} (small : n.natAbs ≤ 2 ^ 53) : nearestInt n = n := by
  rw [nearestInt, nearestNat_of_le small]
  split <;> omega

theorem nearestInt_mono {m n : Int} (le : m ≤ n) : nearestInt m ≤ nearestInt n := by
  unfold nearestInt
  split <;> split
  · have order : nearestNat n.natAbs ≤ nearestNat m.natAbs := nearestNat_mono (by omega)
    omega
  · omega
  · omega
  · have order : nearestNat m.natAbs ≤ nearestNat n.natAbs := nearestNat_mono (by omega)
    omega

/-- Whole numbers are compared as doubles by what they are rounded to. -/
theorem le_ofInt_iff {m n : Int} (small : m.natAbs < 2 ^ 64) (smallToo : n.natAbs < 2 ^ 64) :
    (ofInt m).le (ofInt n) = true ↔ nearestInt m ≤ nearestInt n := by
  have magnitudes := nearestMagnitude_le_iff small smallToo
  have magnitudesBack := nearestMagnitude_le_iff smallToo small
  simp only [le, isNaN_ofInt, rank_ofInt, nearestInt, Bool.not_false, Bool.true_and,
    decide_eq_true_eq]
  split <;> split
  · omega
  · omega
  · -- a negative number keeps its sign: what it is rounded to is not zero
    have nearest : 0 < nearestNat n.natAbs := nearestNat_pos (by omega)
    have origins := nearestMagnitude_le_iff smallToo (Nat.two_pow_pos 64)
    have origin : nearestMagnitude 0 1 = 0 := rfl
    rw [origin, nearestNat_zero] at origins
    omega
  · omega

end SelectionAlgebra.Double
