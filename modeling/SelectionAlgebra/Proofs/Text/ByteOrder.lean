import Mathlib.Tactic.SplitIfs
import SelectionAlgebra.Keyed

/-!
The order of texts by their bytes in UTF-8. It is the order by characters: the bytes of a character
keep the order of the characters, whatever follows them.
-/

namespace SelectionAlgebra.Text

def bytes (s : String) : List UInt8 :=
  s.toUTF8.data.toList

theorem bytes_eq (s : String) : bytes s = s.toList.flatMap String.utf8EncodeChar := by
  have encoded : s.toUTF8 = s.toList.utf8Encode := by
    rw [String.toUTF8_eq_toByteArray, ← String.toByteArray_ofList, String.ofList_toList]
  rw [bytes, encoded, List.utf8Encode, List.data_toByteArray]

/-! ## Bytes of a character -/

/-- The numbers below a bound are written in such a way that the texts that begin with two of them
compare as these do. -/
def KeepsOrder (bound : Nat) (write : Nat → List UInt8) : Prop :=
  ∀ ⦃v w : Nat⦄, v < w → w < bound → ∀ us vs, write v ++ us < write w ++ vs

theorem cons_lt_cons_of_lt {a b : Nat} (below : a < b) (fits : b < 256) (us vs : List UInt8) :
    UInt8.ofNat a :: us < UInt8.ofNat b :: vs := by
  have bytes : UInt8.ofNat a < UInt8.ofNat b :=
    (UInt8.ofNat_lt_iff_lt (Nat.lt_trans below fits) fits).mpr below
  exact List.cons_lt_cons_iff.mpr (.inl bytes)

theorem keepsOrder_leading (mark : Nat) {bound : Nat} (fits : bound + mark ≤ 256) :
    KeepsOrder bound fun v => [UInt8.ofNat (v + mark)] := by
  intro v w below inside us vs
  exact cons_lt_cons_of_lt (by omega) (by omega) us vs

theorem KeepsOrder.continued {bound : Nat} {write : Nat → List UInt8}
    (keeps : KeepsOrder bound write) :
    KeepsOrder (bound * 64) fun v => write (v / 64) ++ [UInt8.ofNat (v % 64 + 128)] := by
  intro v w below inside us vs
  rw [List.append_assoc, List.append_assoc]
  by_cases earlier : v / 64 < w / 64
  · exact keeps earlier (by omega) _ _
  · have same : v / 64 = w / 64 := by omega
    rw [same]
    exact List.append_left_lt (cons_lt_cons_of_lt (by omega) (by omega) us vs)

def twoBytes (v : Nat) : List UInt8 :=
  [UInt8.ofNat (v / 64 + 192)] ++ [UInt8.ofNat (v % 64 + 128)]

def threeBytes (v : Nat) : List UInt8 :=
  [UInt8.ofNat (v / 64 / 64 + 224)] ++ [UInt8.ofNat (v / 64 % 64 + 128)]
    ++ [UInt8.ofNat (v % 64 + 128)]

def fourBytes (v : Nat) : List UInt8 :=
  [UInt8.ofNat (v / 64 / 64 / 64 + 240)] ++ [UInt8.ofNat (v / 64 / 64 % 64 + 128)]
    ++ [UInt8.ofNat (v / 64 % 64 + 128)] ++ [UInt8.ofNat (v % 64 + 128)]

theorem keepsOrder_twoBytes : KeepsOrder (32 * 64) twoBytes :=
  (keepsOrder_leading 192 (by decide : 32 + 192 ≤ 256)).continued

theorem keepsOrder_threeBytes : KeepsOrder (16 * 64 * 64) threeBytes :=
  (keepsOrder_leading 224 (by decide : 16 + 224 ≤ 256)).continued.continued

theorem keepsOrder_fourBytes : KeepsOrder (8 * 64 * 64 * 64) fourBytes :=
  (keepsOrder_leading 240 (by decide : 8 + 240 ≤ 256)).continued.continued.continued

theorem toNat_val_lt (c : Char) : c.val.toNat < 0x110000 := by
  rcases c.valid with below | ⟨-, below⟩
  · exact Nat.lt_trans below (by decide)
  · exact below

theorem utf8EncodeChar_eq (c : Char) :
    String.utf8EncodeChar c =
      if c.val.toNat < 128 then [UInt8.ofNat c.val.toNat]
      else if c.val.toNat < 2048 then twoBytes c.val.toNat
      else if c.val.toNat < 65536 then threeBytes c.val.toNat
      else fourBytes c.val.toNat := by
  have bound := toNat_val_lt c
  rw [String.utf8EncodeChar]
  generalize c.val.toNat = v at bound ⊢
  simp only [twoBytes, threeBytes, fourBytes, Nat.div_div_eq_div_mul, ← Nat.lt_succ_iff,
    List.cons_append, List.nil_append]
  split_ifs <;> simp (disch := omega) only [Nat.mod_eq_of_lt]

theorem utf8EncodeChar_append_lt {c d : Char} (below : c < d) (us vs : List UInt8) :
    String.utf8EncodeChar c ++ us < String.utf8EncodeChar d ++ vs := by
  have below : c.val.toNat < d.val.toNat := below
  have bound := toNat_val_lt d
  rw [utf8EncodeChar_eq, utf8EncodeChar_eq]
  generalize c.val.toNat = v at below ⊢
  generalize d.val.toNat = w at below bound ⊢
  split_ifs
  -- a smaller character takes no more bytes
  any_goals omega
  · exact keepsOrder_leading 0 (by decide : 128 + 0 ≤ 256) below ‹w < 128› us vs
  · exact cons_lt_cons_of_lt (b := w / 64 + 192) (by omega) (by omega) ..
  · exact cons_lt_cons_of_lt (b := w / 64 / 64 + 224) (by omega) (by omega) ..
  · exact cons_lt_cons_of_lt (b := w / 64 / 64 / 64 + 240) (by omega) (by omega) ..
  · exact keepsOrder_twoBytes below ‹w < 2048› us vs
  · exact cons_lt_cons_of_lt (a := v / 64 + 192) (b := w / 64 / 64 + 224) (by omega) (by omega) ..
  · exact cons_lt_cons_of_lt (a := v / 64 + 192) (b := w / 64 / 64 / 64 + 240) (by omega)
      (by omega) ..
  · exact keepsOrder_threeBytes below ‹w < 65536› us vs
  · exact cons_lt_cons_of_lt (a := v / 64 / 64 + 224) (b := w / 64 / 64 / 64 + 240) (by omega)
      (by omega) ..
  · exact keepsOrder_fourBytes below (by omega) us vs

/-! ## Bytes of a text -/

theorem flatMap_utf8EncodeChar_lt {cs ds : List Char} (below : cs < ds) :
    cs.flatMap String.utf8EncodeChar < ds.flatMap String.utf8EncodeChar := by
  induction below with
  | @nil d ds =>
    obtain ⟨b, rest, first⟩ := List.exists_cons_of_ne_nil (@String.utf8EncodeChar_ne_nil d)
    rw [List.flatMap_nil, List.flatMap_cons, first, List.cons_append]
    exact List.nil_lt_cons b _
  | rel below => exact utf8EncodeChar_append_lt below _ _
  | cons _ ih => exact List.append_left_lt ih

/-- Texts are ordered by their bytes. -/
theorem lt_iff_bytes_lt (s t : String) : s < t ↔ bytes s < bytes t := by
  have ordered (s t : String) (below : s < t) : bytes s < bytes t := by
    rw [bytes_eq, bytes_eq]
    exact flatMap_utf8EncodeChar_lt below
  refine ⟨ordered s t, fun below => Decidable.byContradiction fun notBelow => ?_⟩
  by_cases above : t < s
  · exact List.lt_asymm below (ordered t s above)
  · cases KeyOrder.eq_of_not_lt notBelow above
    exact List.lt_irrefl _ below

end SelectionAlgebra.Text
