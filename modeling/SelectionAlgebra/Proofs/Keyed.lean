import SelectionAlgebra.Keyed
import SelectionAlgebra.Proofs.History

/-!
What stands in lists with ascending keys after an entry is put in its place or dropped, and after
they are collected from other lists.
-/

namespace SelectionAlgebra.Keyed

variable {α κ : Type} [LT κ] {key : α → κ}

theorem mem_iff_get? [KeyOrder κ] [DecidableEq κ] (s : Keyed key) (a : α) :
    a ∈ s.entries ↔ s.get? (key a) = some a := by
  rw [get?_eq_some_iff, and_iff_left rfl]

theorem mem_erase_iff [KeyOrder κ] [DecidableEq κ] (s : Keyed key) (k : κ) (a : α) :
    a ∈ (s.erase k).entries ↔ k ≠ key a ∧ a ∈ s.entries := by
  rw [mem_iff_get?, get?_erase, mem_iff_get?]
  split
  · rename_i same
    simp [same]
  · rename_i different
    simp [different]

theorem map_place [DecidableLT κ] {β : Type} (key : α → κ) (f : β → α) (b : β) (entries : List β) :
    (place (fun b => key (f b)) b entries).map f = place key (f b) (entries.map f) := by
  induction entries with
  | nil => rfl
  | cons first rest ih =>
    simp only [place, List.map_cons, ← ih]
    split
    · rfl
    · split <;> rfl

variable [DecidableLT κ] [KeyOrder κ]

theorem mem_insert_iff [DecidableEq κ] (s : Keyed key) (a b : α) :
    b ∈ (s.insert a).entries ↔ key a = key b ∧ a = b ∨ key a ≠ key b ∧ b ∈ s.entries := by
  rw [mem_iff_get?, get?_insert, mem_iff_get?]
  split
  · rename_i same
    simp [same]
  · rename_i different
    simp [different]

theorem mem_ofList_iff [DecidableEq κ] (entries : List α) (a : α) :
    a ∈ (ofList entries : Keyed key).entries ↔
      Lasts (fun b => key b = key a) (fun b => b = a) entries :=
  Lasts.foldl_iff (fun s : Keyed key => a ∈ s.entries) (fun s b => mem_insert_iff s b a)
    List.not_mem_nil entries

end SelectionAlgebra.Keyed
