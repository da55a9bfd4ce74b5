/-!
Values under names, in the order in which the names first came: the common form of a set of masks
and of the nodes of a selection.
-/

namespace SelectionAlgebra

structure Named (α : Type) where
  name : String
  value : α
deriving DecidableEq, BEq

namespace Named

variable {α : Type}

/-- Put a value under a name, in the place of the one already there or at the end. -/
def place (name : String) (value : α) : List (Named α) → List (Named α)
  | [] => [⟨name, value⟩]
  | entry :: rest =>
    if entry.name = name then ⟨name, value⟩ :: rest else entry :: place name value rest

def find? (entries : List (Named α)) (name : String) : Option α :=
  (entries.find? fun entry => entry.name = name).map (·.value)

theorem find?_place (name : String) (value : α) (entries : List (Named α)) (n : String) :
    find? (place name value entries) n = if name = n then some value else find? entries n := by
  simp only [find?]
  induction entries with
  | nil => by_cases h : name = n <;> simp [place, h]
  | cons entry rest ih =>
    simp only [place]
    split
    · rename_i same
      by_cases h : name = n <;> simp [same, h]
    · rename_i different
      by_cases h : entry.name = n
      · have other : name ≠ n := fun same => different (h.trans same.symm)
        simp [h, other]
      · simp [h, ih]

theorem names_place (name : String) (value : α) (entries : List (Named α)) :
    (place name value entries).map Named.name =
      if name ∈ entries.map Named.name then entries.map Named.name
      else entries.map Named.name ++ [name] := by
  induction entries with
  | nil => simp [place]
  | cons entry rest ih =>
    simp only [place]
    split
    · rename_i same
      simp [same]
    · rename_i different
      simp only [List.map_cons, List.mem_cons, ih, Ne.symm different, false_or]
      split <;> simp

theorem nodup_names_place (name : String) (value : α) {entries : List (Named α)}
    (distinct : (entries.map Named.name).Nodup) :
    ((place name value entries).map Named.name).Nodup := by
  rw [names_place]
  split
  · exact distinct
  · rename_i absent
    refine List.nodup_append.mpr ⟨distinct, by simp, ?_⟩
    intro x member y last
    rw [List.mem_singleton.mp last]
    exact fun same => absent (same ▸ member)

end Named

end SelectionAlgebra
