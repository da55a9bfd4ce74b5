import Mathlib.Data.List.Basic
import SelectionAlgebra.Proofs.Edit
import SelectionAlgebra.Proofs.Mask.Columns

/-!
Values under distinct names. The value under a name stands at one position, so to work on the name
is to work on that position.
-/

namespace SelectionAlgebra

section

variable {α : Type} {test : α → Bool} {before after : List α} {a : α}
  (skipped : ∀ b ∈ before, ¬ test b = true) (passes : test a = true)
include skipped passes

theorem findIdx?_split : (before ++ a :: after).findIdx? test = some before.length := by
  have absent : before.findIdx? test = none := by
    apply List.findIdx?_eq_none_iff.mpr
    simpa using skipped
  simp [List.findIdx?_append, absent, List.findIdx?_cons, passes]

theorem find?_split : (before ++ a :: after).find? test = some a := by
  have absent : before.find? test = none := List.find?_eq_none.mpr skipped
  simp [absent, passes]

theorem eraseP_split : (before ++ a :: after).eraseP test = before ++ after := by
  rw [List.eraseP_append_right _ skipped, List.eraseP_cons_of_pos passes]

end

theorem eraseIdx_split {α : Type} (before : List α) (a : α) (after : List α) :
    (before ++ a :: after).eraseIdx before.length = before ++ after := by
  rw [List.eraseIdx_append_of_length_le (Nat.le_refl _), Nat.sub_self, List.eraseIdx_cons_zero]

theorem Edit.element_split {α : Type} (edit : Edit α) (before : List α) (a : α) (after : List α) :
    element edit before.length (before ++ a :: after) =
      ((edit a).1, before ++ (edit a).2 :: after) :=
  element_append_right edit before (a :: after) 0

theorem exists_split_of_getElem? {α : Type} {as : List α} {i : Nat} {a : α}
    (present : as[i]? = some a) : ∃ before after, as = before ++ a :: after ∧ before.length = i := by
  induction as generalizing i with
  | nil => cases present
  | cons first rest ih =>
    cases i with
    | zero => cases present; exact ⟨[], rest, rfl, rfl⟩
    | succ i =>
      obtain ⟨before, after, rfl, rfl⟩ := ih present
      exact ⟨first :: before, after, rfl, rfl⟩

namespace Named

variable {α : Type} {name : String} {entries before after : List (Named α)}

theorem skipped_of_fresh (fresh : name ∉ before.map Named.name) :
    ∀ entry ∈ before, ¬ decide (entry.name = name) = true := by
  intro entry member
  rw [decide_eq_true_eq]
  rintro rfl
  exact fresh (List.mem_map_of_mem member)

theorem fresh_of_split (distinct : (entries.map Named.name).Nodup) {entry : Named α}
    (split : entries = before ++ entry :: after) : entry.name ∉ before.map Named.name := by
  intro taken
  rw [split, List.map_append, List.map_cons, List.nodup_append] at distinct
  exact distinct.2.2 _ taken _ List.mem_cons_self rfl

theorem exists_split_of_find? {value : α} (found : find? entries name = some value) :
    ∃ before after, entries = before ++ ⟨name, value⟩ :: after := by
  obtain ⟨entry, present, rfl⟩ := Option.map_eq_some_iff.mp found
  have called : entry.name = name := by simpa using List.find?_some present
  rw [← called]
  exact List.append_of_mem (List.mem_of_find?_eq_some present)

theorem mem_place {value : α} {entry : Named α} (member : entry ∈ place name value entries) :
    entry = ⟨name, value⟩ ∨ entry ∈ entries := by
  induction entries with
  | nil => exact .inl (List.mem_singleton.mp member)
  | cons first rest ih =>
    rw [place] at member
    split at member
    · exact (List.mem_cons.mp member).imp_right (List.mem_cons_of_mem _)
    · rcases List.mem_cons.mp member with rfl | member
      · exact .inr List.mem_cons_self
      · exact (ih member).imp_right (List.mem_cons_of_mem _)

theorem place_split (fresh : name ∉ before.map Named.name) (former value : α) :
    place name value (before ++ ⟨name, former⟩ :: after) = before ++ ⟨name, value⟩ :: after := by
  induction before with
  | nil => simp [place]
  | cons entry rest ih =>
    rw [List.map_cons, List.mem_cons, not_or] at fresh
    rw [List.cons_append, place, if_neg (Ne.symm fresh.1), ih fresh.2, List.cons_append]

theorem names_eraseP (distinct : (entries.map Named.name).Nodup) (name : String) :
    (entries.eraseP fun entry => decide (entry.name = name)).map Named.name =
      (entries.map Named.name).filter fun n => n != name := by
  rw [← distinct.erase_eq_filter, List.erase_eq_eraseP, List.eraseP_map]
  congr 2
  funext entry
  rw [Function.comp_apply, Bool.beq_eq_decide_eq, decide_eq_decide, eq_comm]

theorem find?_eraseP (distinct : (entries.map Named.name).Nodup) (name n : String) :
    find? (entries.eraseP fun entry => decide (entry.name = name)) n =
      if name = n then none else find? entries n := by
  induction entries with
  | nil => simp [find?]
  | cons entry rest ih =>
    obtain ⟨fresh, distinct⟩ := List.nodup_cons.mp distinct
    by_cases here : entry.name = name
    · rw [List.eraseP_cons_of_pos (by simpa using here)]
      split
      · rename_i same
        rw [find?_eq_none_iff, ← same, ← here]
        exact fresh
      · rename_i other
        have passed : entry.name ≠ n := fun same => other (here.symm.trans same)
        simp [find?, passed]
    · rw [List.eraseP_cons_of_neg (by simpa using here)]
      by_cases same : entry.name = n
      · have other : name ≠ n := fun both => here (same.trans both.symm)
        simp [find?, same, other]
      · simpa [find?, same] using ih distinct

theorem find?_map {f : Named α → Named α} {g : α → α}
    (kept : ∀ entry, f entry = ⟨entry.name, g entry.value⟩) (entries : List (Named α))
    (name : String) : find? (entries.map f) name = (find? entries name).map g := by
  simp only [find?, List.find?_map, Option.map_map, Function.comp_def, kept]

theorem filterMap_find? (distinct : (entries.map Named.name).Nodup) :
    ((entries.map Named.name).filterMap fun name => (find? entries name).map (Named.mk name)) =
      entries := by
  rw [List.filterMap_map]
  have each : ∀ entry ∈ entries,
      ((fun name => (find? entries name).map (Named.mk name)) ∘ Named.name) entry = some entry := by
    intro entry member
    simp [find?_of_mem distinct member]
  rw [List.filterMap_congr each, List.filterMap_some]

end Named

end SelectionAlgebra
