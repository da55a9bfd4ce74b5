import Mathlib.Data.List.Induction
import Mathlib.Tactic.Tauto

/-!
Histories: what the last of a list of events that touch a thing leaves of it. Events that do not
touch it make no difference, wherever they stand.
-/

namespace SelectionAlgebra

variable {ε : Type} {touches leaves : ε → Prop}

/-- Of the events that touch a thing the last one leaves it so. -/
def Lasts (touches leaves : ε → Prop) (events : List ε) : Prop :=
  ∃ before event after, events = before ++ event :: after ∧ touches event ∧ leaves event ∧
    ∀ later ∈ after, ¬ touches later

namespace Lasts

theorem not_nil : ¬ Lasts touches leaves [] := by
  rintro ⟨before, event, after, split, -⟩
  exact List.append_ne_nil_of_right_ne_nil before (List.cons_ne_nil event after) split.symm

theorem concat_iff (events : List ε) (last : ε) :
    Lasts touches leaves (events ++ [last]) ↔
      touches last ∧ leaves last ∨ ¬ touches last ∧ Lasts touches leaves events := by
  constructor
  · rintro ⟨before, event, after, split, touched, left, untouched⟩
    rcases List.eq_nil_or_concat after with rfl | ⟨after, final, rfl⟩
    · obtain ⟨-, same⟩ := List.append_inj' split rfl
      cases same
      exact .inl ⟨touched, left⟩
    · rw [List.concat_eq_append] at split untouched
      rw [← List.cons_append, ← List.append_assoc] at split
      obtain ⟨rfl, same⟩ := List.append_inj' split rfl
      cases same
      obtain ⟨untouched, final⟩ := List.forall_mem_append.mp untouched
      exact .inr ⟨final _ List.mem_cons_self, before, event, after, rfl, touched, left, untouched⟩
  · rintro (⟨touched, left⟩ | ⟨beside, before, event, after, rfl, touched, left, untouched⟩)
    · exact ⟨events, last, [], rfl, touched, left, fun _ member => absurd member List.not_mem_nil⟩
    · refine ⟨before, event, after ++ [last], by simp, touched, left, ?_⟩
      intro later member
      rcases List.mem_append.mp member with member | member
      · exact untouched later member
      · cases List.mem_singleton.mp member
        exact beside

/-- What each step shows is what the event leaves, or what was shown before where it does not touch
the thing: so a run shows what lasts. -/
theorem foldl_iff {σ : Type} {step : σ → ε → σ} (shows : σ → Prop)
    (each : ∀ state event, shows (step state event) ↔
      touches event ∧ leaves event ∨ ¬ touches event ∧ shows state)
    {start : σ} (bare : ¬ shows start) (events : List ε) :
    shows (events.foldl step start) ↔ Lasts touches leaves events := by
  induction events using List.reverseRecOn with
  | nil => exact iff_of_false bare not_nil
  | append_singleton events last ih =>
    rw [List.foldl_append, List.foldl_cons, List.foldl_nil, each, ih, concat_iff]

theorem append_congr {events others : List ε}
    (same : Lasts touches leaves events ↔ Lasts touches leaves others) (after : List ε) :
    Lasts touches leaves (events ++ after) ↔ Lasts touches leaves (others ++ after) := by
  induction after using List.reverseRecOn with
  | nil => simpa using same
  | append_singleton after last ih =>
    rw [← List.append_assoc, ← List.append_assoc, concat_iff, concat_iff, ih]

theorem swap {one two : ε} (apart : ¬ (touches one ∧ touches two)) (before after : List ε) :
    Lasts touches leaves (before ++ one :: two :: after) ↔
      Lasts touches leaves (before ++ two :: one :: after) := by
  have regroup (first second : ε) :
      before ++ first :: second :: after = before ++ [first] ++ [second] ++ after := by simp
  rw [regroup, regroup]
  apply append_congr
  simp only [concat_iff]
  tauto

end Lasts

end SelectionAlgebra
