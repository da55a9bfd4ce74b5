import Mathlib.Data.List.Forall2
import SelectionAlgebra.Resolve.Options

/-!
Steps that may fail, one after the other. A list of steps succeeds when each of them does, and
otherwise fails as the first that fails. The reports of an outcome have no part in its result.
-/

namespace SelectionAlgebra

section Steps

variable {α β ε : Type} {f : α → Except ε β}

theorem bind_eq_ok_iff {step : Except ε α} {next : α → Except ε β} {b : β} :
    (step >>= next) = .ok b ↔ ∃ a, step = .ok a ∧ next a = .ok b := by
  cases step with
  | error e =>
    constructor
    · intro passed
      cases passed
    · rintro ⟨a, ⟨⟩, -⟩
  | ok a =>
    constructor
    · exact fun passed => ⟨a, rfl, passed⟩
    · rintro ⟨a, ⟨⟩, passed⟩
      exact passed

theorem bind_eq_error_iff {step : Except ε α} {next : α → Except ε β} {e : ε} :
    (step >>= next) = .error e ↔ step = .error e ∨ ∃ a, step = .ok a ∧ next a = .error e := by
  cases step with
  | error d =>
    constructor
    · intro failed
      cases failed
      exact .inl rfl
    · rintro (same | ⟨a, ⟨⟩, -⟩)
      cases same
      rfl
  | ok a =>
    constructor
    · exact fun failed => .inr ⟨a, rfl, failed⟩
    · rintro (same | ⟨_, ⟨⟩, failed⟩)
      · cases same
      · exact failed

theorem map_eq_ok_iff {step : Except ε α} {g : α → β} {b : β} :
    step.map g = .ok b ↔ ∃ a, step = .ok a ∧ b = g a := by
  cases step with
  | error e => simp [Except.map]
  | ok a => simp [Except.map, eq_comm]

theorem mapM_eq_ok_iff {as : List α} {bs : List β} :
    as.mapM f = .ok bs ↔ List.Forall₂ (fun a b => f a = .ok b) as bs := by
  induction as generalizing bs with
  | nil =>
    rw [List.mapM_nil, List.forall₂_nil_left_iff]
    exact ⟨fun same => (Except.ok.inj same).symm, fun same => same ▸ rfl⟩
  | cons a as ih =>
    rw [List.mapM_cons, List.forall₂_cons_left_iff]
    constructor
    · intro passed
      cases head : f a with
      | error e => rw [head] at passed; cases passed
      | ok b =>
        cases tail : as.mapM f with
        | error e => rw [head, tail] at passed; cases passed
        | ok more =>
          rw [head, tail] at passed
          cases passed
          exact ⟨b, more, rfl, ih.mp tail, rfl⟩
    · rintro ⟨b, more, head, tail, rfl⟩
      rw [head, ih.mpr tail]
      rfl

theorem exists_of_mapM_eq_ok {as : List α} {bs : List β} (passed : as.mapM f = .ok bs) {a : α}
    (member : a ∈ as) : ∃ b ∈ bs, f a = .ok b := by
  have each := mapM_eq_ok_iff.mp passed
  clear passed
  induction each with
  | nil => cases member
  | cons head _ ih =>
    rcases List.mem_cons.mp member with rfl | member
    · exact ⟨_, List.mem_cons_self, head⟩
    · obtain ⟨b, memberToo, step⟩ := ih member
      exact ⟨b, List.mem_cons_of_mem _ memberToo, step⟩

theorem exists_of_mem_mapM {as : List α} {bs : List β} (passed : as.mapM f = .ok bs) {b : β}
    (member : b ∈ bs) : ∃ a ∈ as, f a = .ok b := by
  have each := mapM_eq_ok_iff.mp passed
  clear passed
  induction each with
  | nil => cases member
  | cons head _ ih =>
    rcases List.mem_cons.mp member with rfl | member
    · exact ⟨_, List.mem_cons_self, head⟩
    · obtain ⟨a, memberToo, step⟩ := ih member
      exact ⟨a, List.mem_cons_of_mem _ memberToo, step⟩

theorem mapM_eq_error_iff {as : List α} {e : ε} :
    as.mapM f = .error e ↔
      ∃ before a after, as = before ++ a :: after ∧ (∀ x ∈ before, ∃ b, f x = .ok b) ∧
        f a = .error e := by
  induction as with
  | nil => simp [pure, Except.pure]
  | cons a as ih =>
    rw [List.mapM_cons]
    constructor
    · intro failed
      cases head : f a with
      | error d =>
        rw [head] at failed
        cases failed
        exact ⟨[], a, as, rfl, by simp, head⟩
      | ok b =>
        cases tail : as.mapM f with
        | ok bs => rw [head, tail] at failed; cases failed
        | error d =>
          rw [head, tail] at failed
          cases failed
          obtain ⟨before, x, after, rfl, passed, stopped⟩ := ih.mp tail
          refine ⟨a :: before, x, after, rfl, ?_, stopped⟩
          intro y member
          rcases List.mem_cons.mp member with rfl | member
          · exact ⟨b, head⟩
          · exact passed y member
    · rintro ⟨before, x, after, split, passed, stopped⟩
      cases before with
      | nil =>
        cases split
        rw [stopped]
        rfl
      | cons y before =>
        obtain ⟨rfl, rfl⟩ := List.cons.inj split
        obtain ⟨b, head⟩ := passed a (by simp)
        have tail := ih.mpr ⟨before, x, after, rfl,
          fun y member => passed y (List.mem_cons_of_mem _ member), stopped⟩
        rw [head, tail]
        rfl

theorem exists_mapM_eq_ok {as : List α} (each : ∀ a ∈ as, ∃ b, f a = .ok b) :
    ∃ bs, as.mapM f = .ok bs := by
  cases steps : as.mapM f with
  | ok bs => exact ⟨bs, rfl⟩
  | error e =>
    obtain ⟨_, a, _, split, _, stopped⟩ := mapM_eq_error_iff.mp steps
    obtain ⟨b, passed⟩ := each a (by simp [split])
    cases stopped.symm.trans passed

end Steps

def FailsOnly {α : Type} (allowed : SelectionError → Prop) (step : Except SelectionError α) :
    Prop :=
  ∀ e, step = .error e → allowed e

namespace FailsOnly

variable {α β : Type} {allowed : SelectionError → Prop}

theorem ok (a : α) : FailsOnly allowed (.ok a) := by
  intro e failed
  cases failed

theorem error {e : SelectionError} (fits : allowed e) :
    FailsOnly allowed (.error e : Except SelectionError α) := by
  rintro d ⟨⟩
  exact fits

theorem bind {step : Except SelectionError α} {next : α → Except SelectionError β}
    (first : FailsOnly allowed step) (second : ∀ a, FailsOnly allowed (next a)) :
    FailsOnly allowed (step >>= next) := by
  intro e failed
  cases outcome : step with
  | error d => rw [outcome] at failed; cases failed; exact first _ outcome
  | ok a => rw [outcome] at failed; exact second a e failed

theorem map {step : Except SelectionError α} (f : α → β) (first : FailsOnly allowed step) :
    FailsOnly allowed (step.map f) := by
  intro e failed
  cases outcome : step with
  | error d => rw [outcome] at failed; cases failed; exact first _ outcome
  | ok a => rw [outcome] at failed; cases failed

theorem mapM {f : α → Except SelectionError β} (each : ∀ a, FailsOnly allowed (f a))
    (as : List α) : FailsOnly allowed (as.mapM f) := by
  intro e failed
  obtain ⟨_, a, _, _, _, stopped⟩ := mapM_eq_error_iff.mp failed
  exact each a e stopped

end FailsOnly

namespace Outcome

variable {α β : Type}

theorem result_bind (o : Outcome α) (f : α → Outcome β) :
    (o >>= f).result = o.result >>= fun a => (f a).result := by
  cases o with
  | mk result warnings => cases result <;> rfl

theorem result_mapM (f : α → Outcome β) (as : List α) :
    (as.mapM f).result = as.mapM fun a => (f a).result := by
  have loop : ∀ done, (List.mapM.loop f as done).result =
      List.mapM.loop (fun a => (f a).result) as done := by
    induction as with
    | nil => intro done; rfl
    | cons a as ih =>
      intro done
      simp only [List.mapM.loop, result_bind, ih]
  exact loop []

theorem result_forgive (options : ConvertOptions) (substitute : α)
    (report : SelectionError → Warning) (result : Except SelectionError α) :
    (forgive options substitute report result).result =
      match result with
      | .ok a => .ok a
      | .error e =>
        if e.isMissingArray && options.allowMissingArray then .ok substitute else .error e := by
  cases result with
  | ok a => rfl
  | error e =>
    simp only [forgive]
    split <;> rfl

end Outcome

end SelectionAlgebra
