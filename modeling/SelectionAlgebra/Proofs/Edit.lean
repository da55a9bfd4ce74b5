import SelectionAlgebra.Edit

/-!
Changes in place: what a run of changes leaves, and which elements a change of one element leaves
alone. Steps that correspond one by one make up runs that correspond.
-/

namespace SelectionAlgebra

/-! ## Corresponding steps -/

/-- The second step does to what is seen of a state what the first does to the state. -/
def Corresponds {ρ σ τ : Type} (view : σ → τ) (holds : σ → Prop) (step : σ → ρ × σ)
    (seen : τ → ρ × τ) : Prop :=
  ∀ state, holds state →
    holds (step state).2 ∧ seen (view state) = ((step state).1, view (step state).2)

section

variable {α κ ρ σ τ : Type} {view : σ → τ} {holds : σ → Prop}

theorem Corresponds.map {ρ' : Type} (f : ρ → ρ') {step : σ → ρ × σ} {seen : τ → ρ × τ}
    (corresponds : Corresponds view holds step seen) :
    Corresponds view holds (fun state => (f (step state).1, (step state).2))
      fun state => (f (seen state).1, (seen state).2) := by
  intro state start
  obtain ⟨next, same⟩ := corresponds state start
  refine ⟨next, ?_⟩
  simp only [same]

theorem Corresponds.runAll {step : κ → σ → ρ × σ} {seen : κ → τ → ρ × τ}
    (each : ∀ k, Corresponds view holds (step k) (seen k)) (ks : List κ) :
    Corresponds view holds (runAll step ks) (runAll seen ks) := by
  intro state start
  induction ks generalizing state with
  | nil => exact ⟨start, rfl⟩
  | cons k rest ih =>
    obtain ⟨next, first⟩ := each k state start
    obtain ⟨last, others⟩ := ih _ next
    refine ⟨last, ?_⟩
    simp only [SelectionAlgebra.runAll, first, others]

theorem Corresponds.each {edit : α → Edit σ} {seen : α → Edit τ}
    (single : ∀ a, Corresponds view holds (edit a) (seen a)) (as : List α) :
    Corresponds view holds (Edit.each edit as) (Edit.each seen as) := by
  intro state start
  induction as generalizing state with
  | nil => exact ⟨start, rfl⟩
  | cons a rest ih =>
    obtain ⟨next, first⟩ := single a state start
    unfold Edit.each
    rw [first]
    cases done : edit a state with
    | mk result after =>
      rw [done] at next
      cases result with
      | error e => exact ⟨next, rfl⟩
      | ok _ => exact ih after next

/-! ## Invariants -/

theorem runAll_holds (holds : σ → Prop) {step : κ → σ → ρ × σ}
    (kept : ∀ k state, holds state → holds (step k state).2) (ks : List κ) {state : σ}
    (start : holds state) : holds (runAll step ks state).2 := by
  induction ks generalizing state with
  | nil => exact start
  | cons k rest ih => exact ih (kept k state start)

theorem Edit.each_holds (holds : σ → Prop) {edit : α → Edit σ} {as : List α}
    (kept : ∀ a ∈ as, ∀ state, holds state → holds (edit a state).2) {state : σ}
    (start : holds state) : holds (Edit.each edit as state).2 := by
  induction as generalizing state with
  | nil => exact start
  | cons a rest ih =>
    obtain ⟨first, others⟩ := List.forall_mem_cons.mp kept
    have next := first state start
    unfold Edit.each
    split <;> (rename_i step; rw [step] at next)
    · exact ih others next
    · exact next

/-! ## Changes that are made as a whole -/

def Edit.allOrNothing (edit : Edit σ) : Edit σ := fun state =>
  match edit state with
  | (.ok (), changed) => (.ok (), changed)
  | (.error e, _) => (.error e, state)

theorem Edit.allOrNothing_of_ok {edit : Edit σ} {state changed : σ}
    (done : edit state = (.ok (), changed)) : edit.allOrNothing state = (.ok (), changed) := by
  rw [allOrNothing, done]

theorem Edit.of_allOrNothing {edit : Edit σ} {state changed : σ}
    (done : edit.allOrNothing state = (.ok (), changed)) : edit state = (.ok (), changed) := by
  unfold allOrNothing at done
  split at done
  · rename_i same
    cases done
    exact same
  · cases done

theorem Edit.allOrNothing_of_error {edit : Edit σ} {state : σ} {e : SelectionError}
    (failed : (edit state).1 = .error e) : edit.allOrNothing state = (.error e, state) := by
  have split : edit state = (.error e, (edit state).2) := Prod.ext failed rfl
  rw [allOrNothing, split]

theorem Edit.allOrNothing_holds (holds : σ → Prop) {edit : Edit σ} {state : σ} (start : holds state)
    (kept : holds (edit state).2) : holds (edit.allOrNothing state).2 := by
  unfold allOrNothing
  split
  · rename_i done
    rw [done] at kept
    exact kept
  · exact start

theorem Corresponds.allOrNothing {edit : Edit σ} {seen : Edit τ}
    (changes : Corresponds view holds edit seen) :
    Corresponds view holds edit.allOrNothing seen.allOrNothing := by
  intro state start
  obtain ⟨next, same⟩ := changes state start
  cases done : edit state with
  | mk result changed =>
    rw [done] at next same
    cases result with
    | error e =>
      rw [Edit.allOrNothing_of_error (congrArg Prod.fst done),
        Edit.allOrNothing_of_error (congrArg Prod.fst same)]
      exact ⟨start, rfl⟩
    | ok _ =>
      rw [Edit.allOrNothing_of_ok done, Edit.allOrNothing_of_ok same]
      exact ⟨next, rfl⟩

end

/-! ## Changes of lists -/

namespace Edit

variable {α β σ : Type}

theorem each_append (edit : α → Edit σ) (first second : List α) (state : σ) :
    each edit (first ++ second) state =
      match each edit first state with
      | (.ok (), state) => each edit second state
      | (.error e, state) => (.error e, state) := by
  induction first generalizing state with
  | nil => rfl
  | cons a rest ih =>
    simp only [List.cons_append, each]
    split
    · exact ih _
    · rfl

theorem each_singleton (edit : α → Edit σ) (a : α) (state : σ) :
    each edit [a] state = edit a state := by
  simp only [each]
  split <;> (rename_i same; exact same.symm)

theorem each_map (edit : β → Edit σ) (f : α → β) (as : List α) (state : σ) :
    each edit (as.map f) state = each (fun a => edit (f a)) as state := by
  induction as generalizing state with
  | nil => rfl
  | cons a rest ih => simp only [List.map_cons, each, ih]

section

variable (edit : Edit α)

theorem element_result {i : Nat} {as : List α} {a : α} (present : as[i]? = some a) :
    (element edit i as).1 = (edit a).1 := by
  induction as generalizing i with
  | nil => cases present
  | cons first rest ih =>
    cases i with
    | zero => cases present; rfl
    | succ i => exact ih present

theorem map_element {f : α → β} (kept : ∀ a, f (edit a).2 = f a) (i : Nat) (as : List α) :
    (element edit i as).2.map f = as.map f := by
  induction as generalizing i with
  | nil => simp only [element]
  | cons a rest ih =>
    cases i with
    | zero => simp only [element, List.map_cons, kept]
    | succ i => simp only [element, List.map_cons, ih]

theorem forall_element (p : α → Prop) (kept : ∀ a, p a → p (edit a).2) (i : Nat) {as : List α}
    (all : ∀ a ∈ as, p a) : ∀ a ∈ (element edit i as).2, p a := by
  induction as generalizing i with
  | nil => rwa [element]
  | cons a rest ih =>
    obtain ⟨first, others⟩ := List.forall_mem_cons.mp all
    cases i with
    | zero => exact List.forall_mem_cons.mpr ⟨kept a first, others⟩
    | succ i => exact List.forall_mem_cons.mpr ⟨first, ih i others⟩

theorem length_element (i : Nat) (as : List α) : (element edit i as).2.length = as.length := by
  have kept := congrArg List.length (map_element edit (f := fun _ => ()) (fun _ => rfl) i as)
  rwa [List.length_map, List.length_map] at kept

theorem element_append_left {i : Nat} {front : List α} (inside : i < front.length)
    (back : List α) :
    element edit i (front ++ back) =
      ((element edit i front).1, (element edit i front).2 ++ back) := by
  induction front generalizing i with
  | nil => cases inside
  | cons a rest ih =>
    cases i with
    | zero => rfl
    | succ i => simp only [List.cons_append, element, ih (Nat.lt_of_succ_lt_succ inside)]

theorem element_append_right (front back : List α) (i : Nat) :
    element edit (front.length + i) (front ++ back) =
      ((element edit i back).1, front ++ (element edit i back).2) := by
  induction front with
  | nil => simp only [List.length_nil, Nat.zero_add, List.nil_append]
  | cons a rest ih =>
    rw [List.length_cons, Nat.succ_add]
    simp only [List.cons_append, element, ih]

theorem everyElement_of_succeeds {as : List α} (succeeds : ∀ a ∈ as, (edit a).1 = .ok ()) :
    everyElement edit as = (.ok (), as.map fun a => (edit a).2) := by
  induction as with
  | nil => rfl
  | cons a rest ih =>
    obtain ⟨first, others⟩ := List.forall_mem_cons.mp succeeds
    have pair : edit a = (.ok (), (edit a).2) := Prod.ext first rfl
    rw [everyElement, pair]
    simp only [ih others, List.map_cons]

theorem each_element_of_succeeds {test : α → Bool} {rest : List α}
    (succeeds : ∀ a ∈ rest, test a = true → (edit a).1 = .ok ()) (front : List α) :
    each (element edit)
        (((rest.zipIdx front.length).filter fun entry => test entry.1).map Prod.snd)
        (front ++ rest) =
      (.ok (), front ++ rest.map fun a => if test a then (edit a).2 else a) := by
  induction rest generalizing front with
  | nil => rfl
  | cons a rest ih =>
    obtain ⟨first, others⟩ := List.forall_mem_cons.mp succeeds
    -- one element on, what was changed so far is the front
    have next (b : α) := ih others (front ++ [b])
    simp only [List.length_append, List.length_singleton, List.append_assoc,
      List.singleton_append] at next
    rw [List.zipIdx_cons]
    by_cases passes : test a = true
    · have step : element edit front.length (front ++ a :: rest) =
          (.ok (), front ++ (edit a).2 :: rest) := by
        rw [show front.length = front.length + 0 from rfl, element_append_right, element,
          first passes]
      simp only [List.filter_cons, passes, if_true, List.map_cons, each, step, next]
    · simp only [List.filter_cons, passes, Bool.false_eq_true, if_false, List.map_cons, next]

end

end Edit

end SelectionAlgebra
