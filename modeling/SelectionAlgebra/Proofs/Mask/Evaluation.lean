import SelectionAlgebra.Proofs.Mask.Inserts

/-!
What the evaluation of a compiled expression gives, for any masks: the least name of the expression
that has no mask, the first mask of another length, or a value for each element.
-/

namespace SelectionAlgebra

/-- Under the first of the names, and under those that follow it, stand masks of one length, until
under the given name there is a mask of another length. -/
def FirstUneven (names : List String) (length? : String → Option Nat) (name : String)
    (expected actual : Nat) : Prop :=
  ∃ first before after, names = first :: (before ++ name :: after) ∧
    (∀ n ∈ first :: before, length? n = some expected) ∧ length? name = some actual ∧
    actual ≠ expected

variable {α : Type}

/-! ## Checks -/

namespace MaskSet

theorem not_contains_iff (masks : MaskSet α) (name : String) :
    (!masks.contains name) = true ↔ masks.get? name = none := by
  simp [contains]

theorem missingName?_eq_some_iff (masks : MaskSet α) (compiled : Compiled) (name : String) :
    masks.missingName? compiled = some name ↔
      name ∈ compiled.names.entries ∧ masks.get? name = none ∧
        ∀ other ∈ compiled.names.entries, masks.get? other = none → ¬ other < name := by
  simp only [missingName?, NameSet.find?_eq_some_iff, not_contains_iff]

theorem missingName?_eq_none_iff (masks : MaskSet α) (compiled : Compiled) :
    masks.missingName? compiled = none ↔
      ∀ name ∈ compiled.names.entries, masks.get? name ≠ none := by
  simp only [missingName?, List.find?_eq_none, not_contains_iff, Ne]

def length? (masks : MaskSet α) (name : String) : Option Nat :=
  (masks.get? name).map List.length

theorem length?_of_mem {masks : MaskSet α} {entry : Named (List α)}
    (member : entry ∈ masks.entries) : masks.length? entry.name = some entry.value.length := by
  rw [length?, get?, Named.find?_of_mem masks.distinct member]
  rfl

theorem forall_names_iff (masks : MaskSet α) (length : Nat) :
    (∀ name ∈ masks.names, masks.length? name = some length) ↔
      ∀ entry ∈ masks.entries, entry.value.length = length := by
  simp only [names, List.forall_mem_map]
  constructor
  · intro each entry member
    exact Option.some.inj ((length?_of_mem member).symm.trans (each entry member))
  · intro each entry member
    rw [length?_of_mem member, each entry member]

theorem commonLength_eq_ok_iff (masks : MaskSet α) (length : Nat) :
    masks.commonLength = .ok length ↔
      (∀ name ∈ masks.names, masks.length? name = some length) ∧
        (masks.names = [] → length = 0) := by
  rw [forall_names_iff]
  unfold commonLength names
  cases entries : masks.entries with
  | nil => simp [eq_comm]
  | cons first rest =>
    simp only [List.forall_mem_cons, List.map_cons, reduceCtorEq, false_imp_iff, and_true]
    split
    · rename_i odd found
      have different : odd.value.length ≠ first.value.length := by
        simpa using List.find?_some found
      have member := List.mem_of_find?_eq_some found
      constructor
      · intro passed
        cases passed
      · rintro ⟨here, each⟩
        exact absurd ((each odd member).trans here.symm) different
    · rename_i none
      have even : ∀ entry ∈ rest, entry.value.length = first.value.length := by
        simpa using List.find?_eq_none.mp none
      rw [Except.ok.injEq]
      constructor
      · rintro rfl
        exact ⟨rfl, even⟩
      · exact fun each => each.1

theorem firstUneven_iff (masks : MaskSet α) (name : String) (expected actual : Nat) :
    FirstUneven masks.names masks.length? name expected actual ↔
      ∃ first before odd after, masks.entries = first :: (before ++ odd :: after) ∧
        (first.value.length = expected ∧ ∀ entry ∈ before, entry.value.length = expected) ∧
        (odd.name = name ∧ odd.value.length = actual) ∧ actual ≠ expected := by
  constructor
  · rintro ⟨_, _, _, order, even, found, different⟩
    obtain ⟨first, rest, entries, rfl, split⟩ := List.map_eq_cons_iff.mp order
    obtain ⟨before, others, rfl, rfl, last⟩ := List.map_eq_append_iff.mp split
    obtain ⟨odd, after, rfl, rfl, -⟩ := List.map_eq_cons_iff.mp last
    have lengths (entry : Named (List α)) (member : entry ∈ masks.entries) (n : Nat)
        (known : masks.length? entry.name = some n) : entry.value.length = n :=
      Option.some.inj ((length?_of_mem member).symm.trans known)
    refine ⟨first, before, odd, after, entries, ⟨?_, ?_⟩, ⟨rfl, ?_⟩, different⟩
    · exact lengths first (by simp [entries]) expected (even _ List.mem_cons_self)
    · intro entry member
      exact lengths entry (by simp [entries, member]) expected
        (even _ (List.mem_cons_of_mem _ (List.mem_map_of_mem member)))
    · exact lengths odd (by simp [entries]) actual found
  · rintro ⟨first, before, odd, after, entries, ⟨here, even⟩, ⟨rfl, length⟩, different⟩
    have lengths (entry : Named (List α)) (member : entry ∈ masks.entries) (n : Nat)
        (known : entry.value.length = n) : masks.length? entry.name = some n :=
      (length?_of_mem member).trans (congrArg some known)
    refine ⟨first.name, before.map Named.name, after.map Named.name, ?_, ?_, ?_, different⟩
    · rw [names, entries, List.map_cons, List.map_append, List.map_cons]
    · simp only [List.forall_mem_cons, List.forall_mem_map]
      exact ⟨lengths first (by simp [entries]) expected here, fun entry member =>
        lengths entry (by simp [entries, member]) expected (even entry member)⟩
    · exact lengths odd (by simp [entries]) actual length

theorem commonLength_eq_error_iff (masks : MaskSet α) (e : EvalError) :
    masks.commonLength = .error e ↔
      ∃ name expected actual, e = .lengthMismatch name expected actual ∧
        FirstUneven masks.names masks.length? name expected actual := by
  simp only [firstUneven_iff]
  unfold commonLength
  cases masks.entries with
  | nil => simp
  | cons first rest =>
    cases found : rest.find? fun entry => entry.value.length != first.value.length with
    | none =>
      simp only [found, reduceCtorEq, false_iff]
      rintro ⟨_, _, _, -, _, before, odd, after, split, ⟨rfl, -⟩, ⟨-, rfl⟩, different⟩
      obtain ⟨rfl, rfl⟩ := List.cons.inj split
      have even := List.find?_eq_none.mp found odd (by simp)
      simp [different] at even
    | some odd =>
      simp only [found, Except.error.injEq]
      constructor
      · rintro rfl
        obtain ⟨different, before, after, split, even⟩ := List.find?_eq_some_iff_append.mp found
        exact ⟨_, _, _, rfl, first, before, odd, after, congrArg (first :: ·) split,
          ⟨rfl, by simpa using even⟩, ⟨rfl, rfl⟩, by simpa using different⟩
      · rintro ⟨_, _, _, rfl, _, before, other, after, split, ⟨rfl, even⟩, ⟨rfl, rfl⟩, different⟩
        obtain ⟨rfl, rfl⟩ := List.cons.inj split
        have foundToo : (before ++ other :: after).find?
            (fun entry => entry.value.length != first.value.length) = some other :=
          List.find?_eq_some_iff_append.mpr
            ⟨by simpa using different, before, after, rfl, by simpa using even⟩
        cases found.symm.trans foundToo
        rfl

end MaskSet

/-! ## Elements -/

variable [MaskElement α]

/-- Whether the mask, if there is one, selects the element at a position. -/
def selectsAt (mask? : Option (List α)) (i : Nat) : Bool :=
  match mask?.bind fun mask => mask[i]? with
  | some v => MaskElement.isSet v
  | none => false

inductive Compiled.Evaluates (compiled : Compiled) (names : List String)
    (mask? : String → Option (List α)) : Except EvalError (List Bool) → Prop where
  | unknown {name : String} :
      name ∈ compiled.names.entries → mask? name = none →
      (∀ other ∈ compiled.names.entries, mask? other = none → ¬ other < name) →
      Evaluates compiled names mask? (.error (.unknownName name))
  | uneven {name : String} {expected actual : Nat} :
      (∀ n ∈ compiled.names.entries, mask? n ≠ none) →
      FirstUneven names (fun n => (mask? n).map List.length) name expected actual →
      Evaluates compiled names mask? (.error (.lengthMismatch name expected actual))
  | value {length : Nat} :
      (∀ n ∈ compiled.names.entries, mask? n ≠ none) →
      (∀ n ∈ names, (mask? n).map List.length = some length) → (names = [] → length = 0) →
      Evaluates compiled names mask? (.ok ((List.range length).map fun i =>
        compiled.meaning.selects names fun n => selectsAt (mask? n) i))

theorem map_isSet_eq (mask : List α) :
    mask.map MaskElement.isSet = (List.range mask.length).map (selectsAt (some mask)) := by
  apply List.ext_getElem (by simp)
  intro i inside _
  have here : i < mask.length := by simpa using inside
  simp [selectsAt, here]

namespace MaskSet

variable {masks : MaskSet α} {length : Nat}
  (even : ∀ name ∈ masks.names, masks.length? name = some length)
include even

theorem column_eq (name : String) :
    masks.column length name = (List.range length).map (selectsAt (masks.get? name)) := by
  unfold column
  cases present : masks.get? name with
  | none =>
    have nothing : selectsAt (none : Option (List α)) = fun _ => false := rfl
    rw [nothing, List.map_const', List.length_range]
  | some mask =>
    have known : name ∈ masks.names := by
      rw [← contains_iff, contains, present]
      rfl
    have size : mask.length = length := by simpa [length?, present] using even name known
    rw [← size, ← map_isSet_eq]

theorem anyColumn_eq :
    masks.anyColumn length =
      (List.range length).map fun i => masks.names.any fun n => selectsAt (masks.get? n) i := by
  have tables : ∀ entry ∈ masks.entries, entry.value.map MaskElement.isSet =
      (List.range length).map (selectsAt (masks.get? entry.name)) := by
    intro entry member
    have size := (masks.forall_names_iff length).mp even entry member
    have present : masks.get? entry.name = some entry.value :=
      Named.find?_of_mem masks.distinct member
    rw [map_isSet_eq, size, present]
  exact anyColumn_table tables

end MaskSet

theorem Compiled.evaluate_of_even {compiled : Compiled} {masks : MaskSet α} {length : Nat}
    (complete : masks.missingName? compiled = none) (common : masks.commonLength = .ok length) :
    compiled.evaluate masks = .ok ((List.range length).map fun i =>
      compiled.meaning.selects masks.names fun n => selectsAt (masks.get? n) i) := by
  have even := ((masks.commonLength_eq_ok_iff length).mp common).1
  simp only [evaluate, complete, common]
  cases compiled.meaning with
  | anyMask => simp only [MaskSet.anyColumn_eq even, Meaning.selects]
  | tree e =>
    simp only [Meaning.selects]
    exact congrArg Except.ok
      (e.column_table length (fun n => selectsAt (masks.get? n)) _
        fun n _ => MaskSet.column_eq even n)

theorem Compiled.evaluate_iff (compiled : Compiled) (masks : MaskSet α)
    (result : Except EvalError (List Bool)) :
    compiled.evaluate masks = result ↔ compiled.Evaluates masks.names masks.get? result := by
  constructor
  · rintro rfl
    cases missing : masks.missingName? compiled with
    | some name =>
      obtain ⟨needed, absent, least⟩ := (masks.missingName?_eq_some_iff compiled name).mp missing
      rw [evaluate, missing]
      exact .unknown needed absent least
    | none =>
      have complete := (masks.missingName?_eq_none_iff compiled).mp missing
      cases common : masks.commonLength with
      | error e =>
        obtain ⟨_, _, _, rfl, uneven⟩ := (masks.commonLength_eq_error_iff e).mp common
        rw [evaluate, missing, common]
        exact .uneven complete uneven
      | ok length =>
        obtain ⟨even, empty⟩ := (masks.commonLength_eq_ok_iff length).mp common
        rw [evaluate_of_even missing common]
        exact .value complete even empty
  · intro evaluates
    cases evaluates with
    | unknown needed absent least =>
      rw [evaluate, (masks.missingName?_eq_some_iff compiled _).mpr ⟨needed, absent, least⟩]
    | uneven complete uneven =>
      have common := (masks.commonLength_eq_error_iff _).mpr ⟨_, _, _, rfl, uneven⟩
      rw [evaluate, (masks.missingName?_eq_none_iff compiled).mpr complete, common]
    | value complete even empty =>
      exact evaluate_of_even ((masks.missingName?_eq_none_iff compiled).mpr complete)
        ((masks.commonLength_eq_ok_iff _).mpr ⟨even, empty⟩)

end SelectionAlgebra
