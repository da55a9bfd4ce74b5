import SelectionAlgebra.Expr.Compiled
import SelectionAlgebra.Proofs.Keyed

/-!
The names of a compiled expression are those that its tree mentions, in ascending order.
-/

namespace SelectionAlgebra

namespace NameSet

theorem mem_iff_get? (s : NameSet) (n : String) : n ∈ s.entries ↔ s.get? n = some n :=
  Keyed.mem_iff_get? s n

theorem mem_iff_contains (s : NameSet) (n : String) : n ∈ s.entries ↔ s.contains n = true := by
  rw [mem_iff_get?, Keyed.contains]
  constructor
  · intro found
    rw [found]
    rfl
  · intro present
    obtain ⟨m, found⟩ := Option.isSome_iff_exists.mp present
    have same : m = n := by simpa using List.find?_some found
    rw [found, same]

theorem mem_insert (s : NameSet) (n m : String) :
    m ∈ (s.insert n).entries ↔ m = n ∨ m ∈ s.entries := by
  rw [mem_iff_get?, mem_iff_get?, Keyed.get?_insert]
  by_cases same : n = m
  · simp [same]
  · simp [same, Ne.symm same]

theorem least_of_find? {s : NameSet} {test : String → Bool} {n : String}
    (found : s.entries.find? test = some n) :
    n ∈ s.entries ∧ test n = true ∧ ∀ m ∈ s.entries, test m = true → ¬ m < n := by
  obtain ⟨passes, before, after, split, failed⟩ := List.find?_eq_some_iff_append.mp found
  refine ⟨List.mem_of_find?_eq_some found, passes, ?_⟩
  intro m member passesToo below
  have ascending := s.ascending
  rw [split] at member ascending
  rcases List.mem_append.mp member with earlier | member
  · have refused := failed m earlier
    rw [passesToo] at refused
    cases refused
  · have later := (List.pairwise_append.mp ascending).2.1
    rcases List.mem_cons.mp member with rfl | member
    · exact String.lt_irrefl _ below
    · exact String.lt_irrefl _ (String.lt_trans below ((List.pairwise_cons.mp later).1 m member))

theorem find?_eq_some_iff (s : NameSet) (test : String → Bool) (n : String) :
    s.entries.find? test = some n ↔
      n ∈ s.entries ∧ test n = true ∧ ∀ m ∈ s.entries, test m = true → ¬ m < n := by
  constructor
  · exact least_of_find?
  · rintro ⟨member, passes, least⟩
    cases found : s.entries.find? test with
    | none => exact absurd passes (List.find?_eq_none.mp found n member)
    | some m =>
      obtain ⟨memberToo, passesToo, leastToo⟩ := least_of_find? found
      exact congrArg some
        (KeyOrder.eq_of_not_lt (least m memberToo passesToo) (leastToo n member passes))

end NameSet

namespace Expr

def Mentions (n : String) : Expr → Prop
  | .name m => n = m
  | .not e => e.Mentions n
  | .and l r | .or l r | .xor l r => l.Mentions n ∨ r.Mentions n

theorem holds_congr {leaf other : String → Bool} {e : Expr}
    (agree : ∀ n, e.Mentions n → leaf n = other n) : e.holds leaf = e.holds other := by
  induction e with
  | name n => exact agree n rfl
  | not e ih => rw [holds, holds, ih agree]
  | and l r left right | or l r left right | xor l r left right =>
    rw [holds, holds, left fun n mentioned => agree n (.inl mentioned),
      right fun n mentioned => agree n (.inr mentioned)]

theorem mem_addNames (n : String) (e : Expr) (collected : NameSet) :
    n ∈ (e.addNames collected).entries ↔ n ∈ collected.entries ∨ e.Mentions n := by
  induction e generalizing collected with
  | name m => simp only [addNames, Mentions, NameSet.mem_insert, or_comm]
  | not e ih => exact ih collected
  | and l r left right => simp only [addNames, Mentions, right, left, or_assoc]
  | or l r left right => simp only [addNames, Mentions, right, left, or_assoc]
  | xor l r left right => simp only [addNames, Mentions, right, left, or_assoc]

theorem mem_names (n : String) (e : Expr) : n ∈ e.names.entries ↔ e.Mentions n := by
  simp [names, mem_addNames, Keyed.empty]

end Expr

def Meaning.Mentions (n : String) : Meaning → Prop
  | .anyMask => False
  | .tree e => e.Mentions n

theorem mem_names_of_compile {source : String} {compiled : Compiled}
    (accepted : compile source = .ok compiled) (n : String) :
    n ∈ compiled.names.entries ↔ compiled.meaning.Mentions n := by
  unfold compile at accepted
  split at accepted
  · cases accepted
    simp [Compiled.ofMeaning, Meaning.Mentions, Keyed.empty]
  · cases read : Expr.parse source with
    | error e => rw [read] at accepted; cases accepted
    | ok e =>
      rw [read] at accepted
      cases accepted
      exact Expr.mem_names n e

end SelectionAlgebra
