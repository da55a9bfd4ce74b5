import SelectionAlgebra.Proofs.Selection.Refusal

/-!
Evaluation over masks that are handed in. Of these only the masks of the nodes count, and they count
in the order of the nodes: masks of other names, and the order in which masks were handed in, make
no difference to the result or to the failure.
-/

namespace SelectionAlgebra

/-- The expression needs the mask of a node: it mentions the node, or unites all nodes. -/
def Meaning.Uses (n : String) : Meaning → Prop
  | .anyMask => True
  | .tree e => e.Mentions n

theorem Meaning.Mentions.uses {n : String} {meaning : Meaning} (mentioned : meaning.Mentions n) :
    meaning.Uses n := by
  cases meaning with
  | anyMask => trivial
  | tree e => exact mentioned

theorem Meaning.selects_congr {names : List String} {leaf other : String → Bool} {meaning : Meaning}
    (agree : ∀ n ∈ names, leaf n = other n) (known : ∀ n, meaning.Mentions n → n ∈ names) :
    meaning.selects names leaf = meaning.selects names other := by
  cases meaning with
  | anyMask =>
    rw [selects, selects, Bool.eq_iff_iff, List.any_eq_true, List.any_eq_true]
    exact exists_congr fun n => and_congr_right fun member => by rw [agree n member]
  | tree e => exact Expr.holds_congr fun n mentioned => agree n (known n mentioned)

theorem Compiled.uses_iff {source : String} {compiled : Compiled}
    (accepted : compile source = .ok compiled) (n : String) :
    (compiled.isAnyMask || compiled.references n) = true ↔ compiled.meaning.Uses n := by
  have references : compiled.references n = true ↔ compiled.meaning.Mentions n := by
    rw [← mem_names_of_compile accepted, NameSet.mem_iff_contains]
    rfl
  rw [Bool.or_eq_true, references, isAnyMask]
  cases compiled.meaning <;> simp [Meaning.Uses, Meaning.Mentions]

variable {α : Type}

/-! ## The masks that count -/

def maskedNames (mask? : String → Option (List α)) (names : List String) : List String :=
  names.filter fun n => (mask? n).isSome

namespace MaskSet

variable (masks : MaskSet α)

def supplied (names : List String) : List (Named (List α)) :=
  names.filterMap fun n => (masks.get? n).map (Named.mk n)

def lacks (compiled : Compiled) (n : String) : Bool :=
  (masks.get? n).isNone && (compiled.isAnyMask || compiled.references n)

theorem names_supplied (names : List String) :
    (masks.supplied names).map Named.name = maskedNames masks.get? names := by
  induction names with
  | nil => rfl
  | cons n names ih =>
    cases present : masks.get? n <;> simpa [supplied, maskedNames, present] using ih

theorem find?_supplied (names : List String) (n : String) :
    Named.find? (masks.supplied names) n = if n ∈ names then masks.get? n else none := by
  induction names with
  | nil => rfl
  | cons m names ih =>
    have step : masks.supplied (m :: names) =
        ((masks.get? m).map (Named.mk m)).toList ++ masks.supplied names := by
      cases present : masks.get? m <;> simp [supplied, present]
    rw [step]
    cases present : masks.get? m with
    | none =>
      by_cases here : n = m
      · simpa [here, present] using ih
      · simpa [here] using ih
    | some mask =>
      by_cases here : n = m
      · simp [here, present, Named.find?]
      · simpa [here, Ne.symm here, Named.find?] using ih

theorem entries_ofList_supplied {names : List String} (distinct : names.Nodup) :
    (ofList (masks.supplied names)).entries = masks.supplied names := by
  apply entries_ofList
  rw [names_supplied]
  exact distinct.filter _

end MaskSet

theorem FirstUneven.congr {names : List String} {length? other? : String → Option Nat}
    (agree : ∀ n ∈ names, length? n = other? n) {name : String} {expected actual : Nat}
    (uneven : FirstUneven names length? name expected actual) :
    FirstUneven names other? name expected actual := by
  obtain ⟨first, before, after, rfl, even, odd, different⟩ := uneven
  refine ⟨first, before, after, rfl, ?_, ?_, different⟩
  · intro n member
    rw [← even n member]
    exact (agree n (by rw [← List.cons_append]; exact List.mem_append_left _ member)).symm
  · rw [← odd]
    exact (agree name (by simp)).symm

/-- Evaluation looks at the masks of the given names alone, if the expression needs no others. -/
theorem Compiled.Evaluates.congr [MaskElement α] {compiled : Compiled} {names : List String}
    {mask? other? : String → Option (List α)} (agree : ∀ n ∈ names, mask? n = other? n)
    (known : ∀ n, compiled.meaning.Mentions n → n ∈ names)
    (needed : ∀ n ∈ compiled.names.entries, n ∈ names) {result : Except EvalError (List Bool)}
    (evaluates : compiled.Evaluates names mask? result) :
    compiled.Evaluates names other? result := by
  cases evaluates with
  | unknown member absent least =>
    have same (n : String) (named : n ∈ compiled.names.entries) : mask? n = other? n :=
      agree n (needed n named)
    refine .unknown member ((same _ member).symm.trans absent) ?_
    exact fun n named lacking => least n named ((same n named).trans lacking)
  | uneven complete uneven =>
    refine .uneven (fun n member => agree n (needed n member) ▸ complete n member) ?_
    exact uneven.congr fun n member => by rw [agree n member]
  | @value length complete even empty =>
    have values (i : Nat) : (compiled.meaning.selects names fun n => selectsAt (mask? n) i) =
        compiled.meaning.selects names fun n => selectsAt (other? n) i :=
      Meaning.selects_congr (fun n member => by rw [agree n member]) known
    simp only [values]
    exact .value (fun n member => agree n (needed n member) ▸ complete n member)
      (fun n member => agree n member ▸ even n member) empty

namespace Selection

def FirstUnmasked (names : List String) (compiled : Compiled) (mask? : String → Option (List α))
    (name : String) : Prop :=
  ∃ before after, names = before ++ name :: after ∧
    (∀ n ∈ before, compiled.meaning.Uses n → mask? n ≠ none) ∧
    compiled.meaning.Uses name ∧ mask? name = none

def Supplied (s : Selection) (compiled : Compiled) (mask? : String → Option (List α)) : Prop :=
  ∀ n ∈ s.names, compiled.meaning.Uses n → mask? n ≠ none

inductive Combines (s : Selection) (compiled : Compiled) (mask? : String → Option (List α))
    [MaskElement α] : Except SelectionError (List Bool) → Prop where
  | unknown {name : String} :
      s.LeastUnknown compiled name → Combines s compiled mask? (.error (.unknownNode name))
  | unmasked {name : String} :
      s.Knows compiled → FirstUnmasked s.names compiled mask? name →
      Combines s compiled mask? (.error (.mismatch (.noMask name)))
  | uneven {name : String} {expected actual : Nat} :
      s.Knows compiled → s.Supplied compiled mask? →
      FirstUneven (maskedNames mask? s.names) (fun n => (mask? n).map List.length) name expected
        actual →
      Combines s compiled mask? (.error (.lengthMismatch name expected actual))
  | value {length : Nat} :
      s.Knows compiled → s.Supplied compiled mask? →
      (∀ n ∈ maskedNames mask? s.names, (mask? n).map List.length = some length) →
      (maskedNames mask? s.names = [] → length = 0) →
      Combines s compiled mask? (.ok ((List.range length).map fun i =>
        compiled.meaning.selects s.names fun n => selectsAt (mask? n) i))

theorem nodeMasks_eq (compiled : Compiled) (masks : MaskSet α) (nodes : List NamedNode)
    (found : MaskSet α) :
    nodeMasks compiled masks nodes found =
      match (nodes.map Named.name).find? (masks.lacks compiled) with
      | some name => .error (.mismatch (.noMask name))
      | none => .ok ((masks.supplied (nodes.map Named.name)).foldl
          (fun found entry => found.insert entry.name entry.value) found) := by
  induction nodes generalizing found with
  | nil => rfl
  | cons named rest ih =>
    cases present : masks.get? named.name with
    | some mask => simp [nodeMasks, MaskSet.supplied, MaskSet.lacks, present, ih]
    | none =>
      cases used : compiled.isAnyMask || compiled.references named.name with
      | true => simp [nodeMasks, MaskSet.lacks, present, used]
      | false => simp [nodeMasks, MaskSet.supplied, MaskSet.lacks, present, used, ih]

theorem nodeMasks_agree (compiled : Compiled) {masks others : MaskSet α} {nodes : List NamedNode}
    (agree : ∀ named ∈ nodes, masks.get? named.name = others.get? named.name)
    (found : MaskSet α) :
    nodeMasks compiled masks nodes found = nodeMasks compiled others nodes found := by
  induction nodes generalizing found with
  | nil => rfl
  | cons named rest ih =>
    have first := agree named List.mem_cons_self
    have later := fun found => ih (fun n member => agree n (List.mem_cons_of_mem _ member)) found
    simp only [nodeMasks, first, later]

theorem selects_maskedNames {s : Selection} {compiled : Compiled}
    {mask? : String → Option (List α)} (supplied : s.Supplied compiled mask?)
    (leaf : String → Bool) :
    compiled.meaning.selects (maskedNames mask? s.names) leaf =
      compiled.meaning.selects s.names leaf := by
  cases meaning : compiled.meaning with
  | anyMask =>
    have all : maskedNames mask? s.names = s.names := by
      apply List.filter_eq_self.mpr
      intro n member
      exact Option.isSome_iff_ne_none.mpr (supplied n member (meaning ▸ trivial))
    rw [all]
  | tree e => rfl

section

variable {s : Selection} {source : String} {compiled : Compiled}
  (accepted : SelectionAlgebra.compile source = .ok compiled)
include accepted

theorem lacks_iff (masks : MaskSet α) (n : String) :
    masks.lacks compiled n = true ↔ compiled.meaning.Uses n ∧ masks.get? n = none := by
  rw [MaskSet.lacks, Bool.and_eq_true, compiled.uses_iff accepted, Option.isNone_iff_eq_none,
    and_comm]

theorem find?_lacks_iff (masks : MaskSet α) (names : List String) (name : String) :
    names.find? (masks.lacks compiled) = some name ↔
      FirstUnmasked names compiled masks.get? name := by
  have passed (n : String) : (!masks.lacks compiled n) = true ↔
      (compiled.meaning.Uses n → masks.get? n ≠ none) := by
    rw [Bool.not_eq_true', ← Bool.not_eq_true, lacks_iff accepted, not_and]
  rw [List.find?_eq_some_iff_append, lacks_iff accepted]
  simp only [passed]
  constructor
  · rintro ⟨lacks, before, after, split, others⟩
    exact ⟨before, after, split, others, lacks⟩
  · rintro ⟨before, after, split, others, lacks⟩
    exact ⟨lacks, before, after, split, others⟩

theorem find?_lacks_eq_none_iff (masks : MaskSet α) :
    s.names.find? (masks.lacks compiled) = none ↔ s.Supplied compiled masks.get? := by
  simp only [List.find?_eq_none, lacks_iff accepted, not_and]
  rfl

variable [MaskElement α] {masks : MaskSet α}

theorem evaluateCompiled_of_leastUnknown {name : String} (least : s.LeastUnknown compiled name) :
    s.evaluateCompiled compiled masks = .error (.unknownNode name) := by
  simp only [evaluateCompiled, validate, (find?_unknown_iff accepted name).mpr least]

theorem evaluateCompiled_of_firstUnmasked (knows : s.Knows compiled) {name : String}
    (unmasked : FirstUnmasked s.names compiled masks.get? name) :
    s.evaluateCompiled compiled masks = .error (.mismatch (.noMask name)) := by
  have first := (find?_lacks_iff accepted masks s.names name).mpr unmasked
  rw [names] at first
  simp only [evaluateCompiled, validate, (find?_unknown_eq_none_iff accepted).mpr knows,
    nodeMasks_eq, first]

theorem evaluateCompiled_of_supplied (distinct : s.names.Nodup) (knows : s.Knows compiled)
    (supplied : s.Supplied compiled masks.get?) (result : Except SelectionError (List Bool)) :
    s.evaluateCompiled compiled masks = result ↔
      ∃ outcome, compiled.Evaluates (maskedNames masks.get? s.names) masks.get? outcome ∧
        outcome.mapError .ofEval = result := by
  let own : MaskSet α := .ofList (masks.supplied s.names)
  have collected : nodeMasks compiled masks s.nodes .empty = .ok own := by
    have none := (find?_lacks_eq_none_iff accepted masks).mpr supplied
    rw [names] at none
    simp only [nodeMasks_eq, none]
    rfl
  have ownNames : own.names = maskedNames masks.get? s.names := by
    rw [MaskSet.names, masks.entries_ofList_supplied distinct, masks.names_supplied]
  have agree (n : String) (member : n ∈ maskedNames masks.get? s.names) :
      own.get? n = masks.get? n := by
    rw [MaskSet.get?, masks.entries_ofList_supplied distinct, masks.find?_supplied,
      if_pos (List.mem_filter.mp member).1]
  have known (n : String) (mentioned : compiled.meaning.Mentions n) :
      n ∈ maskedNames masks.get? s.names := by
    have masked := supplied n (knows n mentioned) mentioned.uses
    exact List.mem_filter.mpr ⟨knows n mentioned, Option.isSome_iff_ne_none.mpr masked⟩
  have needed (n : String) (member : n ∈ compiled.names.entries) :=
    known n ((mem_names_of_compile accepted n).mp member)
  have evaluated : s.evaluateCompiled compiled masks =
      (compiled.evaluate own).mapError .ofEval := by
    have known := (find?_unknown_eq_none_iff accepted).mpr knows
    simp only [evaluateCompiled, validate, known, collected]
    cases compiled.evaluate own <;> rfl
  rw [evaluated]
  constructor
  · intro same
    have evaluates := (compiled.evaluate_iff own _).mp rfl
    rw [ownNames] at evaluates
    exact ⟨_, evaluates.congr agree known needed, same⟩
  · rintro ⟨outcome, evaluates, same⟩
    have evaluatesOwn := evaluates.congr (fun n member => (agree n member).symm) known needed
    rw [← ownNames] at evaluatesOwn
    rw [(compiled.evaluate_iff own outcome).mpr evaluatesOwn, same]

theorem evaluateCompiled_iff (distinct : s.names.Nodup) (masks : MaskSet α)
    (result : Except SelectionError (List Bool)) :
    s.evaluateCompiled compiled masks = result ↔ s.Combines compiled masks.get? result := by
  have complete (knows : s.Knows compiled) (supplied : s.Supplied compiled masks.get?) (n : String)
      (member : n ∈ compiled.names.entries) : masks.get? n ≠ none := by
    have mentioned := (mem_names_of_compile accepted n).mp member
    exact supplied n (knows n mentioned) mentioned.uses
  constructor
  · rintro rfl
    rcases knows_or_leastUnknown accepted with knows | ⟨name, least⟩
    · cases first : s.names.find? (masks.lacks compiled) with
      | some name =>
        have unmasked := (find?_lacks_iff accepted masks s.names name).mp first
        rw [evaluateCompiled_of_firstUnmasked accepted knows unmasked]
        exact .unmasked knows unmasked
      | none =>
        have supplied := (find?_lacks_eq_none_iff accepted masks).mp first
        obtain ⟨outcome, evaluates, same⟩ :=
          (evaluateCompiled_of_supplied accepted distinct knows supplied _).mp rfl
        rw [← same]
        cases evaluates with
        | unknown member absent => exact absurd absent (complete knows supplied _ member)
        | uneven _ uneven => exact .uneven knows supplied uneven
        | value _ even empty =>
          simp only [selects_maskedNames supplied]
          exact .value knows supplied even empty
    · rw [evaluateCompiled_of_leastUnknown accepted least]
      exact .unknown least
  · intro combines
    cases combines with
    | unknown least => exact evaluateCompiled_of_leastUnknown accepted least
    | unmasked knows unmasked => exact evaluateCompiled_of_firstUnmasked accepted knows unmasked
    | uneven knows supplied uneven =>
      exact (evaluateCompiled_of_supplied accepted distinct knows supplied _).mpr
        ⟨.error (.lengthMismatch _ _ _), .uneven (complete knows supplied) uneven, rfl⟩
    | value knows supplied even empty =>
      refine (evaluateCompiled_of_supplied accepted distinct knows supplied _).mpr
        ⟨_, .value (complete knows supplied) even empty, ?_⟩
      simp only [selects_maskedNames supplied]
      rfl

end

/-- Evaluation of an expression reads the masks of the nodes and nothing else. What it gives is
fixed by the nodes in their order and by the mask of each: the least name that is not a node's, the
first node whose mask is needed and lacking, the first of the nodes' masks that differs in length
from the first one, or the value for each element. Masks that agree on the nodes give the same. -/
theorem evaluateCompiled_exact (s : Selection) (distinct : s.names.Nodup) {source : String}
    {compiled : Compiled} (accepted : SelectionAlgebra.compile source = .ok compiled)
    [MaskElement α] (masks : MaskSet α) :
    (∀ result, s.evaluateCompiled compiled masks = result ↔
      s.Combines compiled masks.get? result) ∧
    ∀ others : MaskSet α, (∀ n ∈ s.names, masks.get? n = others.get? n) →
      s.evaluateCompiled compiled masks = s.evaluateCompiled compiled others := by
  refine ⟨evaluateCompiled_iff accepted distinct masks, fun others agree => ?_⟩
  have collected := nodeMasks_agree compiled (List.forall_mem_map.mp agree) .empty
  simp only [evaluateCompiled, collected]

/-- A mask that no name of the expression asks for is still compared in length, in the order of the
nodes, and a mask of no node is not. -/
theorem evaluateCompiled_exact_stray :
    let s : Selection := {
      nodes := [⟨"b", .ofIds .indices .cell []⟩, ⟨"a", .ofIds .indices .cell []⟩,
        ⟨"c", .ofIds .indices .cell []⟩] }
    let compiled : Compiled := ⟨"a | b", .tree (.or (.name "a") (.name "b")), .ofList ["a", "b"]⟩
    let masks : MaskSet Bool := .ofList
      [⟨"z", []⟩, ⟨"c", [true]⟩, ⟨"a", [true, false]⟩, ⟨"b", [false, false]⟩]
    let others : MaskSet Bool := .ofList
      [⟨"a", [true, false]⟩, ⟨"b", [false, false]⟩, ⟨"c", [true]⟩]
    s.names.Nodup ∧ SelectionAlgebra.compile "a | b" = .ok compiled ∧
      (∀ n ∈ s.names, masks.get? n = others.get? n) ∧
      s.evaluateCompiled compiled masks = .error (.lengthMismatch "c" 2 1) ∧
      s.evaluateCompiled compiled others = .error (.lengthMismatch "c" 2 1) := by
  intro s compiled masks others
  have distinct : s.names.Nodup := by decide
  have accepted : SelectionAlgebra.compile "a | b" = .ok compiled := by decide +kernel
  have exact := evaluateCompiled_exact s distinct accepted masks
  have knows : s.Knows compiled := by
    rintro name (rfl | rfl) <;> decide
  have supplied : s.Supplied compiled masks.get? := by
    rintro name member (rfl | rfl) <;> decide
  have uneven : s.evaluateCompiled compiled masks = .error (.lengthMismatch "c" 2 1) :=
    (exact.1 _).mpr <| .uneven knows supplied
      ⟨"b", ["a"], [], by decide, by decide, by decide, by decide⟩
  have agree : ∀ n ∈ s.names, masks.get? n = others.get? n := by decide
  exact ⟨distinct, accepted, agree, uneven, exact.2 others agree ▸ uneven⟩

end Selection

end SelectionAlgebra
