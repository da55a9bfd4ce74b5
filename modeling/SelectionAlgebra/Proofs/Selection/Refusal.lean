import SelectionAlgebra.Proofs.Mask.Evaluation
import SelectionAlgebra.Proofs.Selection.Cache
import SelectionAlgebra.Proofs.Selection.Meaning

/-!
Refused expressions. Whether an expression is refused depends on the expression and on the names of
the nodes alone. Evaluation over masks refuses exactly those, and so does evaluation over a dataset,
unless there are no nodes: then the mask is empty, whatever the expression.
-/

namespace SelectionAlgebra

theorem MaskSet.contains_insert {α : Type} (masks : MaskSet α) (name : String) (mask : List α)
    (n : String) :
    (masks.insert name mask).contains n = (decide (name = n) || masks.contains n) := by
  rw [contains, get?_insert]
  by_cases same : name = n <;> simp [same, contains]

namespace Selection

inductive Refuses (s : Selection) : SelectionError → Prop where
  | malformed {e : ParseError} :
      SelectionAlgebra.compile s.expression = .error e → Refuses s (.malformed e)
  | unknown {compiled : Compiled} {name : String} :
      SelectionAlgebra.compile s.expression = .ok compiled → s.LeastUnknown compiled name →
      Refuses s (.unknownNode name)

/-! ## Over masks -/

section

variable {α : Type} {compiled : Compiled} {masks found : MaskSet α}

theorem nodeMasks_failsOnly (nodes : List NamedNode) (start : MaskSet α) :
    FailsOnly (fun e => ¬ e.OfExpression) (nodeMasks compiled masks nodes start) := by
  induction nodes generalizing start with
  | nil => exact .ok _
  | cons named rest ih =>
    unfold nodeMasks
    split
    · exact ih _
    · split
      · exact .error id
      · exact ih _

theorem contains_of_start {nodes : List NamedNode} {start : MaskSet α}
    (collected : nodeMasks compiled masks nodes start = .ok found) {name : String}
    (there : start.contains name = true) : found.contains name = true := by
  induction nodes generalizing start with
  | nil =>
    cases collected
    exact there
  | cons named rest ih =>
    unfold nodeMasks at collected
    split at collected
    · exact ih collected (by rw [MaskSet.contains_insert, there, Bool.or_true])
    · split at collected
      · cases collected
      · exact ih collected there

theorem contains_of_references {nodes : List NamedNode} {start : MaskSet α}
    (collected : nodeMasks compiled masks nodes start = .ok found) {named : NamedNode}
    (member : named ∈ nodes) (used : compiled.references named.name = true) :
    found.contains named.name = true := by
  induction nodes generalizing start with
  | nil => cases member
  | cons first rest ih =>
    unfold nodeMasks at collected
    split at collected
    · rcases List.mem_cons.mp member with rfl | member
      · exact contains_of_start collected (by simp [MaskSet.contains_insert])
      · exact ih collected member
    · split at collected
      · cases collected
      · rename_i unused
        rcases List.mem_cons.mp member with rfl | member
        · simp [used] at unused
        · exact ih collected member

variable {s : Selection}

theorem contains_of_validate (valid : s.validate compiled = .ok ()) {name : String}
    (needed : name ∈ compiled.names.entries) : s.contains name = true := by
  unfold validate at valid
  split at valid
  · cases valid
  · rename_i none
    simpa using List.find?_eq_none.mp none name needed

theorem missingName?_of_validate (valid : s.validate compiled = .ok ())
    (collected : nodeMasks compiled masks s.nodes .empty = .ok found) :
    found.missingName? compiled = none := by
  apply List.find?_eq_none.mpr
  intro name needed
  obtain ⟨named, member, called⟩ := List.any_eq_true.mp (contains_of_validate valid needed)
  have used : compiled.references named.name = true := by
    rw [of_decide_eq_true called, Compiled.references, Keyed.contains,
      (NameSet.mem_iff_get? ..).mp needed]
    rfl
  have masked := contains_of_references collected member used
  rw [of_decide_eq_true called] at masked
  simp [masked]

variable [MaskElement α]

theorem validate_of_evaluateCompiled {e : SelectionError} (about : e.OfExpression)
    (refused : s.evaluateCompiled compiled masks = .error e) : s.validate compiled = .error e := by
  unfold evaluateCompiled at refused
  split at refused
  · rename_i d invalid
    cases refused
    exact invalid
  · rename_i valid
    split at refused
    · rename_i d uncollected
      cases refused
      exact absurd about (nodeMasks_failsOnly _ _ _ uncollected)
    · rename_i found collected
      split at refused
      · rename_i d unevaluated
        cases refused
        rw [Compiled.evaluate, missingName?_of_validate valid collected] at unevaluated
        dsimp only at unevaluated
        split at unevaluated
        · rename_i odd uneven
          cases unevaluated
          obtain ⟨_, _, _, rfl, -⟩ := (MaskSet.commonLength_eq_error_iff ..).mp uneven
          exact absurd about id
        · split at unevaluated <;> cases unevaluated
      · cases refused

theorem validate_eq_error_iff (accepted : SelectionAlgebra.compile s.expression = .ok compiled)
    (e : SelectionError) : s.validate compiled = .error e ↔ s.Refuses e := by
  unfold validate
  split
  · rename_i name found
    have least := (find?_unknown_iff accepted name).mp found
    rw [Except.error.injEq]
    constructor
    · rintro rfl
      exact .unknown accepted least
    · rintro (refused | ⟨acceptedToo, leastToo⟩)
      · cases accepted.symm.trans refused
      · cases accepted.symm.trans acceptedToo
        cases found.symm.trans ((find?_unknown_iff accepted _).mpr leastToo)
        rfl
  · rename_i none
    constructor
    · intro failed
      cases failed
    · rintro (refused | ⟨acceptedToo, least⟩)
      · cases accepted.symm.trans refused
      · cases accepted.symm.trans acceptedToo
        cases none.symm.trans ((find?_unknown_iff accepted _).mpr least)

theorem evaluate_eq_error_iff (coherent : s.Coherent) {e : SelectionError}
    (about : e.OfExpression) (masks : MaskSet α) : s.evaluate masks = .error e ↔ s.Refuses e := by
  rw [evaluate, evaluateWithOptions_eq coherent, evaluateAfresh]
  cases accepted : SelectionAlgebra.compile s.expression with
  | error d =>
    rw [Except.error.injEq]
    constructor
    · rintro rfl
      exact .malformed accepted
    · rintro (refused | ⟨acceptedToo, -⟩)
      · cases accepted.symm.trans refused
        rfl
      · cases accepted.symm.trans acceptedToo
  | ok compiled =>
    rw [← validate_eq_error_iff accepted]
    refine ⟨validate_of_evaluateCompiled about, fun invalid => ?_⟩
    simp only [evaluateCompiled, invalid]

end

/-! ## Over a dataset -/

section

variable {s : Selection} {entity : Entity} {dataset : Dataset} {options : ConvertOptions}

theorem mask_eq_error_iff (inhabited : s.nodes ≠ []) {e : SelectionError}
    (about : e.OfExpression) :
    (s.mask entity dataset options).result = .error e ↔ s.Refuses e := by
  constructor
  · intro failed
    cases accepted : SelectionAlgebra.compile s.expression with
    | error d =>
      rw [mask_of_malformed inhabited accepted] at failed
      cases failed
      exact .malformed accepted
    | ok compiled =>
      rw [← validate_eq_error_iff accepted]
      rw [mask_of_compiled inhabited accepted] at failed
      rcases bind_eq_error_iff.mp failed with invalid | ⟨-, -, failed⟩
      · exact invalid
      -- what is left to fail are the nodes, and the evaluation of names that are all known
      rcases bind_eq_error_iff.mp failed with unresolved | ⟨masks, -, failed⟩
      · obtain ⟨_, named, _, _, _, stopped⟩ := mapM_eq_error_iff.mp unresolved
        have plain := contribution_failsOnly named.value entity dataset options
        exact absurd about (plain.map _ e stopped).2
      · exact validate_of_evaluateCompiled about failed
  · rintro (refused | ⟨accepted, least⟩)
    · exact mask_of_malformed inhabited refused
    · exact mask_of_leastUnknown inhabited accepted least

theorem selected_eq_error_iff (e : SelectionError) :
    (s.selected entity dataset options).result = .error e ↔
      (s.mask entity dataset options).result = .error e := by
  rw [selected_result]
  cases (s.mask entity dataset options).result <;> simp [Except.map]

end

/-- An expression that evaluation over masks refuses is refused over every dataset, with the same
failure, and the other way round; but without nodes nothing is refused over a dataset. -/
theorem mask_refuses_as_evaluate (s : Selection) (coherent : s.Coherent) {α : Type} [MaskElement α]
    (masks : MaskSet α) (e : SelectionError) (about : e.OfExpression) (entity : Entity)
    (dataset : Dataset) (options : ConvertOptions) :
    (s.nodes ≠ [] →
      (s.evaluate masks = .error e ↔ (s.mask entity dataset options).result = .error e) ∧
        (s.evaluate masks = .error e ↔ (s.selected entity dataset options).result = .error e)) ∧
    (s.nodes = [] →
      (s.mask entity dataset options).result =
          .ok (List.replicate (dataset.size entity) false) ∧
        (s.selected entity dataset options).result = .ok []) := by
  constructor
  · intro inhabited
    have same : s.evaluate masks = .error e ↔ (s.mask entity dataset options).result = .error e :=
      (evaluate_eq_error_iff coherent about masks).trans (mask_eq_error_iff inhabited about).symm
    exact ⟨same, same.trans (selected_eq_error_iff e).symm⟩
  · intro bare
    have none : (s.mask entity dataset options).result =
        .ok (List.replicate (dataset.size entity) false) := by
      rw [mask, bare]
      rfl
    refine ⟨none, ?_⟩
    rw [selected_result, none]
    refine congrArg Except.ok (List.eq_nil_iff_forall_not_mem.mpr fun i member => ?_)
    simpa [List.getElem?_replicate] using (mem_selectedIndices _ i).mp member

/-- Of two names that no node has, the lesser one is told, though a node has no array to look at. -/
theorem mask_refuses_as_evaluate_unknown :
    let s : Selection := {
      nodes := [⟨"b", .ofValues .cell "kind" (.ints [3])⟩], expression := "b & (z | !a)" }
    s.evaluate (.empty : MaskSet Bool) = .error (.unknownNode "a") ∧
      (s.mask .cell .empty {}).result = .error (.unknownNode "a") ∧
      (s.selected .cell .empty {}).result = .error (.unknownNode "a") := by
  intro s
  have refused : s.evaluate (.empty : MaskSet Bool) = .error (.unknownNode "a") := by
    decide +kernel
  have coherent : s.Coherent := coherent_of_cache_eq_none rfl
  obtain ⟨mask, selected⟩ := (mask_refuses_as_evaluate s coherent (.empty : MaskSet Bool)
    (.unknownNode "a") trivial .cell .empty {}).1 (by decide)
  exact ⟨refused, mask.mp refused, selected.mp refused⟩

/-- Without nodes an expression that names one is refused over masks, and not over a dataset. -/
theorem not_refused_without_nodes :
    ¬ ∀ (s : Selection) (masks : MaskSet Bool) (e : SelectionError), s.Coherent →
      e.OfExpression → s.evaluate masks = .error e → ∀ entity dataset options,
        (s.mask entity dataset options).result = .error e := by
  intro agree
  have refused : ({ expression := "a" } : Selection).evaluate (.empty : MaskSet Bool) =
      .error (.unknownNode "a") := by
    decide +kernel
  have failed := agree { expression := "a" } .empty (.unknownNode "a")
    (coherent_of_cache_eq_none rfl) trivial refused .cell (Dataset.empty.setCount .cell 2) {}
  have empty : (({ expression := "a" } : Selection).mask .cell (Dataset.empty.setCount .cell 2)
      {}).result = .ok [false, false] := by
    decide
  cases failed.symm.trans empty

end Selection

end SelectionAlgebra
