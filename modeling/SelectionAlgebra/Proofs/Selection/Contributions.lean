import SelectionAlgebra.Proofs.Selection.Meaning

/-!
The mask of a selection depends on its expression and on what its nodes contribute. Selections that
agree in these have the same mask, or fail in the same way.
-/

namespace SelectionAlgebra.Selection

variable {s t : Selection} {entity : Entity} {dataset : Dataset} {options : ConvertOptions}

def contributions (s : Selection) (entity : Entity) (dataset : Dataset)
    (options : ConvertOptions) : List (Named (Except SelectionError (List Nat))) :=
  s.nodes.map fun named => ⟨named.name, named.value.contribution entity dataset options⟩

theorem names_contributions :
    (s.contributions entity dataset options).map Named.name = s.names := by
  rw [contributions, List.map_map]
  rfl

theorem nodeMasks_congr {α : Type} (compiled : Compiled) (masks : MaskSet α)
    {nodes others : List NamedNode} (names : nodes.map Named.name = others.map Named.name)
    (found : MaskSet α) :
    nodeMasks compiled masks nodes found = nodeMasks compiled masks others found := by
  induction nodes generalizing others found with
  | nil =>
    rw [List.map_eq_nil_iff.mp names.symm]
  | cons first rest ih =>
    obtain ⟨second, more, rfl, same, names⟩ := List.map_eq_cons_iff.mp names.symm
    simp only [nodeMasks, same, ih names.symm]

theorem validate_congr (names : s.names = t.names) (compiled : Compiled) :
    s.validate compiled = t.validate compiled := by
  simp only [validate, contains_eq, names]

theorem evaluateCompiled_congr {α : Type} [MaskElement α] (names : s.names = t.names)
    (compiled : Compiled) (masks : MaskSet α) :
    s.evaluateCompiled compiled masks = t.evaluateCompiled compiled masks := by
  simp only [evaluateCompiled, validate_congr names, nodeMasks_congr compiled masks names]

theorem mask_congr {others : ConvertOptions} (expression : s.expression = t.expression)
    (same : s.contributions entity dataset options = t.contributions entity dataset others) :
    (s.mask entity dataset options).result = (t.mask entity dataset others).result := by
  have names : s.names = t.names := by
    rw [← names_contributions, same, names_contributions]
  have steps (u : Selection) (options : ConvertOptions) :
      (u.nodes.mapM fun named =>
        (named.value.contribution entity dataset options).map fun found =>
          (⟨named.name, maskOf (dataset.size entity) found⟩ : Named (List Bool))) =
        (u.contributions entity dataset options).mapM fun named =>
          named.value.map fun found => ⟨named.name, maskOf (dataset.size entity) found⟩ := by
    rw [contributions, List.mapM_map]
    rfl
  have bare_iff (u : Selection) : u.names = [] ↔ u.nodes = [] := List.map_eq_nil_iff
  by_cases bare : s.nodes = []
  · have bareToo : t.nodes = [] := by rwa [← bare_iff, ← names, bare_iff]
    rw [mask, mask, bare, bareToo]
    rfl
  · have inhabited : t.nodes ≠ [] := by rwa [ne_eq, ← bare_iff, ← names, bare_iff]
    cases accepted : SelectionAlgebra.compile s.expression with
    | error e =>
      rw [mask_of_malformed bare accepted, mask_of_malformed inhabited (expression ▸ accepted)]
    | ok compiled =>
      rw [mask_of_compiled bare accepted, mask_of_compiled inhabited (expression ▸ accepted),
        steps, steps, same, validate_congr names]
      simp only [evaluateCompiled_congr names]

end SelectionAlgebra.Selection
