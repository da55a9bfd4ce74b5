import SelectionAlgebra.Convert.Selection
import SelectionAlgebra.Proofs.Grammar.Exactness
import SelectionAlgebra.Proofs.Resolve.Positions
import SelectionAlgebra.Proofs.Selection.Names

/-!
What a selection selects, said without masks: each node stands for a set of positions, and the
expression says of every position whether it is selected. The mask of a selection is the table of
this, or the first failure in a fixed order of checks.
-/

namespace SelectionAlgebra

/-- The positions that a node contributes among the entities of one kind: none if it restricts
others, and none for want of an array where the options allow that. -/
def Node.contribution (node : Node) (entity : Entity) (dataset : Dataset)
    (options : ConvertOptions) : Except SelectionError (List Nat) :=
  if node.entity ≠ entity then .ok []
  else
    match node.resolve dataset options with
    | .ok found => .ok found
    | .error e =>
      if e.isMissingArray && options.allowMissingArray then .ok [] else .error e

namespace Selection

def LeastUnknown (s : Selection) (compiled : Compiled) (name : String) : Prop :=
  compiled.meaning.Mentions name ∧ name ∉ s.names ∧
    ∀ other, compiled.meaning.Mentions other → other ∉ s.names → ¬ other < name

def Knows (s : Selection) (compiled : Compiled) : Prop :=
  ∀ name, compiled.meaning.Mentions name → name ∈ s.names

def FailsFirst (s : Selection) (entity : Entity) (dataset : Dataset) (options : ConvertOptions)
    (e : SelectionError) : Prop :=
  ∃ before named after, s.nodes = before ++ named :: after ∧
    (∀ n ∈ before, ∃ found, n.value.contribution entity dataset options = .ok found) ∧
    named.value.contribution entity dataset options = .error e

/-- What a selection amounts to over the entities of one kind. -/
inductive Denotes (s : Selection) (entity : Entity) (dataset : Dataset) (options : ConvertOptions) :
    Except SelectionError (List Bool) → Prop where
  | malformed {e : ParseError} :
      SelectionAlgebra.compile s.expression = .error e →
      Denotes s entity dataset options (.error (.malformed e))
  | unknown {compiled : Compiled} {name : String} :
      SelectionAlgebra.compile s.expression = .ok compiled → s.LeastUnknown compiled name →
      Denotes s entity dataset options (.error (.unknownNode name))
  | unresolved {compiled : Compiled} {e : SelectionError} :
      SelectionAlgebra.compile s.expression = .ok compiled → s.Knows compiled →
      s.FailsFirst entity dataset options e → Denotes s entity dataset options (.error e)
  | value {compiled : Compiled} {region : String → List Nat} :
      SelectionAlgebra.compile s.expression = .ok compiled → s.Knows compiled →
      (∀ named ∈ s.nodes,
        named.value.contribution entity dataset options = .ok (region named.name)) →
      Denotes s entity dataset options (.ok ((List.range (dataset.size entity)).map fun i =>
        compiled.meaning.selects s.names fun name => decide (i ∈ region name)))

theorem nodeMask_result (node : Node) (entity : Entity) (dataset : Dataset)
    (options : ConvertOptions) :
    (nodeMask node entity dataset options).result =
      (node.contribution entity dataset options).map (maskOf (dataset.size entity)) := by
  unfold nodeMask Node.contribution
  split
  · rfl
  · simp only [Outcome.result_bind, Outcome.result_forgive]
    cases node.resolve dataset options with
    | ok found => rfl
    | error e =>
      simp only
      split <;> rfl

section

variable {s : Selection} {entity : Entity} {dataset : Dataset} {options : ConvertOptions}

theorem mask_of_malformed (inhabited : s.nodes ≠ []) {e : ParseError}
    (rejected : SelectionAlgebra.compile s.expression = .error e) :
    (s.mask entity dataset options).result = .error (.malformed e) := by
  have some : s.nodes.isEmpty = false := by simpa using inhabited
  simp only [mask, some, rejected]
  rfl

theorem mask_of_compiled (inhabited : s.nodes ≠ []) {compiled : Compiled}
    (accepted : SelectionAlgebra.compile s.expression = .ok compiled) :
    (s.mask entity dataset options).result = (do
      s.validate compiled
      let masks ← s.nodes.mapM fun named =>
        (named.value.contribution entity dataset options).map fun found =>
          (⟨named.name, maskOf (dataset.size entity) found⟩ : Named (List Bool))
      s.evaluateCompiled compiled (.ofList masks)) := by
  have some : s.nodes.isEmpty = false := by simpa using inhabited
  have single (named : NamedNode) :
      (do let mask ← (nodeMask named.value entity dataset options).result
          (pure ⟨named.name, mask⟩ : Outcome (Named (List Bool))).result) =
        (named.value.contribution entity dataset options).map fun found =>
          (⟨named.name, maskOf (dataset.size entity) found⟩ : Named (List Bool)) := by
    rw [nodeMask_result]
    cases named.value.contribution entity dataset options <;> rfl
  simp only [mask, some, accepted, Bool.false_eq_true, if_false, Outcome.result_bind,
    Outcome.result_mapM, single]
  rfl

theorem find?_unknown_iff {source : String} {compiled : Compiled}
    (accepted : SelectionAlgebra.compile source = .ok compiled) (name : String) :
    (compiled.names.entries.find? fun m => !s.contains m) = some name ↔
      s.LeastUnknown compiled name := by
  simp only [NameSet.find?_eq_some_iff, mem_names_of_compile accepted, not_contains_iff]
  rfl

theorem find?_unknown_eq_none_iff {source : String} {compiled : Compiled}
    (accepted : SelectionAlgebra.compile source = .ok compiled) :
    (compiled.names.entries.find? fun m => !s.contains m) = none ↔ s.Knows compiled := by
  simp only [List.find?_eq_none, mem_names_of_compile accepted, not_contains_iff,
    Decidable.not_not]
  rfl

theorem mask_of_leastUnknown (inhabited : s.nodes ≠ []) {compiled : Compiled}
    (accepted : SelectionAlgebra.compile s.expression = .ok compiled) {name : String}
    (least : s.LeastUnknown compiled name) :
    (s.mask entity dataset options).result = .error (.unknownNode name) := by
  rw [mask_of_compiled inhabited accepted, validate, (find?_unknown_iff accepted name).mpr least]
  rfl

theorem mask_of_failsFirst (inhabited : s.nodes ≠ []) {compiled : Compiled}
    (accepted : SelectionAlgebra.compile s.expression = .ok compiled) (knows : s.Knows compiled)
    {e : SelectionError} (fails : s.FailsFirst entity dataset options e) :
    (s.mask entity dataset options).result = .error e := by
  obtain ⟨before, named, after, split, passed, stopped⟩ := fails
  have failed : (s.nodes.mapM fun named =>
      (named.value.contribution entity dataset options).map fun found =>
        (⟨named.name, maskOf (dataset.size entity) found⟩ : Named (List Bool))) = .error e := by
    rw [mapM_eq_error_iff]
    refine ⟨before, named, after, split, ?_, by rw [stopped]; rfl⟩
    intro n member
    obtain ⟨found, resolved⟩ := passed n member
    exact ⟨_, by rw [resolved]; rfl⟩
  rw [mask_of_compiled inhabited accepted, validate,
    (find?_unknown_eq_none_iff accepted).mpr knows, failed]
  rfl

theorem nodeMasks_eq_ok {α : Type} (compiled : Compiled) {masks : MaskSet α}
    (mask : String → List α) {nodes : List NamedNode}
    (supplied : ∀ named ∈ nodes, masks.get? named.name = some (mask named.name))
    (found : MaskSet α) :
    nodeMasks compiled masks nodes found =
      .ok (nodes.foldl (fun found named => found.insert named.name (mask named.name)) found) := by
  induction nodes generalizing found with
  | nil => rfl
  | cons named rest ih =>
    simp only [nodeMasks, supplied named List.mem_cons_self]
    exact ih (fun other member => supplied other (List.mem_cons_of_mem _ member)) _

def tables (s : Selection) (n : Nat) (test : String → Nat → Bool) : List (Named (List Bool)) :=
  s.nodes.map fun named => ⟨named.name, (List.range n).map (test named.name)⟩

theorem names_tables (n : Nat) (test : String → Nat → Bool) :
    (s.tables n test).map Named.name = s.names := by
  simp [tables, names]

theorem entries_tables (distinct : s.names.Nodup) (n : Nat) (test : String → Nat → Bool) :
    (MaskSet.ofList (s.tables n test)).entries = s.tables n test :=
  MaskSet.entries_ofList (by rwa [names_tables])

theorem nodeMasks_tables (distinct : s.names.Nodup) (compiled : Compiled) (n : Nat)
    (test : String → Nat → Bool) :
    nodeMasks compiled (.ofList (s.tables n test)) s.nodes .empty =
      .ok (.ofList (s.tables n test)) := by
  have supplied : ∀ named ∈ s.nodes, (MaskSet.ofList (s.tables n test)).get? named.name =
      some ((List.range n).map (test named.name)) := by
    intro named member
    have present : (⟨named.name, (List.range n).map (test named.name)⟩ : Named (List Bool)) ∈
        s.tables n test := List.mem_map_of_mem member
    rw [MaskSet.get?, entries_tables distinct]
    exact Named.find?_of_mem (by rwa [names_tables]) present
  have collected : nodeMasks compiled (.ofList (s.tables n test)) s.nodes .empty =
      .ok (s.nodes.foldl (fun found named =>
        found.insert named.name ((List.range n).map (test named.name))) .empty) :=
    nodeMasks_eq_ok compiled (fun m => (List.range n).map (test m)) supplied .empty
  rw [collected, MaskSet.ofList, tables, List.foldl_map]

theorem evaluateCompiled_tables (distinct : s.names.Nodup) (inhabited : s.nodes ≠ [])
    {compiled : Compiled} (accepted : SelectionAlgebra.compile s.expression = .ok compiled)
    (knows : s.Knows compiled) (n : Nat) (test : String → Nat → Bool) :
    s.evaluateCompiled compiled (.ofList (s.tables n test)) =
      .ok ((List.range n).map fun i => compiled.meaning.selects s.names fun m => test m i) := by
  have entries := entries_tables distinct n test
  have names : (MaskSet.ofList (s.tables n test)).names = s.names := by
    rw [MaskSet.names, entries, names_tables]
  have evaluated : compiled.evaluate (.ofList (s.tables n test)) =
      .ok ((List.range n).map fun i =>
        compiled.meaning.selects (MaskSet.ofList (s.tables n test)).names fun m => test m i) := by
    apply Compiled.evaluate_table
    · rw [entries]
      simpa [tables] using inhabited
    · exact mem_names_of_compile accepted
    · intro m member
      rw [names]
      exact knows m ((mem_names_of_compile accepted m).mp member)
    · intro entry member
      rw [entries] at member
      obtain ⟨named, -, rfl⟩ := List.mem_map.mp member
      simp [MaskElement.isSet]
  rw [names] at evaluated
  simp only [evaluateCompiled, validate, (find?_unknown_eq_none_iff accepted).mpr knows,
    nodeMasks_tables distinct, evaluated]

theorem mask_of_regions (distinct : s.names.Nodup) (inhabited : s.nodes ≠ [])
    {compiled : Compiled} (accepted : SelectionAlgebra.compile s.expression = .ok compiled)
    (knows : s.Knows compiled) {region : String → List Nat}
    (regions : ∀ named ∈ s.nodes,
      named.value.contribution entity dataset options = .ok (region named.name)) :
    (s.mask entity dataset options).result =
      .ok ((List.range (dataset.size entity)).map fun i =>
        compiled.meaning.selects s.names fun name => decide (i ∈ region name)) := by
  have steps : (s.nodes.mapM fun named =>
      (named.value.contribution entity dataset options).map fun found =>
        (⟨named.name, maskOf (dataset.size entity) found⟩ : Named (List Bool))) =
      .ok (s.tables (dataset.size entity) fun name i => decide (i ∈ region name)) := by
    rw [mapM_eq_ok_iff, tables, List.forall₂_map_right_iff, List.forall₂_same]
    intro named member
    rw [regions named member, ← maskOf_eq]
    rfl
  rw [mask_of_compiled inhabited accepted, validate,
    (find?_unknown_eq_none_iff accepted).mpr knows, steps]
  exact evaluateCompiled_tables distinct inhabited accepted knows _ _

theorem regions_or_failsFirst (s : Selection) (distinct : s.names.Nodup) (entity : Entity)
    (dataset : Dataset) (options : ConvertOptions) :
    (∃ region : String → List Nat, ∀ named ∈ s.nodes,
        named.value.contribution entity dataset options = .ok (region named.name)) ∨
      ∃ e, s.FailsFirst entity dataset options e := by
  cases steps : s.nodes.mapM fun named => named.value.contribution entity dataset options with
  | error e => exact .inr ⟨e, mapM_eq_error_iff.mp steps⟩
  | ok found =>
    let contributed : String → Except SelectionError (List Nat) := fun name =>
      match s.node? name with
      | some node => node.contribution entity dataset options
      | none => .ok []
    refine .inl ⟨fun name => (contributed name).toOption.getD [], ?_⟩
    intro named member
    obtain ⟨positions, -, resolved⟩ := exists_of_mapM_eq_ok steps member
    have present : s.node? named.name = some named.value := Named.find?_of_mem distinct member
    have contribution : contributed named.name = .ok positions := by
      simp only [contributed, present, resolved]
    simp only [contribution, resolved, Except.toOption, Option.getD_some]

theorem knows_or_leastUnknown {source : String} {compiled : Compiled}
    (accepted : SelectionAlgebra.compile source = .ok compiled) :
    s.Knows compiled ∨ ∃ name, s.LeastUnknown compiled name := by
  cases unknown : compiled.names.entries.find? fun m => !s.contains m with
  | none => exact .inl ((find?_unknown_eq_none_iff accepted).mp unknown)
  | some name => exact .inr ⟨name, (find?_unknown_iff accepted name).mp unknown⟩

theorem denotes_total (s : Selection) (distinct : s.names.Nodup) (entity : Entity)
    (dataset : Dataset) (options : ConvertOptions) :
    ∃ result, s.Denotes entity dataset options result := by
  cases accepted : SelectionAlgebra.compile s.expression with
  | error e => exact ⟨_, .malformed accepted⟩
  | ok compiled =>
    rcases knows_or_leastUnknown accepted with knows | ⟨name, least⟩
    · rcases s.regions_or_failsFirst distinct entity dataset options with
        ⟨region, regions⟩ | ⟨e, fails⟩
      · exact ⟨_, .value accepted knows regions⟩
      · exact ⟨_, .unresolved accepted knows fails⟩
    · exact ⟨_, .unknown accepted least⟩

theorem Denotes.mask_eq (distinct : s.names.Nodup) (inhabited : s.nodes ≠ [])
    {result : Except SelectionError (List Bool)}
    (denotes : s.Denotes entity dataset options result) :
    (s.mask entity dataset options).result = result := by
  cases denotes with
  | malformed rejected => exact mask_of_malformed inhabited rejected
  | unknown accepted least => exact mask_of_leastUnknown inhabited accepted least
  | unresolved accepted knows fails => exact mask_of_failsFirst inhabited accepted knows fails
  | value accepted knows regions => exact mask_of_regions distinct inhabited accepted knows regions

theorem mask_iff_denotes (distinct : s.names.Nodup) (inhabited : s.nodes ≠ [])
    (result : Except SelectionError (List Bool)) :
    (s.mask entity dataset options).result = result ↔ s.Denotes entity dataset options result := by
  constructor
  · rintro rfl
    obtain ⟨other, denotes⟩ := s.denotes_total distinct entity dataset options
    rw [denotes.mask_eq distinct inhabited]
    exact denotes
  · exact fun denotes => denotes.mask_eq distinct inhabited

theorem contribution_failsOnly (node : Node) (entity : Entity) (dataset : Dataset)
    (options : ConvertOptions) :
    FailsOnly Node.Plain (node.contribution entity dataset options) := by
  unfold Node.contribution
  split
  · exact .ok _
  · split
    · exact .ok _
    · rename_i e failed
      split
      · exact .ok _
      · exact .error (node.resolve_failsOnly dataset options e failed)

theorem lt_of_mem_contribution {node : Node} {found : List Nat}
    (contributed : node.contribution entity dataset options = .ok found) {i : Nat}
    (member : i ∈ found) : i < dataset.size entity := by
  unfold Node.contribution at contributed
  split at contributed
  · cases contributed
    cases member
  · rename_i same
    rw [ne_eq, Decidable.not_not] at same
    split at contributed
    · rename_i positions resolved
      cases contributed
      obtain ⟨test, -, inside⟩ := Node.resolve_eq_ok resolved
      rw [← same]
      exact ((inside i).mp member).1
    · split at contributed
      · cases contributed
        cases member
      · cases contributed

theorem Denotes.plain {e : SelectionError}
    (denotes : s.Denotes entity dataset options (.error e)) : ¬ e.OfMasks := by
  cases denotes with
  | malformed => exact id
  | unknown => exact id
  | unresolved _ _ fails =>
    obtain ⟨_, named, _, _, _, failed⟩ := fails
    exact (contribution_failsOnly named.value entity dataset options e failed).1

theorem Denotes.length {mask : List Bool}
    (denotes : s.Denotes entity dataset options (.ok mask)) :
    mask.length = dataset.size entity := by
  cases denotes
  simp

end

theorem selected_result (s : Selection) (entity : Entity) (dataset : Dataset)
    (options : ConvertOptions) :
    (s.selected entity dataset options).result =
      (s.mask entity dataset options).result.map selectedIndices := by
  rw [selected, Outcome.result_bind]
  cases (s.mask entity dataset options).result <;> rfl

/-- The mask of a selection is what the selection amounts to, with one value for each entity; its
failures are never about masks, and the selected positions are those of the mask in ascending
order. No node contributes a position beyond the mask. -/
theorem mask_exact (s : Selection) (distinct : s.names.Nodup) (inhabited : s.nodes ≠ [])
    (entity : Entity) (dataset : Dataset) (options : ConvertOptions) :
    (∀ result, (s.mask entity dataset options).result = result ↔
      s.Denotes entity dataset options result) ∧
    (∀ e, (s.mask entity dataset options).result = .error e →
      ¬ e.OfMasks ∧ (s.selected entity dataset options).result = .error e) ∧
    (∀ mask, (s.mask entity dataset options).result = .ok mask →
      mask.length = dataset.size entity ∧
      ∃ positions, (s.selected entity dataset options).result = .ok positions ∧
        positions.Pairwise (· < ·) ∧ ∀ i, i ∈ positions ↔ mask[i]? = some true) ∧
    ∀ named ∈ s.nodes, ∀ found, named.value.contribution entity dataset options = .ok found →
      ∀ i ∈ found, i < dataset.size entity := by
  refine ⟨mask_iff_denotes distinct inhabited, ?_, ?_, ?_⟩
  · intro e failed
    refine ⟨((mask_iff_denotes distinct inhabited _).mp failed).plain, ?_⟩
    rw [selected_result, failed]
    rfl
  · intro mask evaluated
    refine ⟨((mask_iff_denotes distinct inhabited _).mp evaluated).length, selectedIndices mask, ?_,
      ascending_selectedIndices mask, mem_selectedIndices mask⟩
    rw [selected_result, evaluated]
    rfl
  · intro named _ found contributed i member
    exact lt_of_mem_contribution contributed member

/-- One of two nodes is taken away from the other, over four cells. -/
theorem mask_exact_without :
    let s : Selection := {
      nodes := [⟨"kept", .ofIds .indices .cell [0, 1, 2]⟩, ⟨"dropped", .ofIds .indices .cell [1]⟩]
      expression := "kept & !dropped" }
    (s.mask .cell (Dataset.empty.setCount .cell 4) {}).result = .ok [true, false, true, false] := by
  intro s
  let region : String → List Nat := fun name => if name = "kept" then [0, 1, 2] else [1]
  have reads : Expr.Reads "kept & !dropped".toList
      [.name "kept", .binary .and, .bang, .name "dropped"] [] :=
    .name (by decide) <| .space rfl <| .sign rfl <| .space rfl <| .sign rfl <|
      .name (by decide) .done
  have kept : Expr.Phrase (.chain .and) 0 [.name "kept"] (.name "kept") := .single (.name "kept")
  have product := kept.join (.not (.name "dropped"))
  have derived : Expr.Derives "kept & !dropped" 1 (.and (.name "kept") (.not (.name "dropped"))) :=
    ⟨_, reads, .single (.single product)⟩
  have parsed := Expr.parse_of_derives derived (by decide) (by decide)
  have accepted : SelectionAlgebra.compile s.expression = .ok (.ofMeaning s.expression
      (.tree (.and (.name "kept") (.not (.name "dropped"))))) := by
    rw [SelectionAlgebra.compile, if_neg (by decide), parsed]
    rfl
  have knows : s.Knows (.ofMeaning s.expression
      (.tree (.and (.name "kept") (.not (.name "dropped"))))) := by
    rintro name (rfl | rfl)
    · exact List.mem_cons_self
    · exact List.mem_cons_of_mem _ List.mem_cons_self
  have regions : ∀ named ∈ s.nodes, named.value.contribution .cell
      (Dataset.empty.setCount .cell 4) {} = .ok (region named.name) := by
    intro named member
    rcases List.mem_pair.mp member with rfl | rfl
    · rw [show region "kept" = [0, 1, 2] by decide]
      rfl
    · rw [show region "dropped" = [1] by decide]
      rfl
  have denoted := ((mask_exact s (by decide) (by decide) .cell _ {}).1 _).mpr
    (.value accepted knows regions)
  rw [denoted]
  decide

end Selection

end SelectionAlgebra
