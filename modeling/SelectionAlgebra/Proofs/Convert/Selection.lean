import SelectionAlgebra.Proofs.Convert.Node
import SelectionAlgebra.Proofs.Selection.Contributions

/-!
Conversion of a selection keeps its masks, where lists of the new kind can single out any entities.
The names and the expression stay as they are, so all that counts is what each node contributes.
-/

namespace SelectionAlgebra

/-- Lists of this kind can select any of the entities without their neighbours: all positions are
ids, or every entity has an id of its own. -/
def Dataset.SinglesOut (dataset : Dataset) (entity : Entity) (target : Content) : Prop :=
  match target with
  | .indices => (dataset.size entity : Int) ≤ Int64.maxValue.toInt
  | .globalIds => ∃ ids, dataset.globalIds? entity = some ids ∧ ids.components = 1 ∧
      TellsApart ids.data.idAt? (dataset.size entity)
  | .pedigreeIds => ∃ ids, dataset.pedigreeIds? entity = some ids ∧ ids.components = 1 ∧
      TellsApart ids.data.keyAt? (dataset.size entity)
  | .values | .thresholds | .frustum | .locations | .blocks | .blockSelectors | .query | .user =>
    False

namespace Node

variable {node converted : Node} {target : Content} {dataset : Dataset} {options : ConvertOptions}

theorem exists_convert_of_singlesOut (singles : dataset.SinglesOut node.entity target)
    {found : List Nat} (resolved : node.resolve dataset options = .ok found) :
    ∃ converted, node.convert target dataset options = pure converted ∧
      converted.resolve dataset options = .ok found := by
  cases target with
  | indices =>
    obtain ⟨converted, passed, -, resolvedAgain⟩ := convert_indices singles resolved
    exact ⟨converted, passed, resolvedAgain⟩
  | globalIds =>
    obtain ⟨ids, present, single, apart⟩ := singles
    obtain ⟨converted, passed, -, again, resolvedAgain, -, -, same⟩ :=
      convert_globalIds present single resolved
    exact ⟨converted, passed, same apart ▸ resolvedAgain⟩
  | pedigreeIds =>
    obtain ⟨ids, present, single, apart⟩ := singles
    obtain ⟨converted, passed, -, again, resolvedAgain, -, -, same⟩ :=
      convert_pedigreeIds present single resolved
    exact ⟨converted, passed, same apart ▸ resolvedAgain⟩
  | values | thresholds | frustum | locations | blocks | blockSelectors | query | user =>
    exact singles.elim

theorem resolve_convertedBare (singles : dataset.SinglesOut node.entity target) :
    (node.convertedBare target).resolve dataset options = .ok [] := by
  have plain : (node.convertedBare target).properties.inverse = false :=
    node.inverse_carriedProperties
  cases target with
  | indices =>
    obtain ⟨found, resolved, byId⟩ := resolve_indices dataset options plain rfl
    rw [resolved, eq_nil_of_unlisted byId fun _ ⟨_, member, _⟩ => List.not_mem_nil member]
  | globalIds =>
    obtain ⟨ids, present, single, -⟩ := singles
    obtain ⟨found, resolved, byId⟩ := resolve_globalIds dataset options plain rfl present single
    rw [resolved, eq_nil_of_unlisted byId fun _ ⟨_, _, member⟩ => List.not_mem_nil member]
  | pedigreeIds =>
    obtain ⟨ids, present, single, -⟩ := singles
    have typed : ∀ array ∈ (node.convertedBare .pedigreeIds).arrays,
        array.elementType = ids.elementType := fun _ member => (List.not_mem_nil member).elim
    obtain ⟨found, resolved, byId⟩ :=
      resolve_pedigreeIds dataset options plain rfl present single typed
    rw [resolved, eq_nil_of_unlisted byId fun _ ⟨_, _, _, member, _⟩ => List.not_mem_nil member]
  | values | thresholds | frustum | locations | blocks | blockSelectors | query | user =>
    exact singles.elim

/-- A converted node contributes what the node did: it resolves to the same entities, or it could
not be resolved, and is still the same node or selects nothing for want of an array. -/
theorem contribution_convert (singles : dataset.SinglesOut node.entity target)
    (converts : (node.convert target dataset options).result = .ok converted) (entity : Entity) :
    converted.contribution entity dataset options = node.contribution entity dataset options := by
  have kind := (restates_of_convert converts).entity
  cases resolved : node.resolve dataset options with
  | ok found =>
    obtain ⟨again, passed, resolvedAgain⟩ := exists_convert_of_singlesOut singles resolved
    rw [passed] at converts
    cases converts
    simp only [contribution, kind, resolved, resolvedAgain]
  | error e =>
    have failed : node.convertStrict target dataset options = .error e := by
      rw [convertStrict, resolved]
      rfl
    rcases convert_eq_ok converts with rfl | strict | ⟨d, strict, forgiven, rfl⟩
    · rfl
    · cases failed.symm.trans strict
    · cases failed.symm.trans strict
      simp only [contribution, kind, resolved, resolve_convertedBare singles, forgiven, if_true]

end Node

namespace Selection

variable {s out : Selection} {target : Content} {dataset : Dataset} {options : ConvertOptions}

def joinConverted (target : Content) (dataset : Dataset) (options : ConvertOptions)
    (converted : Selection) (named : NamedNode) : Outcome Selection := do
  let node ← named.value.convert target dataset options
  return converted.setNode named.name node

theorem result_convert :
    (s.convert target dataset options).result =
      (s.nodes.foldlM (joinConverted target dataset options) empty).result >>= fun converted =>
        .ok (converted.setExpression s.expression) :=
  Outcome.result_bind ..

structure ConvertsNode (target : Content) (dataset : Dataset) (options : ConvertOptions)
    (named converted : NamedNode) : Prop where
  name : named.name = converted.name
  value : (named.value.convert target dataset options).result = .ok converted.value

theorem nodes_of_run {nodes : List NamedNode} {start : Selection}
    (distinct : (start.names ++ nodes.map Named.name).Nodup)
    (run : (nodes.foldlM (joinConverted target dataset options) start).result = .ok out) :
    ∃ converted, out.nodes = start.nodes ++ converted ∧
      List.Forall₂ (ConvertsNode target dataset options) nodes converted := by
  induction nodes generalizing start with
  | nil =>
    cases run
    exact ⟨[], (List.append_nil _).symm, .nil⟩
  | cons first rest ih =>
    rw [List.foldlM_cons, Outcome.result_bind] at run
    obtain ⟨next, joined, run⟩ := bind_eq_ok_iff.mp run
    rw [joinConverted, Outcome.result_bind] at joined
    obtain ⟨node, converts, made⟩ := bind_eq_ok_iff.mp joined
    cases made
    rw [List.map_cons, List.append_cons] at distinct
    have fresh : first.name ∉ start.names :=
      List.disjoint_singleton.mp (List.disjoint_of_nodup_append (List.nodup_append.mp distinct).1)
    have appended : (start.setNode first.name node).nodes = start.nodes ++ [⟨first.name, node⟩] :=
      Named.place_of_not_mem node fresh
    have names : (start.setNode first.name node).names = start.names ++ [first.name] := by
      simp [Selection.names, appended]
    -- the names of the converted nodes are those of their originals, so the next one is new again
    obtain ⟨converted, nodes, each⟩ := ih (names ▸ distinct) run
    refine ⟨⟨first.name, node⟩ :: converted, ?_, .cons ⟨rfl, converts⟩ each⟩
    rw [nodes, appended, List.append_assoc, List.singleton_append]

theorem nodes_of_convert (distinct : s.names.Nodup)
    (converts : (s.convert target dataset options).result = .ok out) :
    out.expression = s.expression ∧
      List.Forall₂ (ConvertsNode target dataset options) s.nodes out.nodes := by
  rw [result_convert] at converts
  obtain ⟨converted, run, made⟩ := bind_eq_ok_iff.mp converts
  cases made
  have apart : (empty.names ++ s.nodes.map Named.name).Nodup := distinct
  obtain ⟨nodes, all, each⟩ := nodes_of_run apart run
  have held : converted.nodes = nodes := all
  exact ⟨rfl, held ▸ each⟩

structure Restates (out s : Selection) (target : Content) : Prop where
  expression : out.expression = s.expression
  names : out.names = s.names
  nodes : List.Forall₂ (fun named made => made.value.Restates named.value target) s.nodes out.nodes

theorem restates_of_convert (distinct : s.names.Nodup)
    (converts : (s.convert target dataset options).result = .ok out) : out.Restates s target := by
  obtain ⟨expression, each⟩ := nodes_of_convert distinct converts
  refine ⟨expression, ?_, ?_⟩
  · exact (map_eq_map_iff_forall₂.mpr (each.imp fun _ _ converted => converted.name)).symm
  · exact each.imp fun _ _ converted => Node.restates_of_convert converted.value

theorem contributions_convert (distinct : s.names.Nodup)
    (singles : ∀ named ∈ s.nodes, dataset.SinglesOut named.value.entity target)
    (converts : (s.convert target dataset options).result = .ok out) (entity : Entity) :
    out.contributions entity dataset options = s.contributions entity dataset options := by
  obtain ⟨-, each⟩ := nodes_of_convert distinct converts
  have apart := (List.forall₂_and_left _ _).mpr ⟨singles, each⟩
  refine (map_eq_map_iff_forall₂.mpr (apart.imp ?_)).symm
  rintro named made ⟨single, converted⟩
  rw [converted.name, Node.contribution_convert single converted.value]

theorem exists_run {nodes : List NamedNode} (start : Selection)
    (singles : ∀ named ∈ nodes, dataset.SinglesOut named.value.entity target)
    (resolved : ∀ named ∈ nodes, ∃ found, named.value.resolve dataset options = .ok found) :
    ∃ out, (nodes.foldlM (joinConverted target dataset options) start).result = .ok out := by
  induction nodes generalizing start with
  | nil => exact ⟨start, rfl⟩
  | cons first rest ih =>
    obtain ⟨found, here⟩ := resolved first List.mem_cons_self
    obtain ⟨node, passed, -⟩ :=
      Node.exists_convert_of_singlesOut (singles first List.mem_cons_self) here
    obtain ⟨out, run⟩ := ih (start.setNode first.name node)
      (fun named member => singles named (List.mem_cons_of_mem _ member))
      (fun named member => resolved named (List.mem_cons_of_mem _ member))
    refine ⟨out, ?_⟩
    rw [List.foldlM_cons, joinConverted, passed]
    exact run

/-- A converted selection has the same mask, whatever its expression makes of the nodes; it has the
same expression, too, and nodes of the kind asked for under the same names. When all nodes can be
resolved, the selection can be converted. -/
theorem mask_convert (s : Selection) (target : Content) (dataset : Dataset)
    (options : ConvertOptions) (distinct : s.names.Nodup)
    (singles : ∀ named ∈ s.nodes, dataset.SinglesOut named.value.entity target) :
    (∀ out, (s.convert target dataset options).result = .ok out →
      out.Restates s target ∧ ∀ entity,
        (out.mask entity dataset options).result = (s.mask entity dataset options).result) ∧
    ((∀ named ∈ s.nodes, ∃ found, named.value.resolve dataset options = .ok found) →
      ∃ out, (s.convert target dataset options).result = .ok out) := by
  constructor
  · intro out converts
    have restates := restates_of_convert distinct converts
    refine ⟨restates, fun entity => ?_⟩
    exact mask_congr restates.expression (contributions_convert distinct singles converts entity)
  · intro resolved
    obtain ⟨converted, run⟩ := exists_run empty singles resolved
    exact ⟨_, result_convert.trans (bind_eq_ok_iff.mpr ⟨converted, run, rfl⟩)⟩

/-- Two of three cells are left out, one by its position and one by its id; a third node is empty
for want of an array. -/
theorem mask_convert_forgiven :
    let ids : TupleArray := .ofIds [7, 8, 9]
    let dataset := Dataset.empty.setGlobalIds .cell ids
    let options : ConvertOptions := { allowMissingArray := true }
    let first : Node :=
      { Node.ofIds .indices .cell [0] with properties := .ofList [.inverse true] }
    let s : Selection := {
      nodes := [⟨"others", first⟩, ⟨"second", .ofIds .globalIds .cell [8]⟩,
        ⟨"unknown", .ofValues .cell "kind" (.ints [3])⟩]
      expression := "others & !(second | unknown)" }
    let out : Selection := {
      nodes := [⟨"others", .ofIds .globalIds .cell [8, 9]⟩,
        ⟨"second", .ofIds .globalIds .cell [8]⟩, ⟨"unknown", .bare .globalIds .cell⟩]
      expression := "others & !(second | unknown)" }
    (s.convert .globalIds dataset options).result = .ok out ∧ out.Restates s .globalIds ∧
      (out.mask .cell dataset options).result = (s.mask .cell dataset options).result := by
  intro ids dataset options first s out
  have covered : ∀ i < dataset.size .cell, (ids.data.idAt? i).isSome = true := by decide
  have apart : TellsApart ids.data.idAt? (dataset.size .cell) :=
    ⟨fun i inside => Option.isSome_iff_exists.mp (covered i inside), by decide⟩
  have converts : (s.convert .globalIds dataset options).result = .ok out := by decide
  have singles : ∀ named ∈ s.nodes, dataset.SinglesOut named.value.entity .globalIds := by
    intro named member
    have entity : named.value.entity = .cell := by
      revert named
      decide
    rw [entity]
    exact ⟨ids, rfl, rfl, apart⟩
  obtain ⟨restates, masks⟩ :=
    (mask_convert s .globalIds dataset options (by decide) singles).1 out converts
  exact ⟨converts, restates, masks .cell⟩

end Selection

end SelectionAlgebra
