import SelectionAlgebra.Proofs.Convert.Node
import SelectionAlgebra.Proofs.Selection.Contributions

/-!
Going on without an array that the dataset lacks. This changes nothing but what would fail for want
of an array: a conversion then gives an empty node, and a mask is that of the selection with empty
nodes in the stead of those that cannot be resolved.
-/

namespace SelectionAlgebra

/-! ## Forgiving and strict callers -/

namespace ConvertOptions

def forgiving (options : ConvertOptions) (quiet : Bool) : ConvertOptions :=
  { options with allowMissingArray := true, quiet }

def strict (options : ConvertOptions) (quiet : Bool) : ConvertOptions :=
  { options with allowMissingArray := false, quiet }

end ConvertOptions

def substituteMissing {α : Type} (substitute : α) :
    Except SelectionError α → Except SelectionError α
  | .error (.missingArray _ _) => .ok substitute
  | result => result

namespace Outcome

variable {α : Type} (options : ConvertOptions) (quiet : Bool) (substitute : α)
  (report : SelectionError → Warning) (result : Except SelectionError α)

theorem result_forgive_strict :
    (forgive (options.strict quiet) substitute report result).result = result := by
  rw [result_forgive]
  cases result <;> simp [ConvertOptions.strict]

theorem result_forgive_forgiving :
    (forgive (options.forgiving quiet) substitute report result).result =
      substituteMissing substitute result := by
  rw [result_forgive]
  cases result with
  | ok a => rfl
  | error e => cases e <;> rfl

end Outcome

namespace Node

variable (node : Node) (target : Content) (entity : Entity) (dataset : Dataset)
  (options : ConvertOptions)

/-! ## Conversion -/

theorem carriedProperties_eq :
    node.carriedProperties =
      ((node.properties.erase .inverse).erase .epsilon).erase .componentNumber := by
  simp only [carriedProperties, Keyed.erase, Keyed.filter, List.filter_filter, Keyed.mk.injEq]
  apply List.filter_congr
  intro p _
  cases p <;> simp [Property.key]

theorem convert_forgiving (quiet loud : Bool) :
    (node.convert target dataset (options.forgiving quiet)).result =
      substituteMissing (node.convertedBare target)
        (node.convert target dataset (options.strict loud)).result := by
  have sameSteps : node.convertStrict target dataset (options.forgiving quiet) =
      node.convertStrict target dataset (options.strict loud) := rfl
  have sameKind : node.isConverted target (options.forgiving quiet) =
      node.isConverted target (options.strict loud) := rfl
  rw [convert, convert, sameSteps, sameKind]
  split
  · rfl
  · rw [Outcome.result_forgive_forgiving, Outcome.result_forgive_strict]

/-- The dataset lacks an array with which the node's lists are read. -/
def lacksArray : Bool :=
  match node.resolve dataset options with
  | .ok _ => false
  | .error e => e.isMissingArray

/-! ## Kinds of lists that are never made -/

section

variable (unsupported : target ∈
  [.frustum, .locations, .thresholds, .blocks, .blockSelectors, .query, .user])
include unsupported

theorem listArrays_of_unsupported (found : List Nat) :
    node.listArrays target found dataset options =
      .error (.incompatible .convert node.content target) := by
  cases target <;> first | rfl | simp at unsupported

theorem convertStrict_of_unsupported :
    node.convertStrict target dataset options =
      match node.resolve dataset options with
      | .ok _ => .error (.incompatible .convert node.content target)
      | .error e => .error e := by
  rw [convertStrict]
  cases node.resolve dataset options with
  | ok found =>
    have refused := node.listArrays_of_unsupported target dataset options unsupported found
    exact bind_eq_error_iff.mpr (.inr ⟨found, rfl, bind_eq_error_iff.mpr (.inl refused)⟩)
  | error e => rfl

/-- Where a node does not have lists of such a kind already, conversion is refused: for the kinds if
the node can be resolved, and otherwise as resolution is. It is not refused where a caller forgives
that an array is missing; then there is an empty node of that kind. -/
theorem convert_unsupported (other : ¬ (node.content = target ∧ node.properties.inverse = false)) :
    (node.convert target dataset options).result =
      (match node.resolve dataset options with
      | .ok _ => .error (.incompatible .convert node.content target)
      | .error e =>
        if e.isMissingArray && options.allowMissingArray then .ok (node.convertedBare target)
        else .error e) ∧
    ((∃ e, (node.convert target dataset options).result = .error e) ↔
      options.allowMissingArray = false ∨ node.lacksArray dataset options = false) := by
  have unnamed : target ≠ .values := by
    rintro rfl
    simp at unsupported
  have changed : ¬ node.isConverted target options = true := by
    rwa [isConverted_iff unnamed]
  have result : (node.convert target dataset options).result =
      match node.resolve dataset options with
      | .ok _ => .error (.incompatible .convert node.content target)
      | .error e =>
        if e.isMissingArray && options.allowMissingArray then .ok (node.convertedBare target)
        else .error e := by
    -- a node that can be resolved is refused afterwards, so only its resolution can be forgiven
    rw [convert, if_neg changed, Outcome.result_forgive,
      node.convertStrict_of_unsupported target dataset options unsupported]
    cases node.resolve dataset options <;> rfl
  refine ⟨result, ?_⟩
  rw [result, lacksArray]
  cases node.resolve dataset options with
  | ok found => simp
  | error e =>
    cases missing : e.isMissingArray <;> cases forgiven : options.allowMissingArray <;>
      simp [missing]

end

/-- A node is not made into a query where its ids can be looked up, and made into an empty one where
they cannot. -/
theorem convert_unsupported_query :
    let node : Node := .ofIds .globalIds .cell [7]
    let present := Dataset.empty.setGlobalIds .cell (.ofIds [7])
    let options : ConvertOptions := { allowMissingArray := true }
    (∃ e, (node.convert .query present options).result = .error e) ∧
      (node.convert .query .empty options).result = .ok (.bare .query .cell) := by
  intro node present options
  have refused := node.convert_unsupported .query present options (by decide) (by decide)
  have forgiven := node.convert_unsupported .query .empty options (by decide) (by decide)
  refine ⟨refused.2.mpr (.inr (by decide)), forgiven.1.trans ?_⟩
  decide

/-- Whether there are lists of a kind is not for the dataset to say, but an array that it lacks
turns a refusal into an empty node. -/
theorem not_convert_unsupported_of_missing :
    ¬ ∀ (node : Node) (target : Content) (dataset : Dataset) (options : ConvertOptions),
      target ∈ [.frustum, .locations, .thresholds, .blocks, .blockSelectors, .query, .user] →
      ¬ (node.content = target ∧ node.properties.inverse = false) →
      ∃ e, (node.convert target dataset options).result = .error e := by
  intro refused
  let node : Node := .ofIds .globalIds .cell [7]
  let options : ConvertOptions := { allowMissingArray := true }
  obtain ⟨e, failed⟩ := refused node .query .empty options (by decide) (by decide)
  have empty : (node.convert .query .empty options).result = .ok (.bare .query .cell) := by
    decide
  cases failed.symm.trans empty

/-! ## Masks -/

def orEmpty : Node :=
  if node.entity = entity ∧ node.lacksArray dataset options = true then bare .indices entity
  else node

theorem resolve_bare : (bare .indices entity).resolve dataset options = .ok [] := by
  have plain : (bare .indices entity).properties.inverse = false := rfl
  obtain ⟨found, resolved, byId⟩ := resolve_indices dataset options plain rfl
  rw [resolved, eq_nil_of_unlisted byId fun _ ⟨_, member, _⟩ => List.not_mem_nil member]

theorem contribution_strict (quiet : Bool) :
    node.contribution entity dataset (options.strict quiet) =
      if node.entity ≠ entity then .ok [] else node.resolve dataset options := by
  have same : node.resolve dataset (options.strict quiet) = node.resolve dataset options := rfl
  rw [contribution, same]
  cases node.resolve dataset options <;> simp [ConvertOptions.strict]

theorem contribution_forgiving (quiet : Bool) :
    node.contribution entity dataset (options.forgiving quiet) =
      if node.entity ≠ entity then .ok []
      else substituteMissing [] (node.resolve dataset options) := by
  have same : node.resolve dataset (options.forgiving quiet) = node.resolve dataset options := rfl
  rw [contribution, same]
  cases node.resolve dataset options with
  | ok found => rfl
  | error e => cases e <;> rfl

theorem contribution_orEmpty (quiet loud : Bool) :
    (node.orEmpty entity dataset options).contribution entity dataset (options.strict loud) =
      node.contribution entity dataset (options.forgiving quiet) := by
  rw [contribution_strict, contribution_forgiving]
  by_cases kind : node.entity = entity
  · cases resolved : node.resolve dataset options with
    | ok found => simp [orEmpty, lacksArray, kind, resolved, substituteMissing]
    | error e =>
      cases e with
      | missingArray lacking name =>
        -- the empty node is plain, so it selects nothing even where the node is inverted
        have empty : node.orEmpty entity dataset options = bare .indices entity :=
          if_pos ⟨kind, by rw [lacksArray, resolved]; rfl⟩
        rw [empty, resolve_bare, ite_self, if_neg (not_not.mpr kind)]
        rfl
      | _ =>
        simp [orEmpty, lacksArray, kind, resolved, substituteMissing,
          SelectionError.isMissingArray]
  · simp [orEmpty, kind]

end Node

namespace Selection

/-- The selection with empty nodes in the stead of those that restrict these entities and lack an
array. -/
def withoutLacking (s : Selection) (entity : Entity) (dataset : Dataset)
    (options : ConvertOptions) : Selection :=
  { s with nodes := s.nodes.map fun named =>
      ⟨named.name, named.value.orEmpty entity dataset options⟩ }

theorem mask_forgiving (s : Selection) (entity : Entity) (dataset : Dataset)
    (options : ConvertOptions) (quiet loud : Bool) :
    (s.mask entity dataset (options.forgiving quiet)).result =
      ((s.withoutLacking entity dataset options).mask entity dataset
        (options.strict loud)).result := by
  apply mask_congr
  · rfl
  · simp only [contributions, withoutLacking, List.map_map]
    apply List.map_congr_left
    intro named _
    exact congrArg (Named.mk named.name)
      (named.value.contribution_orEmpty entity dataset options quiet loud).symm

end Selection

/-- A forgiving caller gets what a strict one gets, short of failures for want of an array. Of a
conversion that fails so it gets an empty node with the qualifiers that are carried over, and its
masks are a strict caller's masks of the selection with empty nodes in the stead of those that fail
so. Inverted or not, such a node selects nothing. -/
theorem forgiving_exact (dataset : Dataset) (options : ConvertOptions) (quiet loud : Bool) :
    (∀ (node : Node) (target : Content),
      (node.convert target dataset (options.forgiving quiet)).result =
        substituteMissing
          { content := target
            entity := node.entity
            arrays := []
            properties :=
              ((node.properties.erase .inverse).erase .epsilon).erase .componentNumber }
          (node.convert target dataset (options.strict loud)).result) ∧
    (∀ (s : Selection) (entity : Entity),
      (s.mask entity dataset (options.forgiving quiet)).result =
        ((s.withoutLacking entity dataset options).mask entity dataset
          (options.strict loud)).result) ∧
    ∀ node : Node, node.lacksArray dataset options = true →
      (Selection.nodeMask node node.entity dataset (options.forgiving quiet)).result =
        .ok (List.replicate (dataset.size node.entity) false) := by
  refine ⟨?_, ?_, ?_⟩
  · intro node target
    rw [← node.carriedProperties_eq]
    exact node.convert_forgiving target dataset options quiet loud
  · exact fun s entity => s.mask_forgiving entity dataset options quiet loud
  · intro node lacking
    have empty : node.orEmpty node.entity dataset options = .bare .indices node.entity :=
      if_pos ⟨rfl, lacking⟩
    rw [Selection.nodeMask_result, ← node.contribution_orEmpty node.entity dataset options quiet
      loud, empty, Node.contribution_strict, Node.resolve_bare, ite_self]
    rfl

end SelectionAlgebra
