import SelectionAlgebra.Proofs.Node.Tuples
import SelectionAlgebra.Proofs.Resolve.Union
import SelectionAlgebra.Proofs.Selection.Catalog
import SelectionAlgebra.Proofs.Selection.Meaning

/-!
Unions of selections as unions of entities. With a blank expression a selection selects what some
node of it contributes. A node that comes in adds what it contributes, whether it is merged into a
node that is there or appended, and so does a selection that comes in node by node.
-/

namespace SelectionAlgebra

namespace Node

/-! ## Contributions of nodes -/

/-- A node that selects more, never less, as its lists grow: it is not inverted, and its arrays hold
whole tuples. -/
structure Additive (node : Node) : Prop where
  upright : node.properties.inverse = false
  whole : ∀ array ∈ node.arrays, array.components ∣ array.data.size

section

variable {ours theirs united : Node} {entity : Entity} {dataset : Dataset}
  {options : ConvertOptions}

theorem Additive.union (additive : ours.Additive) (additiveToo : theirs.Additive)
    (succeeded : ours.union theirs = (.ok (), united)) : united.Additive where
  upright := by rw [(union_keeps succeeded).2, additive.upright]
  whole := by
    have kept := whole_union additive.whole additiveToo.whole
    rwa [succeeded] at kept

theorem contribution_of_strict (strict : options.allowMissingArray = false) (node : Node) :
    node.contribution entity dataset options =
      if node.entity ≠ entity then .ok [] else node.resolve dataset options := by
  unfold contribution
  split
  · rfl
  · cases node.resolve dataset options <;> simp [strict]

def Contributes (node : Node) (entity : Entity) (dataset : Dataset) (options : ConvertOptions)
    (i : Nat) : Prop :=
  ∃ found, node.contribution entity dataset options = .ok found ∧ i ∈ found

theorem contributes_iff {node : Node} {found : List Nat}
    (contributed : node.contribution entity dataset options = .ok found) (i : Nat) :
    node.Contributes entity dataset options i ↔ i ∈ found := by
  simp only [Contributes, contributed, Except.ok.injEq, exists_eq_left']

theorem exists_contribution_union (strict : options.allowMissingArray = false)
    (alike : ours.matchesNode theirs = true) (additive : ours.Additive)
    (additiveToo : theirs.Additive) (succeeded : ours.union theirs = (.ok (), united))
    {a b : List Nat} (first : ours.contribution entity dataset options = .ok a)
    (second : theirs.contribution entity dataset options = .ok b) :
    ∃ c, united.contribution entity dataset options = .ok c ∧ ∀ i, i ∈ c ↔ i ∈ a ∨ i ∈ b := by
  simp only [matchesNode, agreesWith, Bool.and_eq_true, beq_iff_eq] at alike
  obtain ⟨⟨⟨⟨-, same⟩, subset⟩, -⟩, ⟨⟨-, superset⟩, -⟩⟩ := alike
  obtain ⟨kept, properties⟩ := union_keeps succeeded
  rw [contribution_of_strict strict] at first second ⊢
  rw [← same] at second
  rw [kept]
  split at first
  · -- both nodes restrict other entities, and so does their union
    rename_i other
    rw [if_pos other] at second ⊢
    cases first
    cases second
    exact ⟨[], rfl, by simp⟩
  · rename_i here
    rw [if_neg here] at second ⊢
    obtain ⟨x, testOurs, memberA⟩ := resolve_eq_ok first
    obtain ⟨y, testTheirs, memberB⟩ := resolve_eq_ok second
    obtain ⟨z, testAll, joins⟩ := exists_listTest_union same
      (Properties.readsAs_of_isSubset subset superset) additive.whole succeeded testOurs testTheirs
    obtain ⟨c, resolved, -, memberC⟩ := exists_resolve testAll
    refine ⟨c, resolved, ?_⟩
    intro i
    rw [memberA, memberB, memberC, kept, properties, ← same, additive.upright,
      additiveToo.upright, Bool.bne_false, Bool.bne_false, Bool.bne_false, joins i, and_or_left]

end

end Node

/-! ## Masks by what they mark -/

theorem getElem?_table (n : Nat) (test : Nat → Bool) (i : Nat) :
    ((List.range n).map test)[i]? = some true ↔ i < n ∧ test i = true := by
  by_cases inside : i < n <;> simp [inside]

namespace Selection

/-! ## Selections without an expression -/

def Finds (s : Selection) (entity : Entity) (dataset : Dataset) (options : ConvertOptions)
    (i : Nat) : Prop :=
  ∃ named ∈ s.nodes, named.value.Contributes entity dataset options i

def Resolves (s : Selection) (entity : Entity) (dataset : Dataset) (options : ConvertOptions) :
    Prop :=
  ∀ named ∈ s.nodes, ∃ found, named.value.contribution entity dataset options = .ok found

section

variable {s : Selection} {entity : Entity} {dataset : Dataset} {options : ConvertOptions}

section

variable (distinct : s.Distinct) (blank : s.expression.toList.all Text.isBlank = true)
include distinct blank

theorem exists_mask_of_resolves (resolves : s.Resolves entity dataset options) :
    ∃ mask, (s.mask entity dataset options).result = .ok mask := by
  by_cases none : s.nodes = []
  · exact ⟨_, by rw [mask, none]; rfl⟩
  · have accepted : SelectionAlgebra.compile s.expression =
        .ok (.ofMeaning s.expression .anyMask) := by
      rw [SelectionAlgebra.compile, if_pos blank]
    rcases s.regions_or_failsFirst distinct entity dataset options with
      ⟨region, regions⟩ | ⟨e, before, named, after, split, -, failed⟩
    · exact ⟨_, mask_of_regions distinct none accepted (fun _ mentioned => mentioned.elim) regions⟩
    · obtain ⟨found, contributed⟩ := resolves named (by simp [split])
      cases failed.symm.trans contributed

theorem of_mask {mask : List Bool} (evaluated : (s.mask entity dataset options).result = .ok mask) :
    s.Resolves entity dataset options ∧ mask.length = dataset.size entity ∧
      ∀ i, mask[i]? = some true ↔ s.Finds entity dataset options i := by
  by_cases none : s.nodes = []
  · rw [Selection.mask, none] at evaluated
    cases evaluated
    simp [Resolves, Finds, none, List.getElem?_replicate]
  · cases (mask_iff_denotes distinct none _).mp evaluated with
    | @value compiled region accepted knows regions =>
      rw [SelectionAlgebra.compile, if_pos blank] at accepted
      cases accepted
      refine ⟨fun named member => ⟨_, regions named member⟩, by simp, ?_⟩
      intro i
      have chosen : (s.names.any fun name => decide (i ∈ region name)) = true ↔
          ∃ named ∈ s.nodes, i ∈ region named.name := by
        simp [names]
      refine (getElem?_table ..).trans ((and_congr_right fun _ => chosen).trans ?_)
      constructor
      · rintro ⟨-, named, present, member⟩
        exact ⟨named, present, _, regions named present, member⟩
      · rintro ⟨named, present, found, contributed, member⟩
        cases (regions named present).symm.trans contributed
        exact ⟨lt_of_mem_contribution contributed member, named, present, member⟩

end

/-! ## Nodes that come in -/

structure Ready (s : Selection) (entity : Entity) (dataset : Dataset) (options : ConvertOptions) :
    Prop where
  distinct : s.Distinct
  additive : ∀ named ∈ s.nodes, named.value.Additive
  resolves : s.Resolves entity dataset options

theorem finds_of_perm {entry : NamedNode} {rest : List NamedNode}
    (nodes : s.nodes.Perm (entry :: rest)) (i : Nat) :
    s.Finds entity dataset options i ↔ entry.value.Contributes entity dataset options i ∨
      ∃ named ∈ rest, named.value.Contributes entity dataset options i := by
  simp only [Finds, nodes.mem_iff, List.exists_mem_cons_iff]

theorem Ready.of_perm (ready : s.Ready entity dataset options) {t : Selection}
    (distinct : t.Distinct) {entry : NamedNode} {rest : List NamedNode}
    (nodes : t.nodes.Perm (entry :: rest)) (others : rest ⊆ s.nodes)
    (additive : entry.value.Additive) {found : List Nat}
    (contributed : entry.value.contribution entity dataset options = .ok found) :
    t.Ready entity dataset options where
  distinct := distinct
  additive := by
    intro named member
    rcases List.mem_cons.mp (nodes.mem_iff.mp member) with rfl | other
    · exact additive
    · exact ready.additive named (others other)
  resolves := by
    intro named member
    rcases List.mem_cons.mp (nodes.mem_iff.mp member) with rfl | other
    · exact ⟨found, contributed⟩
    · exact ready.resolves named (others other)

theorem Ready.unionNode (ready : s.Ready entity dataset options)
    (strict : options.allowMissingArray = false) {node : Node} (additive : node.Additive)
    {found : List Nat} (contributed : node.contribution entity dataset options = .ok found)
    {t : Selection} (added : s.unionNode node = (.ok (), t)) :
    t.Ready entity dataset options ∧ t.expression = s.expression ∧
      ∀ i, t.Finds entity dataset options i ↔ s.Finds entity dataset options i ∨ i ∈ found := by
  rw [unionNode_eq ready.distinct] at added
  cases alike : s.nodes.find? fun named => named.value.matchesNode node with
  | none =>
    rw [alike] at added
    cases added
    have distinct : (s.addNode node).Distinct := by
      rw [addNode_eq]
      exact distinct_setNode ready.distinct _ _
    have nodes : (s.addNode node).nodes.Perm (⟨s.unusedName, node⟩ :: s.nodes) :=
      List.perm_append_singleton _ _
    refine ⟨ready.of_perm distinct nodes (List.Subset.refl _) additive contributed, rfl, ?_⟩
    intro i
    rw [finds_of_perm nodes, Node.contributes_iff contributed, or_comm]
    rfl
  | some ours =>
    rw [alike] at added
    obtain ⟨matched, before, after, split, -⟩ := List.find?_eq_some_iff_append.mp alike
    have former : s.nodes.Perm (ours :: (before ++ after)) := split ▸ List.perm_middle
    have present : ours ∈ s.nodes := former.mem_iff.mpr List.mem_cons_self
    obtain ⟨positions, contributes⟩ := ready.resolves ours present
    cases merged : ours.value.union node with
    | mk result united =>
      simp only [merged, Prod.mk.injEq] at added
      obtain ⟨rfl, rfl⟩ := added
      have nodes : (s.setNode ours.name united).nodes.Perm
          (⟨ours.name, united⟩ :: (before ++ after)) := by
        rw [setNode, split,
          Named.place_split (Named.fresh_of_split ready.distinct split) ours.value united]
        exact List.perm_middle
      obtain ⟨all, contributesAll, either⟩ := Node.exists_contribution_union strict matched
        (ready.additive ours present) additive merged contributes contributed
      refine ⟨ready.of_perm (distinct_setNode ready.distinct _ _) nodes ?_
        ((ready.additive ours present).union additive merged) contributesAll, rfl, ?_⟩
      · intro named member
        exact former.mem_iff.mpr (List.mem_cons_of_mem _ member)
      · intro i
        rw [finds_of_perm nodes, finds_of_perm former, Node.contributes_iff contributesAll,
          Node.contributes_iff contributes, either]
        exact or_right_comm

theorem Ready.run (ready : s.Ready entity dataset options)
    (strict : options.allowMissingArray = false) {others : List NamedNode}
    (additive : ∀ theirs ∈ others, theirs.value.Additive)
    (resolves : ∀ theirs ∈ others, ∃ found,
      theirs.value.contribution entity dataset options = .ok found)
    {t : Selection}
    (added : Edit.each (fun theirs s => Selection.unionNode s theirs.value) others s =
      (.ok (), t)) :
    t.Ready entity dataset options ∧ t.expression = s.expression ∧
      ∀ i, t.Finds entity dataset options i ↔ s.Finds entity dataset options i ∨
        ∃ theirs ∈ others, theirs.value.Contributes entity dataset options i := by
  induction others generalizing s with
  | nil =>
    cases added
    exact ⟨ready, rfl, by simp⟩
  | cons theirs rest ih =>
    obtain ⟨first, additive⟩ := List.forall_mem_cons.mp additive
    obtain ⟨⟨found, contributed⟩, resolves⟩ := List.forall_mem_cons.mp resolves
    unfold Edit.each at added
    split at added
    · rename_i between step
      obtain ⟨readyToo, same, finds⟩ := ready.unionNode strict first contributed step
      obtain ⟨readyAfterAll, sameToo, findsAll⟩ := ih readyToo additive resolves added
      refine ⟨readyAfterAll, sameToo.trans same, ?_⟩
      intro i
      rw [findsAll, finds, List.exists_mem_cons_iff, Node.contributes_iff contributed, or_assoc]
    · cases added

end

/-- The union of two selections without expressions selects what one or the other selects. -/
theorem mask_union (s other united : Selection) (entity : Entity) (dataset : Dataset)
    (options : ConvertOptions) (strict : options.allowMissingArray = false)
    (distinct : s.Distinct) (distinctToo : other.Distinct)
    (blank : s.expression.toList.all Text.isBlank = true)
    (blankToo : other.expression.toList.all Text.isBlank = true)
    (additive : ∀ named ∈ s.nodes, named.value.Additive)
    (additiveToo : ∀ named ∈ other.nodes, named.value.Additive) (a b : List Bool)
    (first : (s.mask entity dataset options).result = .ok a)
    (second : (other.mask entity dataset options).result = .ok b)
    (succeeded : s.union other = (.ok (), united)) :
    ∃ mask, (united.mask entity dataset options).result = .ok mask ∧
      mask.length = dataset.size entity ∧
      ∀ i : Nat, mask[i]? = some true ↔ a[i]? = some true ∨ b[i]? = some true := by
  obtain ⟨resolves, -, marks⟩ := of_mask distinct blank first
  obtain ⟨resolvesToo, -, marksToo⟩ := of_mask distinctToo blankToo second
  rw [union_eq_allOrNothing] at succeeded
  have added := Edit.of_allOrNothing succeeded
  obtain ⟨ready, expression, finds⟩ :=
    Ready.run ⟨distinct, additive, resolves⟩ strict additiveToo resolvesToo added
  obtain ⟨mask, evaluated⟩ :=
    exists_mask_of_resolves ready.distinct (expression ▸ blank) ready.resolves
  obtain ⟨-, length, marksAll⟩ := of_mask ready.distinct (expression ▸ blank) evaluated
  refine ⟨mask, evaluated, length, ?_⟩
  intro i
  rw [marksAll, finds, marks, marksToo]
  rfl

/-- Of four nodes that come in, one is merged into a node that is there, one into another one that
came in before it, and the others are added. -/
theorem mask_union_mixed :
    let s : Selection := { nodes := [⟨"kept", .ofIds .indices .cell [0]⟩] }
    let other : Selection := {
      nodes := [⟨"more", .ofIds .indices .cell [4]⟩, ⟨"one", .ofIds .globalIds .cell [11]⟩,
        ⟨"two", .ofIds .globalIds .cell [12, 11]⟩, ⟨"kind", .ofValues .cell "kind" (.ints [7])⟩]
      expression := " " }
    let dataset := (Dataset.empty.setGlobalIds .cell (.ofIds [10, 11, 12, 13, 14, 15])).setArray
      .cell (.ofValues (.ints [0, 0, 0, 7, 0, 0]) (some "kind"))
    (s.union other).2.names = ["kept", "node0", "node1"] ∧
      ∃ mask, ((s.union other).2.mask .cell dataset {}).result = .ok mask ∧ mask.length = 6 ∧
        ∀ i : Nat, mask[i]? = some true ↔
          [true, false, false, false, false, false][i]? = some true ∨
            [false, true, true, true, true, false][i]? = some true := by
  intro s other dataset
  have additive : ∀ named ∈ s.nodes ++ other.nodes, named.value.Additive := by
    have upright : ∀ named ∈ s.nodes ++ other.nodes, named.value.properties.inverse = false := by
      decide
    have whole : ∀ named ∈ s.nodes ++ other.nodes, ∀ array ∈ named.value.arrays,
        array.components ∣ array.data.size := by decide
    exact fun named member => ⟨upright named member, whole named member⟩
  have distinct : s.names.Nodup ∧ other.names.Nodup := by decide
  have merged : (s.union other).1 = .ok () := by decide
  refine ⟨by decide, mask_union s other _ .cell dataset {} rfl distinct.1 distinct.2 (by decide)
    (by decide) (fun named member => additive named (List.mem_append_left _ member))
    (fun named member => additive named (List.mem_append_right _ member)) _ _ ?_ ?_
    (Prod.ext merged rfl)⟩
  · decide
  · decide

end Selection

end SelectionAlgebra
