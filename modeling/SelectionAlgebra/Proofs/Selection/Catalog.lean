import Mathlib.Data.List.Nodup
import SelectionAlgebra.Proofs.Named
import SelectionAlgebra.Proofs.Selection.Cache
import SelectionAlgebra.Proofs.Selection.Difference
import SelectionAlgebra.Proofs.Selection.Union

/-!
Selections as maps that remember the order in which names came. What is done to a selection, from an
empty one on, is what is done to such a map: nodes are put under names and dropped.
-/

namespace SelectionAlgebra

structure Catalog where
  order : List String := []
  node? : String → Option Node := fun _ => none
  expression : String := ""

namespace Catalog

open Selection (Command Reply)

def entries (c : Catalog) : List NamedNode :=
  c.order.filterMap fun name => (c.node? name).map (Named.mk name)

def put (c : Catalog) (name : String) (node : Node) : Catalog :=
  { c with
    order := if name ∈ c.order then c.order else c.order ++ [name]
    node? := fun n => if name = n then some node else c.node? n }

def drop (c : Catalog) (name : String) : Catalog :=
  { c with
    order := c.order.filter fun n => n != name
    node? := fun n => if name = n then none else c.node? n }

def unionNode (c : Catalog) (node : Node) : Except SelectionError Unit × Catalog :=
  match c.entries.find? fun named => named.value.matchesNode node with
  | some ours => ((ours.value.union node).1, c.put ours.name (ours.value.union node).2)
  | none => (.ok (), c.put (Selection.freshName c.order) node)

def subtractNode (c : Catalog) (node : Node) : Except SelectionError Unit × Catalog :=
  match Selection.checkMatching node c.entries with
  | .ok _ =>
    (.ok (), { c with
      node? := fun n => (c.node? n).map fun ours => (Selection.subtractMatching node ours).2 })
  | .error e => (.error e, c)

def union (other : Selection) : Edit Catalog :=
  Edit.allOrNothing (Edit.each (fun theirs c => unionNode c theirs.value) other.nodes)

def subtract (other : Selection) : Edit Catalog :=
  Edit.allOrNothing (Edit.each (fun theirs c => subtractNode c theirs.value) other.nodes)

def perform : Command → Catalog → Reply × Catalog
  | .addNode node, c =>
    let name := Selection.freshName c.order
    (.named name, c.put name node)
  | .setNode name node, c => (.former (c.node? name), c.put name node)
  | .removeNode name, c => (.former (c.node? name), c.drop name)
  | .removeNodeAt i, c =>
    match c.entries[i]? with
    | some named => (.removed (some named), c.drop named.name)
    | none => (.removed none, c)
  | .removeAllNodes, c => (.done, { expression := c.expression })
  | .clear, _ => (.done, {})
  | .setExpression expression, c => (.done, { c with expression })
  | .compile, c => (.compiled (compile c.expression), c)
  | .union other, c => (.merged (union other c).1, (union other c).2)
  | .unionNode node, c => (.merged (c.unionNode node).1, (c.unionNode node).2)
  | .subtract other, c => (.merged (subtract other c).1, (subtract other c).2)
  | .subtractNode node, c => (.merged (c.subtractNode node).1, (c.subtractNode node).2)
  | .editNode name edit, c =>
    match c.node? name with
    | some ours => (.edited (some (edit ours).1), c.put name (edit ours).2)
    | none => (.edited none, c)

end Catalog

namespace Selection

/-! ## Unused names -/

theorem nodeName_injective : Function.Injective nodeName := by
  intro j k same
  have digits : toString j = toString k := (String.append_right_inj "node").mp same
  have read := congrArg (fun text => Nat.ofDigitChars 10 text.toList 0) digits
  simpa [Nat.toString_eq_ofList_toDigits, Nat.ofDigitChars_ten_toDigits] using read

theorem exists_free_nodeName (names : List String) :
    ∃ k ∈ List.range (names.length + 1), nodeName k ∉ names := by
  by_contra taken
  have candidates : ((List.range (names.length + 1)).map nodeName).Nodup :=
    List.Nodup.map nodeName_injective List.nodup_range
  have among : (List.range (names.length + 1)).map nodeName ⊆ names := by
    intro name member
    obtain ⟨k, tried, rfl⟩ := List.mem_map.mp member
    by_contra free
    exact taken ⟨k, tried, free⟩
  have count := candidates.length_le_of_subset among
  rw [List.length_map, List.length_range] at count
  omega

theorem freshName_spec (names : List String) :
    ∃ k ≤ names.length, freshName names = nodeName k ∧ nodeName k ∉ names ∧
      ∀ j < k, nodeName j ∈ names := by
  unfold freshName
  rw [List.find?_map]
  cases found : (List.range (names.length + 1)).find?
      ((fun name => !names.contains name) ∘ nodeName) with
  | none =>
    obtain ⟨k, tried, free⟩ := exists_free_nodeName names
    have taken := List.find?_eq_none.mp found k tried
    simp [free] at taken
  | some k =>
    obtain ⟨free, tried, least⟩ := List.find?_range_eq_some.mp found
    have inside := List.mem_range.mp tried
    refine ⟨k, by omega, rfl, by simpa using free, ?_⟩
    intro j below
    simpa using least j below

/-! ## Selections as catalogs -/

def Distinct (s : Selection) : Prop :=
  s.names.Nodup

def catalog (s : Selection) : Catalog where
  order := s.names
  node? := s.node?
  expression := s.expression

theorem catalog_setNode (s : Selection) (name : String) (node : Node) :
    (s.setNode name node).catalog = s.catalog.put name node := by
  have order : (s.setNode name node).names = if name ∈ s.names then s.names else s.names ++ [name] :=
    Named.names_place name node s.nodes
  have nodes : (s.setNode name node).node? = fun n => if name = n then some node else s.node? n :=
    funext (node?_setNode s name node)
  simp only [catalog, Catalog.put, order, nodes]
  rfl

theorem addNode_eq (s : Selection) (node : Node) :
    s.addNode node = s.setNode (freshName s.names) node := by
  obtain ⟨k, -, named, free, -⟩ := freshName_spec s.names
  rw [addNode, setNode, unusedName_eq, Named.place_of_not_mem node (named ▸ free)]

section

variable {s : Selection} (distinct : s.Distinct)
include distinct

theorem distinct_setNode (name : String) (node : Node) : (s.setNode name node).Distinct :=
  Named.nodup_names_place name node distinct

theorem entries_catalog : s.catalog.entries = s.nodes :=
  Named.filterMap_find? distinct

theorem names_removeNode (name : String) :
    (s.removeNode name).names = s.names.filter fun n => n != name :=
  Named.names_eraseP distinct name

theorem distinct_removeNode (name : String) : (s.removeNode name).Distinct := by
  rw [Distinct, names_removeNode distinct]
  exact distinct.filter _

theorem catalog_removeNode (name : String) :
    (s.removeNode name).catalog = s.catalog.drop name := by
  have nodes : (s.removeNode name).node? = fun n => if name = n then none else s.node? n :=
    funext (Named.find?_eraseP distinct name)
  simp only [catalog, Catalog.drop, names_removeNode distinct, nodes]
  rfl

theorem removeNodeAt_eq {i : Nat} {named : NamedNode} (present : s.nodes[i]? = some named) :
    s.removeNodeAt i = s.removeNode named.name := by
  obtain ⟨before, after, split, rfl⟩ := exists_split_of_getElem? present
  have fresh := Named.fresh_of_split distinct split
  rw [removeNodeAt, removeNode, split, eraseIdx_split,
    eraseP_split (Named.skipped_of_fresh fresh) (by simp)]

theorem editNodes_element (edit : Edit Node) {before after : List NamedNode} {named : NamedNode}
    (split : s.nodes = before ++ named :: after) :
    s.editNodes (Edit.element (editValue edit) before.length) =
      ((edit named.value).1, s.setNode named.name (edit named.value).2) := by
  have fresh := Named.fresh_of_split distinct split
  rw [editNodes, setNode, split, Edit.element_split, Named.place_split fresh]
  rfl

theorem editNode_eq (name : String) (edit : Edit Node) :
    s.editNode name edit =
      match s.node? name with
      | some ours => (some (edit ours).1, s.setNode name (edit ours).2)
      | none => (none, s) := by
  cases found : s.node? name with
  | some ours =>
    obtain ⟨before, after, split⟩ := Named.exists_split_of_find? found
    have fresh : name ∉ before.map Named.name := Named.fresh_of_split distinct split
    have position : (s.nodes.findIdx? fun named => named.name = name) = some before.length := by
      rw [split]
      exact findIdx?_split (Named.skipped_of_fresh fresh) (by simp)
    simp only [editNode, position, editNodes_element distinct edit split]
  | none =>
    have absent := (Named.find?_eq_none_iff s.nodes name).mp found
    have position : (s.nodes.findIdx? fun named => named.name = name) = none := by
      apply List.findIdx?_eq_none_iff.mpr
      simpa using Named.skipped_of_fresh absent
    simp only [editNode, position]

theorem unionNode_eq (node : Node) :
    s.unionNode node =
      match s.nodes.find? fun named => named.value.matchesNode node with
      | some ours => ((ours.value.union node).1, s.setNode ours.name (ours.value.union node).2)
      | none => (.ok (), s.addNode node) := by
  cases found : s.nodes.find? fun named => named.value.matchesNode node with
  | some ours =>
    obtain ⟨alike, before, after, split, skipped⟩ := List.find?_eq_some_iff_append.mp found
    have position : s.matching? node = some before.length := by
      rw [matching?, split]
      exact findIdx?_split (by simpa using skipped) alike
    rw [unionNode, position]
    exact editNodes_element distinct _ split
  | none =>
    have position : s.matching? node = none := by
      apply List.findIdx?_eq_none_iff.mpr
      simpa using found
    rw [unionNode, position]

end

/-! ## Unions and differences -/

theorem unionNode_corresponds (node : Node) :
    Corresponds catalog Distinct (fun s => s.unionNode node) fun c => c.unionNode node := by
  intro s distinct
  dsimp only
  rw [unionNode_eq distinct, Catalog.unionNode, entries_catalog distinct]
  cases s.nodes.find? fun named => named.value.matchesNode node with
  | some ours =>
    simp only [catalog_setNode]
    exact ⟨distinct_setNode distinct _ _, trivial⟩
  | none =>
    simp only [addNode_eq, catalog_setNode]
    exact ⟨distinct_setNode distinct _ _, rfl⟩

theorem subtractNode_corresponds (node : Node) :
    Corresponds catalog Distinct (fun s => s.subtractNode node) fun c => c.subtractNode node := by
  intro s distinct
  dsimp only
  rw [subtractNode_eq, Catalog.subtractNode, entries_catalog distinct]
  cases checkMatching node s.nodes with
  | error e => exact ⟨distinct, rfl⟩
  | ok _ =>
    have kept (named : NamedNode) :
        lessened node named = ⟨named.name, (subtractMatching node named.value).2⟩ := by
      unfold lessened subtractMatching
      split <;> rfl
    have order : names { s with nodes := s.nodes.map (lessened node) } = s.names := by
      simp [names, kept]
    have nodes : node? { s with nodes := s.nodes.map (lessened node) } =
        fun n => (s.node? n).map fun ours => (subtractMatching node ours).2 :=
      funext (Named.find?_map kept s.nodes)
    constructor
    · rw [Distinct, order]
      exact distinct
    · simp only [catalog, order, nodes]

theorem union_eq_allOrNothing (s other : Selection) :
    s.union other =
      Edit.allOrNothing (Edit.each (fun theirs s => unionNode s theirs.value) other.nodes) s := by
  have start : s.Reaches {} s := by
    refine ⟨s.nodes, rfl, ?_⟩
    simp only [grown, List.zipWith_nil_right, List.append_nil]
  have run := run_reaches other.nodes start
  unfold union planUnion
  cases planned : other.nodes.foldlM (fun plan theirs => UnionPlan.step s plan theirs.value) {} with
  | error e =>
    rw [planned] at run
    exact (Edit.allOrNothing_of_error run).symm
  | ok plan =>
    rw [planned] at run
    obtain ⟨t, sequence, base, merged, rfl⟩ := run
    have same := outline_merges plan.merges merged
    rw [Edit.allOrNothing_of_ok sequence]
    simp only [editNodes, merged, foldl_addNode_grown same]

theorem subtract_eq_allOrNothing (s other : Selection) :
    s.subtract other =
      Edit.allOrNothing (Edit.each (fun theirs s => subtractNode s theirs.value) other.nodes) s := by
  have run := run_subtract other.nodes (rfl : outline s.nodes = outline s.nodes)
  unfold subtract planSubtract
  cases planned : other.nodes.mapM fun theirs => s.planSubtractNode theirs.value with
  | error e =>
    rw [planned] at run
    exact (Edit.allOrNothing_of_error run).symm
  | ok plans =>
    rw [planned] at run
    obtain ⟨nodes, carried, sequence⟩ := run
    rw [Edit.allOrNothing_of_ok sequence]
    simp only [Except.map, editNodes, carried]

theorem union_corresponds (other : Selection) :
    Corresponds catalog Distinct (fun s => s.union other) (Catalog.union other) := by
  have same := funext fun s => union_eq_allOrNothing s other
  rw [same, Catalog.union]
  apply Corresponds.allOrNothing
  apply Corresponds.each
  intro theirs
  exact unionNode_corresponds theirs.value

theorem subtract_corresponds (other : Selection) :
    Corresponds catalog Distinct (fun s => s.subtract other) (Catalog.subtract other) := by
  have same := funext fun s => subtract_eq_allOrNothing s other
  rw [same, Catalog.subtract]
  apply Corresponds.allOrNothing
  apply Corresponds.each
  intro theirs
  exact subtractNode_corresponds theirs.value

/-! ## Steps and runs -/

/-- Compiling is the one command that looks at more than the map, and what it looks at is coherent
with the map. -/
theorem perform_corresponds (command : Command) :
    Corresponds catalog (fun s => s.Distinct ∧ s.Coherent) (perform command)
      (Catalog.perform command) := by
  rintro s ⟨distinct, coherent⟩
  rw [and_assoc, and_left_comm]
  refine ⟨coherent_perform coherent command, ?_⟩
  cases command with
  | addNode node =>
    simp only [perform, Catalog.perform, unusedName_eq, addNode_eq, catalog_setNode]
    exact ⟨distinct_setNode distinct _ _, rfl⟩
  | setNode name node =>
    simp only [perform, Catalog.perform, catalog_setNode]
    exact ⟨distinct_setNode distinct _ _, rfl⟩
  | removeNode name =>
    simp only [perform, Catalog.perform, catalog_removeNode distinct]
    exact ⟨distinct_removeNode distinct _, rfl⟩
  | removeNodeAt i =>
    simp only [perform, Catalog.perform, entries_catalog distinct]
    cases present : s.nodes[i]? with
    | some named =>
      simp only [removeNodeAt_eq distinct present, catalog_removeNode distinct]
      exact ⟨distinct_removeNode distinct _, trivial⟩
    | none =>
      have beyond : s.removeNodeAt i = s := by
        rw [removeNodeAt, List.eraseIdx_of_length_le (List.getElem?_eq_none_iff.mp present)]
      rw [beyond]
      exact ⟨distinct, rfl⟩
  | removeAllNodes => exact ⟨List.nodup_nil, rfl⟩
  | clear => exact ⟨List.nodup_nil, rfl⟩
  | setExpression expression => exact ⟨distinct, rfl⟩
  | compile =>
    simp only [perform, Catalog.perform, compile_eq coherent]
    exact ⟨distinct, rfl⟩
  | union other => exact (union_corresponds other).map Reply.merged s distinct
  | unionNode node => exact (unionNode_corresponds node).map Reply.merged s distinct
  | subtract other => exact (subtract_corresponds other).map Reply.merged s distinct
  | subtractNode node => exact (subtractNode_corresponds node).map Reply.merged s distinct
  | editNode name edit =>
    have looked : s.catalog.node? name = s.node? name := rfl
    simp only [perform, Catalog.perform, editNode_eq distinct, looked]
    cases s.node? name with
    | some ours =>
      simp only [catalog_setNode]
      exact ⟨distinct_setNode distinct _ _, trivial⟩
    | none => exact ⟨distinct, rfl⟩

/-- A selection that anything was done to is a map that remembers the order of its names. Its names
are distinct; an added node comes last, under the first generated name that is free; a node put under
a name that is there takes the place of the one before; and what is removed leaves the others in
their order. -/
theorem run_catalog (commands : List Command) :
    let run := runAll perform commands .empty
    let s := run.2
    s.names.Nodup ∧
      runAll Catalog.perform commands {} = (run.1, s.catalog) ∧
      (∀ node, ∃ k ≤ s.nodeCount, (s.nodeCount < Nat.pow 2 31 → k < Nat.pow 2 31) ∧
        nodeName k ∉ s.names ∧ (∀ j < k, nodeName j ∈ s.names) ∧
        perform (.addNode node) s =
          (.named (nodeName k), { s with nodes := s.nodes ++ [⟨nodeName k, node⟩] })) ∧
      ∀ before named after, s.nodes = before ++ named :: after →
        s.node? named.name = some named.value ∧
        (∀ node, perform (.setNode named.name node) s =
          (.former (some named.value), { s with nodes := before ++ ⟨named.name, node⟩ :: after })) ∧
        perform (.removeNode named.name) s =
          (.former (some named.value), { s with nodes := before ++ after }) ∧
        perform (.removeNodeAt before.length) s =
          (.removed (some named), { s with nodes := before ++ after }) := by
  intro run s
  have start : Distinct .empty ∧ Coherent .empty :=
    ⟨List.nodup_nil, coherent_of_cache_eq_none rfl⟩
  obtain ⟨⟨distinct, -⟩, same⟩ := Corresponds.runAll perform_corresponds commands .empty start
  refine ⟨distinct, same, ?_, ?_⟩
  · intro node
    obtain ⟨k, bound, named, free, least⟩ := freshName_spec s.names
    have count : s.names.length = s.nodeCount := List.length_map ..
    rw [count] at bound
    refine ⟨k, bound, by omega, free, least, ?_⟩
    simp only [perform, addNode, unusedName_eq, named]
  · intro before named after split
    have fresh := Named.fresh_of_split distinct split
    have skipped := Named.skipped_of_fresh fresh
    have found : s.node? named.name = some named.value := by
      rw [node?, Named.find?, split, find?_split skipped (by simp), Option.map_some]
    have present : s.nodes[before.length]? = some named := by simp [split]
    refine ⟨found, ?_, ?_, ?_⟩
    · intro node
      rw [perform, found, setNode, split, Named.place_split fresh]
    · rw [perform, found, removeNode, split, eraseP_split skipped (by simp)]
    · rw [perform, present, removeNodeAt, split, eraseIdx_split]

end Selection

end SelectionAlgebra
