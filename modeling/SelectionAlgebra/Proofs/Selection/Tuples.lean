import Mathlib.Logic.Function.Basic
import SelectionAlgebra.Proofs.Node.Tuples
import SelectionAlgebra.Proofs.Selection.Catalog

/-!
What work on nodes and selections keeps of the lists in them. Whatever is united, reduced and moved,
each list has the shapes of one that was there at first, and its arrays hold whole tuples if those
did.
-/

namespace SelectionAlgebra

structure KeptByNodes (p : List TupleArray → Prop) : Prop where
  nil : p []
  union (node other : Node) : p node.arrays → p other.arrays → p (node.union other).2.arrays
  subtract (node other : Node) : p node.arrays → p (node.subtract other).2.arrays

namespace Selection

variable {p : List TupleArray → Prop}

def All (p : List TupleArray → Prop) (s : Selection) : Prop :=
  ∀ named ∈ s.nodes, p named.value.arrays

theorem all_setNode {s : Selection} (all : s.All p) (name : String) {node : Node}
    (fits : p node.arrays) : (s.setNode name node).All p := by
  intro named member
  rcases Named.mem_place member with rfl | member
  · exact fits
  · exact all named member

section

variable (kept : KeptByNodes p)
include kept

theorem all_unionNode {s : Selection} (all : s.All p) {node : Node} (fits : p node.arrays) :
    (s.unionNode node).2.All p := by
  unfold unionNode
  split
  · apply Edit.forall_element _ (fun named : NamedNode => p named.value.arrays) _ _ all
    intro named fitsToo
    exact kept.union named.value node fitsToo fits
  · exact List.forall_mem_append.mpr ⟨all, List.forall_mem_singleton.mpr fits⟩

theorem all_union {s other : Selection} (all : s.All p) (allToo : other.All p) :
    (s.union other).2.All p := by
  rw [union_eq_allOrNothing]
  apply Edit.allOrNothing_holds (All p) all
  apply Edit.each_holds (All p) _ all
  intro theirs member t all
  exact all_unionNode kept all (allToo theirs member)

theorem all_subtractNode {s : Selection} (all : s.All p) (node : Node) :
    (s.subtractNode node).2.All p := by
  rw [subtractNode_eq]
  split
  · refine List.forall_mem_map.mpr fun named member => ?_
    unfold lessened
    split
    · exact kept.subtract named.value node (all named member)
    · exact all named member
  · exact all

theorem all_subtract {s : Selection} (all : s.All p) (other : Selection) :
    (s.subtract other).2.All p := by
  rw [subtract_eq_allOrNothing]
  apply Edit.allOrNothing_holds (All p) all
  apply Edit.each_holds (All p) _ all
  intro theirs _ t all
  exact all_subtractNode kept all theirs.value

end

/-! ## Outlines -/

/-- The nodes of the first selection keep names and shapes, and those that are appended have the
shapes of given nodes. -/
def Grows (added : List Node) (s t : Selection) : Prop :=
  ∃ more, outline t.nodes = outline s.nodes ++ more ∧
    ∀ entry ∈ more, ∃ node ∈ added, entry.2 = node.shape

theorem grows_of_outline {added : List Node} {s t : Selection}
    (same : outline t.nodes = outline s.nodes) : s.Grows added t :=
  ⟨[], by rw [same, List.append_nil], List.forall_mem_nil _⟩

theorem Grows.unionNode {added : List Node} {s t : Selection} (grows : s.Grows added t)
    {node : Node} (member : node ∈ added) : s.Grows added (t.unionNode node).2 := by
  obtain ⟨more, outlined, shaped⟩ := grows
  unfold Selection.unionNode
  split
  · rename_i i _
    exact ⟨more, (outline_carryOut (i, node) t.nodes).trans outlined, shaped⟩
  · refine ⟨more ++ [(t.unusedName, node.shape)], ?_, ?_⟩
    · rw [← List.append_assoc, ← outlined]
      exact List.map_append
    · exact List.forall_mem_append.mpr
        ⟨shaped, List.forall_mem_singleton.mpr ⟨node, member, rfl⟩⟩

theorem grows_unionNode (s : Selection) (node : Node) : s.Grows [node] (s.unionNode node).2 :=
  (grows_of_outline rfl).unionNode (List.mem_singleton_self node)

theorem grows_union (s other : Selection) :
    s.Grows (other.nodes.map Named.value) (s.union other).2 := by
  rw [union_eq_allOrNothing]
  have start : s.Grows (other.nodes.map Named.value) s := grows_of_outline rfl
  apply Edit.allOrNothing_holds _ start
  apply Edit.each_holds _ _ start
  intro theirs member t grows
  exact grows.unionNode (List.mem_map_of_mem member)

theorem outline_subtractNode (s : Selection) (node : Node) :
    outline (s.subtractNode node).2.nodes = outline s.nodes := by
  rw [subtractNode_eq]
  split
  · exact outline_lessened node s.nodes
  · rfl

theorem outline_subtract (s other : Selection) :
    outline (s.subtract other).2.nodes = outline s.nodes := by
  rw [subtract_eq_allOrNothing]
  apply Edit.allOrNothing_holds (fun t : Selection => outline t.nodes = outline s.nodes) rfl
  apply Edit.each_holds (fun t : Selection => outline t.nodes = outline s.nodes) _ rfl
  intro theirs _ t same
  exact (outline_subtractNode t theirs.value).trans same

end Selection

/-! ## Work on nodes and selections -/

structure Workbench where
  nodes : String → Node
  selections : String → Selection

inductive Work where
  | unite (target source : String)
  | reduce (target source : String)
  /-- Give the list of one node to another one, and leave none behind. -/
  | move (target source : String)
  | uniteSelection (target source : String)
  | reduceSelection (target source : String)
  | uniteNode (target source : String)
  | reduceNode (target source : String)
  /-- Put a copy of a node into a selection. -/
  | store (target name source : String)
  /-- Take a copy of a node of a selection. -/
  | fetch (target source name : String)

namespace Workbench

def setNode (bench : Workbench) (name : String) (node : Node) : Workbench :=
  { bench with nodes := Function.update bench.nodes name node }

def setSelection (bench : Workbench) (name : String) (s : Selection) : Workbench :=
  { bench with selections := Function.update bench.selections name s }

def perform : Work → Edit Workbench
  | .unite target source, bench =>
    let united := (bench.nodes target).union (bench.nodes source)
    (united.1, bench.setNode target united.2)
  | .reduce target source, bench =>
    let reduced := (bench.nodes target).subtract (bench.nodes source)
    (reduced.1, bench.setNode target reduced.2)
  | .move target source, bench =>
    let taken := bench.setNode source { bench.nodes source with arrays := [] }
    let arrays := (bench.nodes source).arrays
    (.ok (), taken.setNode target { taken.nodes target with arrays })
  | .uniteSelection target source, bench =>
    let united := (bench.selections target).union (bench.selections source)
    (united.1, bench.setSelection target united.2)
  | .reduceSelection target source, bench =>
    let reduced := (bench.selections target).subtract (bench.selections source)
    (reduced.1, bench.setSelection target reduced.2)
  | .uniteNode target source, bench =>
    let united := (bench.selections target).unionNode (bench.nodes source)
    (united.1, bench.setSelection target united.2)
  | .reduceNode target source, bench =>
    let reduced := (bench.selections target).subtractNode (bench.nodes source)
    (reduced.1, bench.setSelection target reduced.2)
  | .store target name source, bench =>
    (.ok (), bench.setSelection target
      ((bench.selections target).setNode name (bench.nodes source)))
  | .fetch target source name, bench =>
    match (bench.selections source).node? name with
    | some node => (.ok (), bench.setNode target node)
    | none => (.ok (), bench)

def run (works : List Work) (bench : Workbench) : Workbench :=
  (runAll perform works bench).2

def Lists (bench : Workbench) (arrays : List TupleArray) : Prop :=
  (∃ name, (bench.nodes name).arrays = arrays) ∨
    ∃ name, ∃ named ∈ (bench.selections name).nodes, named.value.arrays = arrays

section

variable {p : List TupleArray → Prop}

structure All (p : List TupleArray → Prop) (bench : Workbench) : Prop where
  nodes (name : String) : p (bench.nodes name).arrays
  selections (name : String) : (bench.selections name).All p

theorem all_iff (bench : Workbench) : bench.All p ↔ ∀ arrays, bench.Lists arrays → p arrays := by
  constructor
  · rintro all arrays (⟨name, rfl⟩ | ⟨name, named, member, rfl⟩)
    · exact all.nodes name
    · exact all.selections name named member
  · intro each
    exact ⟨fun name => each _ (.inl ⟨name, rfl⟩),
      fun name named member => each _ (.inr ⟨name, named, member, rfl⟩)⟩

theorem All.setNode {bench : Workbench} (all : bench.All p) (name : String) {node : Node}
    (fits : p node.arrays) : (bench.setNode name node).All p where
  nodes := (Function.forall_update_iff bench.nodes fun _ node => p node.arrays).mpr
    ⟨fits, fun name _ => all.nodes name⟩
  selections := all.selections

theorem All.setSelection {bench : Workbench} (all : bench.All p) (name : String) {s : Selection}
    (fits : s.All p) : (bench.setSelection name s).All p where
  nodes := all.nodes
  selections := (Function.forall_update_iff bench.selections fun _ s => s.All p).mpr
    ⟨fits, fun name _ => all.selections name⟩

theorem All.perform (kept : KeptByNodes p) (work : Work) (bench : Workbench) (all : bench.All p) :
    (perform work bench).2.All p := by
  cases work with
  | unite target source => exact all.setNode _ (kept.union _ _ (all.nodes _) (all.nodes _))
  | reduce target source => exact all.setNode _ (kept.subtract _ _ (all.nodes _))
  | move target source => exact (all.setNode _ kept.nil).setNode _ (all.nodes source)
  | uniteSelection target source =>
    exact all.setSelection _ (Selection.all_union kept (all.selections _) (all.selections _))
  | reduceSelection target source =>
    exact all.setSelection _ (Selection.all_subtract kept (all.selections _) _)
  | uniteNode target source =>
    exact all.setSelection _ (Selection.all_unionNode kept (all.selections _) (all.nodes _))
  | reduceNode target source =>
    exact all.setSelection _ (Selection.all_subtractNode kept (all.selections _) _)
  | store target name source =>
    exact all.setSelection _ (Selection.all_setNode (all.selections _) name (all.nodes _))
  | fetch target source name =>
    rw [Workbench.perform]
    split
    · rename_i node found
      obtain ⟨named, present, rfl⟩ := Option.map_eq_some_iff.mp found
      exact all.setNode _ (all.selections source named (List.mem_of_find?_eq_some present))
    · exact all

theorem All.run (kept : KeptByNodes p) (works : List Work) {bench : Workbench}
    (all : bench.All p) : (bench.run works).All p :=
  runAll_holds (All p) (All.perform kept) works all

end

end Workbench

theorem keptByNodes_wellShaped : KeptByNodes fun arrays => ∀ array ∈ arrays, array.WellShaped where
  nil := List.forall_mem_nil _
  union _ _ := Node.wellShaped_union
  subtract _ _ := Node.wellShaped_subtract

theorem keptByNodes_shapes (known : List ArrayShape → Prop) :
    KeptByNodes fun arrays => arrays = [] ∨ known (arrays.map TupleArray.shape) where
  nil := .inl rfl
  union node other := by
    rintro (none | shapes) -
    · exact .inl (List.map_eq_nil_iff.mp (Node.shapes_union.trans (congrArg _ none)))
    · exact .inr (by rwa [Node.shapes_union])
  subtract node other := by
    rintro (none | shapes)
    · exact .inl (List.map_eq_nil_iff.mp (Node.shapes_subtract.trans (congrArg _ none)))
    · exact .inr (by rwa [Node.shapes_subtract])

end SelectionAlgebra
