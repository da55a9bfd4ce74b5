import SelectionAlgebra.Proofs.Node.Shape
import SelectionAlgebra.Selection.Merge

/-!
Outlines: the names and shapes of a selection's nodes. Which nodes match another one, and whether
that can be worked on together with them, is a matter of the outline.
-/

namespace SelectionAlgebra.Selection

def outline (nodes : List NamedNode) : List (String × NodeShape) :=
  nodes.map fun named => (named.name, named.value.shape)

section

variable {base nodes : List NamedNode} (same : outline base = outline nodes)
include same

theorem names_of_outline : base.map Named.name = nodes.map Named.name := by
  have names := congrArg (List.map Prod.fst) same
  rwa [outline, outline, List.map_map, List.map_map] at names

theorem shapes_of_outline :
    List.Forall₂ (fun merged original => merged.value.shape = original.value.shape) base nodes :=
  (map_eq_map_iff_forall₂.mp same).imp fun _ _ heads => congrArg Prod.snd heads

theorem findIdx?_of_outline (node : Node) :
    (base.findIdx? fun named => named.value.matchesNode node) =
      nodes.findIdx? fun named => named.value.matchesNode node := by
  have twins := shapes_of_outline same
  clear same
  induction twins with
  | nil => rfl
  | cons shapes _ ih => simp only [List.findIdx?_cons, Node.matchesNode_congr shapes, ih]

theorem shape_of_outline {i : Nat} {merged original : NamedNode} (now : base[i]? = some merged)
    (before : nodes[i]? = some original) : merged.value.shape = original.value.shape := by
  have entries := congrArg (fun entries => entries[i]?) same
  simp only [outline, List.getElem?_map, now, before, Option.map_some] at entries
  exact congrArg Prod.snd (Option.some.inj entries)

end

end SelectionAlgebra.Selection
