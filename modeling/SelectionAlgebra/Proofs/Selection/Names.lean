import SelectionAlgebra.Selection.Basic

/-!
The names of a selection's nodes. Which names are given to added nodes depends on the names at hand
and on nothing else.
-/

namespace SelectionAlgebra.Selection

def names (s : Selection) : List String :=
  s.nodes.map Named.name

theorem contains_eq (s : Selection) (name : String) :
    s.contains name = s.names.contains name := by
  rw [Bool.eq_iff_iff]
  simp [contains, names]

theorem not_contains_iff (s : Selection) (name : String) :
    (!s.contains name) = true ↔ name ∉ s.names := by
  simp [contains_eq]

def freshName (names : List String) : String :=
  (((List.range (names.length + 1)).map nodeName).find? fun name => !names.contains name).getD ""

theorem unusedName_eq (s : Selection) : s.unusedName = freshName s.names := by
  have count : s.names.length = s.nodeCount := List.length_map ..
  simp only [unusedName, freshName, contains_eq, count]

def freshNames (names : List String) : Nat → List String
  | 0 => []
  | count + 1 => freshName names :: freshNames (names ++ [freshName names]) count

theorem length_freshNames (names : List String) (count : Nat) :
    (freshNames names count).length = count := by
  induction count generalizing names with
  | zero => rfl
  | succ count ih => rw [freshNames, List.length_cons, ih]

theorem names_addNode (s : Selection) (node : Node) :
    (s.addNode node).names = s.names ++ [freshName s.names] := by
  rw [← unusedName_eq]
  simp only [names, addNode, List.map_append, List.map_cons, List.map_nil]

theorem foldl_addNode (added : List Node) (s : Selection) :
    added.foldl addNode s =
      { s with
        nodes := s.nodes ++ List.zipWith Named.mk (freshNames s.names added.length) added } := by
  induction added generalizing s with
  | nil => simp only [List.foldl_nil, List.zipWith_nil_right, List.append_nil]
  | cons node rest ih =>
    rw [List.foldl_cons, ih, names_addNode, List.length_cons, freshNames, List.zipWith_cons_cons]
    simp only [addNode, unusedName_eq, List.append_assoc, List.singleton_append]

end SelectionAlgebra.Selection
