import SelectionAlgebra.Proofs.Node.Difference
import SelectionAlgebra.Proofs.Node.Union
import SelectionAlgebra.Proofs.Property

/-!
Which nodes match. It is a matter of their kinds, of the whole bags of qualifiers and, where names
count, of the names of the arrays; so matching is symmetric and transitive, and the nodes that match
themselves are those whose qualifiers hold no NaN. Unions and differences change the values of the
lists only, and therefore no match.
-/

namespace SelectionAlgebra

theorem Content.comparesNames_iff (content : Content) :
    content.comparesNames = true ↔ content ∈ [.values, .pedigreeIds, .thresholds] := by
  cases content <;> decide

namespace Node

theorem agreesWith_iff (node other : Node) :
    node.agreesWith other = true ↔
      node.content = other.content ∧ node.entity = other.entity ∧
        node.properties.isSubset other.properties = true ∧
        (node.content.comparesNames = true →
          node.arrays.map TupleArray.name = other.arrays.map TupleArray.name) := by
  simp only [agreesWith, Bool.and_eq_true, beq_iff_eq, Bool.or_eq_true, Bool.not_eq_true',
    ← Bool.not_eq_true, ← imp_iff_not_or, and_assoc]

theorem agreesWith_trans {first second third : Node} (lower : first.agreesWith second = true)
    (upper : second.agreesWith third = true) : first.agreesWith third = true := by
  rw [agreesWith_iff] at lower upper ⊢
  obtain ⟨content, entity, subset, names⟩ := lower
  obtain ⟨contentToo, entityToo, subsetToo, namesToo⟩ := upper
  refine ⟨content.trans contentToo, entity.trans entityToo,
    Properties.isSubset_trans subset subsetToo, ?_⟩
  intro compared
  exact (names compared).trans (namesToo (content ▸ compared))

theorem matchesNode_iff_agreesWith (node other : Node) :
    node.matchesNode other = true ↔
      node.agreesWith other = true ∧ other.agreesWith node = true := by
  rw [matchesNode, Bool.and_eq_true]

theorem matchesNode_iff (node other : Node) :
    node.matchesNode other = true ↔
      node.content = other.content ∧ node.entity = other.entity ∧
        node.properties.Agree other.properties ∧
        (node.content.comparesNames = true →
          node.arrays.map TupleArray.name = other.arrays.map TupleArray.name) := by
  rw [matchesNode_iff_agreesWith, agreesWith_iff, agreesWith_iff, ← Properties.isSubset_both_iff]
  constructor
  · rintro ⟨⟨content, entity, subset, names⟩, -, -, superset, -⟩
    exact ⟨content, entity, ⟨subset, superset⟩, names⟩
  · rintro ⟨content, entity, ⟨subset, superset⟩, names⟩
    refine ⟨⟨content, entity, subset, names⟩, content.symm, entity.symm, superset, ?_⟩
    intro compared
    exact (names (content ▸ compared)).symm

theorem matchesNode_comm (node other : Node) : node.matchesNode other = other.matchesNode node :=
  Bool.and_comm ..

theorem matchesNode_trans {first second third : Node} (lower : first.matchesNode second = true)
    (upper : second.matchesNode third = true) : first.matchesNode third = true := by
  rw [matchesNode_iff_agreesWith] at lower upper ⊢
  exact ⟨agreesWith_trans lower.1 upper.1, agreesWith_trans upper.2 lower.2⟩

theorem matchesNode_self_iff (node : Node) :
    node.matchesNode node = true ↔ ∀ p ∈ node.properties.entries, p.holdsNaN = false := by
  rw [matchesNode_iff_agreesWith, and_self, agreesWith_iff, ← Properties.isSubset_self_iff]
  simp

/-! ## Nodes that are worked on -/

inductive Reworked (node : Node) : Node → Prop where
  | start : Reworked node node
  | union {reworked : Node} (other : Node) :
      Reworked node reworked → Reworked node (reworked.union other).2
  | subtract {reworked : Node} (other : Node) :
      Reworked node reworked → Reworked node (reworked.subtract other).2

theorem Reworked.shape_eq {node reworked : Node} (run : node.Reworked reworked) :
    reworked.shape = node.shape := by
  induction run with
  | start => rfl
  | union other _ ih => exact (shape_union _ other).trans ih
  | subtract other _ ih => exact (shape_subtract _ other).trans ih

/-- Matching is decided by the kinds, the qualifiers and the names that count. It is a partial
equivalence, and each side of it is transitive by itself. No union and no difference, successful or
not, changes what any two nodes are to each other. -/
theorem matchesNode_exact (a b c : Node) :
    (a.matchesNode b = true ↔
      a.content = b.content ∧ a.entity = b.entity ∧ a.properties.Agree b.properties ∧
        (a.content ∈ [.values, .pedigreeIds, .thresholds] →
          a.arrays.map TupleArray.name = b.arrays.map TupleArray.name)) ∧
    a.matchesNode b = b.matchesNode a ∧
    (a.matchesNode b = true → b.matchesNode c = true → a.matchesNode c = true) ∧
    (a.matchesNode a = true ↔ ∀ p ∈ a.properties.entries, p.holdsNaN = false) ∧
    (a.agreesWith b = true → b.agreesWith c = true → a.agreesWith c = true) ∧
    (a.matchesNode b = true ↔ a.agreesWith b = true ∧ b.agreesWith a = true) ∧
    ∀ a' b', a.Reworked a' → b.Reworked b' →
      a'.agreesWith b' = a.agreesWith b ∧ a'.matchesNode b' = a.matchesNode b := by
  refine ⟨?_, matchesNode_comm a b, matchesNode_trans, matchesNode_self_iff a, agreesWith_trans,
    matchesNode_iff_agreesWith a b, ?_⟩
  · rw [← Content.comparesNames_iff]
    exact matchesNode_iff a b
  · intro a' b' first second
    have agrees := agreesWith_congr first.shape_eq second.shape_eq
    refine ⟨agrees, ?_⟩
    rw [matchesNode, matchesNode, agrees, agreesWith_congr second.shape_eq first.shape_eq]

end Node

end SelectionAlgebra
