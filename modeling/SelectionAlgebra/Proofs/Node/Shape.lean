import Mathlib.Data.List.Forall2
import SelectionAlgebra.Node.Matching
import SelectionAlgebra.Node.Union

/-!
Shapes: all of a node but the values that its arrays list. Whether nodes match and whether one can
be merged into another is a matter of their shapes, and merging changes no shape.
-/

namespace SelectionAlgebra

structure ArrayShape where
  name : Option String
  components : Nat
  elementType : ElementType

def TupleArray.shape (array : TupleArray) : ArrayShape :=
  ⟨array.name, array.components, array.elementType⟩

structure NodeShape where
  content : Content
  entity : Entity
  arrays : List ArrayShape
  properties : Properties

def Node.shape (node : Node) : NodeShape :=
  ⟨node.content, node.entity, node.arrays.map TupleArray.shape, node.properties⟩

theorem map_eq_map_iff_forall₂ {α β γ : Type} {f : α → γ} {g : β → γ} {as : List α} {bs : List β} :
    as.map f = bs.map g ↔ List.Forall₂ (fun a b => f a = g b) as bs := by
  rw [← List.forall₂_eq_eq_eq, List.forall₂_map_left_iff, List.forall₂_map_right_iff]

theorem Data.elementType_joinWith (join : {α : Type} → [BEq α] → List α → List α → List α)
    (data added : Data) : (data.joinWith join added).elementType = data.elementType := by
  cases data <;> cases added <;> rfl

namespace TupleArray

theorem conflict?_congr {array same : TupleArray} (shapes : array.shape = same.shape)
    (other : TupleArray) : array.conflict? other = same.conflict? other := by
  obtain ⟨-, components, elementType⟩ := ArrayShape.mk.inj shapes
  simp only [conflict?, components, elementType]

theorem shape_absorb (array other : TupleArray) : (array.absorb other).shape = array.shape := by
  unfold absorb
  split <;> simp only [shape, elementType, Data.unite, Data.append, Data.elementType_joinWith]

theorem name_absorb (array other : TupleArray) : (array.absorb other).name = array.name :=
  congrArg ArrayShape.name (shape_absorb array other)

theorem components_absorb (array other : TupleArray) :
    (array.absorb other).components = array.components :=
  congrArg ArrayShape.components (shape_absorb array other)

theorem elementType_absorb (array other : TupleArray) :
    (array.absorb other).elementType = array.elementType :=
  congrArg ArrayShape.elementType (shape_absorb array other)

end TupleArray

namespace Node

theorem names_of_shape {node same : Node} (shapes : node.shape = same.shape) :
    node.arrays.map TupleArray.name = same.arrays.map TupleArray.name := by
  have mapped := congrArg (List.map ArrayShape.name) (congrArg NodeShape.arrays shapes)
  simp only [shape, List.map_map] at mapped
  exact mapped

theorem agreesWith_congr {node same other twin : Node} (shapes : node.shape = same.shape)
    (others : other.shape = twin.shape) : node.agreesWith other = same.agreesWith twin := by
  have names := names_of_shape shapes
  have namesToo := names_of_shape others
  obtain ⟨content, entity, -, properties⟩ := NodeShape.mk.inj shapes
  obtain ⟨contentToo, entityToo, -, propertiesToo⟩ := NodeShape.mk.inj others
  simp only [agreesWith, content, entity, properties, names, contentToo, entityToo,
    propertiesToo, namesToo]

theorem matchesNode_congr {node same : Node} (shapes : node.shape = same.shape) (other : Node) :
    node.matchesNode other = same.matchesNode other := by
  rw [matchesNode, matchesNode, agreesWith_congr shapes rfl, agreesWith_congr rfl shapes]

theorem partnersByName_congr {ours same : List TupleArray}
    (shapes : List.Forall₂ (fun array twin => array.shape = twin.shape) ours same)
    (theirs : List TupleArray) : partnersByName ours theirs = partnersByName same theirs := by
  induction shapes generalizing theirs with
  | nil => rfl
  | @cons array twin _ _ first _ ih =>
    have name : array.name = twin.name := congrArg ArrayShape.name first
    simp only [partnersByName, name, TupleArray.conflict?_congr first, ih]

theorem partnersByPlace_congr {ours same : List TupleArray}
    (shapes : List.Forall₂ (fun array twin => array.shape = twin.shape) ours same)
    (theirs : List TupleArray) : partnersByPlace ours theirs = partnersByPlace same theirs := by
  induction shapes generalizing theirs with
  | nil => rfl
  | cons first _ ih =>
    cases theirs with
    | nil => rfl
    | cons partner theirs => simp only [partnersByPlace, TupleArray.conflict?_congr first, ih]

theorem partners_congr {node same : Node} (shapes : node.shape = same.shape) (other : Node) :
    node.partners other = same.partners other := by
  obtain ⟨content, -, arrays, -⟩ := NodeShape.mk.inj shapes
  have twins := map_eq_map_iff_forall₂.mp arrays
  simp only [partners, content, twins.length_eq, partnersByName_congr twins,
    partnersByPlace_congr twins]

theorem checkUnion_congr {node same : Node} (shapes : node.shape = same.shape) (other : Node) :
    node.checkUnion other = same.checkUnion other := by
  rw [checkUnion, checkUnion, partners_congr shapes]

end Node

end SelectionAlgebra
