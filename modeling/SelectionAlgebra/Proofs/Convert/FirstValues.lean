import SelectionAlgebra.Proofs.Convert.Values

/-!
Conversion to lists of values, when the first values tell the entities apart. The tuples are listed
with all their values, but every listed value is looked up among the first ones. So the converted
node selects what the node did, and besides the entities whose first value recurs further on in the
tuple of a selected one.
-/

namespace SelectionAlgebra

namespace TupleArray

structure Identifies (array : TupleArray) (size : Nat) : Prop where
  several : 0 < array.components
  covers : size ≤ array.tupleCount
  distinct : ∀ i < size, ∀ j < size, array.firstKey? i = array.firstKey? j → i = j

/-- The first value of one tuple stands in the other one, but not in its first place. -/
def Recurs (array : TupleArray) (i j : Nat) : Prop :=
  ∃ key, array.firstKey? i = some key ∧
    ∃ k, 0 < k ∧ k < array.components ∧ array.data.keyAt? (j * array.components + k) = some key

theorem not_recurs_of_single {array : TupleArray} (single : array.components = 1) (i j : Nat) :
    ¬ array.Recurs i j := by
  rintro ⟨_, -, k, positive, inside, -⟩
  omega

theorem Identifies.firstWithin_iff {array : TupleArray} {size i j : Nat}
    (identifies : array.Identifies size) (here : i < size) (there : j < size) :
    array.FirstWithin i j ↔ i = j ∨ array.Recurs i j := by
  constructor
  · rintro ⟨key, value, k, inside, within⟩
    cases k with
    | zero => exact .inl (identifies.distinct i here j there (value.trans within.symm))
    | succ k => exact .inr ⟨key, value, k + 1, k.succ_pos, inside, within⟩
  · rintro (rfl | ⟨key, value, k, -, inside, within⟩)
    · exact firstWithin_self identifies.several (here.trans_le identifies.covers)
    · exact ⟨key, value, k, inside, within⟩

end TupleArray

namespace Node

variable {node : Node} {dataset : Dataset} {options : ConvertOptions} {found : List Nat}

/-- In one of the arrays that are read, the first value of the entity recurs further on in the tuple
of another one. -/
def Recurs (node : Node) (dataset : Dataset) (found : List Nat) (i : Nat) : Prop :=
  ∃ present, node.Reads dataset present ∧ ∃ j ∈ found, present.Recurs i j

theorem Reads.eq_of_single {array present source : TupleArray} {name : String}
    (reads : node.Reads dataset present) (only : node.arrays = [array])
    (called : array.name = some name) (there : dataset.array? node.entity name = some source) :
    present = source := by
  obtain ⟨other, member, label, calledToo, thereToo⟩ := reads
  rw [only, List.mem_singleton] at member
  subst member
  cases called.symm.trans calledToo
  exact Option.some.inj (thereToo.symm.trans there)

theorem mem_resolve_of_identifies {arrays : List TupleArray}
    (resolved : node.resolve dataset options = .ok found)
    (gathers : ∀ array ∈ arrays, Gathers node.entity dataset found array) (listed : arrays ≠ [])
    (identified : ∀ present, { node.convertedBare .values with arrays }.Reads dataset present →
      present.Identifies (dataset.size node.entity)) :
    ∃ again, { node.convertedBare .values with arrays }.resolve dataset options = .ok again ∧
      ∀ i, i ∈ again ↔ i ∈ found ∨ i < dataset.size node.entity ∧
        { node.convertedBare .values with arrays }.Recurs dataset found i := by
  obtain ⟨again, resolvedAgain, inside⟩ :=
    mem_resolve_convertedBare (fun present reads => (identified present reads).several) gathers
  refine ⟨again, resolvedAgain, fun i => (inside i).trans ?_⟩
  have below {j : Nat} (member : j ∈ found) : j < dataset.size node.entity :=
    lt_of_mem_resolve resolved member
  constructor
  · rintro ⟨here, present, reads, j, member, -, within⟩
    rcases ((identified present reads).firstWithin_iff here (below member)).mp within
      with rfl | recurs
    · exact .inl member
    · exact .inr ⟨here, present, reads, j, member, recurs⟩
  · rintro (member | ⟨here, present, reads, j, member, recurs⟩)
    · -- any one of the arrays finds the entity
      obtain ⟨array, first⟩ := List.exists_mem_of_ne_nil arrays listed
      obtain ⟨name, present, there, called, -⟩ := gathers array first
      have reads : { node.convertedBare .values with arrays }.Reads dataset present :=
        ⟨array, first, name, called, there⟩
      have identifies := identified present reads
      exact ⟨below member, present, reads, i, member, (below member).trans_le identifies.covers,
        (identifies.firstWithin_iff (below member) (below member)).mpr (.inl rfl)⟩
    · have identifies := identified present reads
      exact ⟨here, present, reads, j, member, (below member).trans_le identifies.covers,
        (identifies.firstWithin_iff here (below member)).mpr (.inr recurs)⟩

/-- A copy selects what the node does; any other conversion adds the entities that recur. -/
theorem mem_resolve_convert_values {converted : Node}
    (resolved : node.resolve dataset options = .ok found)
    (converts : (node.convert .values dataset options).result = .ok converted)
    (listed : converted.arrays ≠ [])
    (identified : ∀ present, converted.Reads dataset present →
      present.Identifies (dataset.size node.entity)) :
    ∃ again, converted.resolve dataset options = .ok again ∧
      ∀ i, i ∈ again ↔ i ∈ found ∨ node.isConverted .values options = false ∧
        i < dataset.size node.entity ∧ converted.Recurs dataset found i := by
  cases same : node.isConverted .values options with
  | true =>
    rw [convert_of_isConverted same] at converts
    cases converts
    exact ⟨found, resolved, by simp⟩
  | false =>
    rcases of_convert same converts with strict | ⟨_, -, -, rfl⟩
    · obtain ⟨positions, resolvedToo, arrays, gathered, rfl⟩ := convertStrict_eq_ok_iff.mp strict
      cases resolved.symm.trans resolvedToo
      simpa using
        mem_resolve_of_identifies resolved (gathers_of_listArrays gathered) listed identified
    · exact absurd rfl listed

/-- Where first values tell the entities apart, conversion to values is exact unless a first value
recurs in the tuple of a selected entity. It never does if the tuples are single values. -/
theorem resolve_convert_values_exact (node : Node) (dataset : Dataset) (options : ConvertOptions)
    (found : List Nat) (converted : Node) (resolved : node.resolve dataset options = .ok found)
    (converts : (node.convert .values dataset options).result = .ok converted)
    (listed : converted.arrays ≠ [])
    (identified : ∀ present, converted.Reads dataset present →
      present.Identifies (dataset.size node.entity)) :
    ∃ again, converted.resolve dataset options = .ok again ∧
      (∀ i, i ∈ again ↔ i ∈ found ∨ node.isConverted .values options = false ∧
        i < dataset.size node.entity ∧ converted.Recurs dataset found i) ∧
      (again = found ↔ node.isConverted .values options = true ∨
        ∀ i < dataset.size node.entity, converted.Recurs dataset found i → i ∈ found) ∧
      ((∀ present, converted.Reads dataset present → present.components = 1) →
        again = found) := by
  obtain ⟨again, resolvedAgain, inside⟩ :=
    mem_resolve_convert_values resolved converts listed identified
  have exact_iff : again = found ↔ node.isConverted .values options = true ∨
      ∀ i < dataset.size node.entity, converted.Recurs dataset found i → i ∈ found := by
    constructor
    · rintro rfl
      rw [or_iff_not_imp_left, Bool.not_eq_true]
      exact fun other i here recurs => (inside i).mpr (.inr ⟨other, here, recurs⟩)
    · intro harmless
      apply (ascending_resolve resolvedAgain).eq_of_mem_iff (ascending_resolve resolved)
      intro i
      rw [inside i, or_iff_left_iff_imp]
      rintro ⟨other, here, recurs⟩
      rcases harmless with same | none
      · exact absurd (same.symm.trans other) Bool.false_ne_true.symm
      · exact none i here recurs
  refine ⟨again, resolvedAgain, inside, exact_iff, ?_⟩
  intro single
  refine exact_iff.mpr (.inr ?_)
  rintro i - ⟨present, reads, j, -, recurs⟩
  exact absurd recurs (TupleArray.not_recurs_of_single (single present reads) i j)

/-- Triples of texts that start differently. An inverted node selects the first and the third entity,
and the second one comes in because its first text is the last one of the third. -/
theorem resolve_convert_values_exact_texts :
    let triples : TupleArray :=
      { name := some "label", components := 3,
        data := .strings ["a", "x", "y", "b", "x", "y", "c", "c", "b", "d", "a", "a"] }
    let dataset := Dataset.empty.setArray .point triples
    let node : Node :=
      { Node.ofValues .point "label" (.strings ["b", "d"]) with
        properties := .ofList [.inverse true] }
    let options : ConvertOptions := { arrayNames := ["label"] }
    let converted : Node :=
      { node.convertedBare .values with
        arrays := [{ triples with data := .strings ["a", "x", "y", "c", "c", "b"] }] }
    node.resolve dataset options = .ok [0, 2] ∧
      (node.convert .values dataset options).result = .ok converted ∧
      ∃ again, converted.resolve dataset options = .ok again ∧ again ≠ [0, 2] ∧ 1 ∈ again := by
  intro triples dataset node options converted
  have resolved : node.resolve dataset options = .ok [0, 2] := by decide
  have converts : (node.convert .values dataset options).result = .ok converted := by decide
  have identified (present : TupleArray) (reads : converted.Reads dataset present) :
      present.Identifies (dataset.size node.entity) := by
    have same : present = triples := reads.eq_of_single rfl rfl (by decide)
    rw [same]
    exact ⟨by decide, by decide, by decide⟩
  have recurs : converted.Recurs dataset [0, 2] 1 :=
    ⟨triples, ⟨_, List.mem_cons_self, "label", rfl, by decide⟩, 2, by decide,
      .text "b", by decide, 2, by decide, by decide, by decide⟩
  obtain ⟨again, resolvedAgain, inside, -⟩ :=
    resolve_convert_values_exact node dataset options [0, 2] converted resolved converts
      (List.cons_ne_nil _ _) identified
  have added : 1 ∈ again := (inside 1).mpr (.inr ⟨by decide, by decide, recurs⟩)
  refine ⟨resolved, converts, again, resolvedAgain, ?_, added⟩
  rintro rfl
  exact absurd added (by decide)

/-- Two pairs that start differently, of which the first ends as the second starts. -/
theorem not_resolve_convert_values_exact_of_pairs :
    ¬ ∀ (node : Node) (dataset : Dataset) (options : ConvertOptions) (found : List Nat)
      (converted : Node), options.allowMissingArray = false →
      node.resolve dataset options = .ok found →
      (node.convert .values dataset options).result = .ok converted → converted.arrays ≠ [] →
      (∀ present, converted.Reads dataset present →
        present.Identifies (dataset.size node.entity)) →
      converted.resolve dataset options = .ok found := by
  intro always
  let pairs : TupleArray := { name := some "pair", components := 2, data := .ints [1, 2, 2, 3] }
  let dataset := Dataset.empty.setArray .cell pairs
  let node := Node.ofIds .indices .cell [0]
  let options : ConvertOptions := { arrayNames := ["pair"] }
  let converted : Node :=
    { node.convertedBare .values with arrays := [{ pairs with data := .ints [1, 2] }] }
  have identified (present : TupleArray) (reads : converted.Reads dataset present) :
      present.Identifies (dataset.size node.entity) := by
    have same : present = pairs := reads.eq_of_single rfl rfl (by decide)
    rw [same]
    exact ⟨by decide, by decide, by decide⟩
  have same : converted.resolve dataset options = .ok [0] :=
    always node dataset options [0] converted rfl (by decide) (by decide) (List.cons_ne_nil _ _)
      identified
  have both : converted.resolve dataset options = .ok [0, 1] := by decide
  cases same.symm.trans both

end Node

end SelectionAlgebra
