import SelectionAlgebra.Proofs.Convert.Gather
import SelectionAlgebra.Proofs.Resolve.Labels

/-!
Conversion keeps the selected entities. As a list of positions it keeps them exactly; as a list of
ids it keeps them up to entities that share an id with a selected one.
-/

namespace SelectionAlgebra.Node

variable {node : Node} {dataset : Dataset} {options : ConvertOptions} {found : List Nat}

/-! ## Converted nodes -/

theorem get?_carriedProperties (node : Node) {key : PropertyKey}
    (dropped : key = .inverse ∨ key = .epsilon ∨ key = .componentNumber) :
    node.carriedProperties.get? key = none := by
  apply List.find?_eq_none.mpr
  intro p member
  have carried := (List.mem_filter.mp member).2
  rcases dropped with rfl | rfl | rfl <;> cases p <;> simp [Property.key] at carried ⊢

theorem inverse_carriedProperties (node : Node) : node.carriedProperties.inverse = false := by
  rw [Properties.inverse, get?_carriedProperties node (by simp)]

theorem isConverted_iff {target : Content} (unnamed : target ≠ .values) :
    node.isConverted target options = true ↔
      node.content = target ∧ node.properties.inverse = false := by
  simp [isConverted, unnamed]

theorem convertStrict_eq_ok_iff {target : Content} {converted : Node} :
    node.convertStrict target dataset options = .ok converted ↔
      ∃ found, node.resolve dataset options = .ok found ∧
        ∃ arrays, node.listArrays target found dataset options = .ok arrays ∧
          { node.convertedBare target with arrays } = converted := by
  simp only [convertStrict, bind_eq_ok_iff, pure, Except.pure, Except.ok.injEq]

theorem convert_of_isConverted {target : Content}
    (same : node.isConverted target options = true) :
    node.convert target dataset options = pure node := by
  rw [convert, if_pos same]

theorem of_convert {target : Content} {converted : Node}
    (other : node.isConverted target options = false)
    (converts : (node.convert target dataset options).result = .ok converted) :
    node.convertStrict target dataset options = .ok converted ∨
      ∃ e, node.convertStrict target dataset options = .error e ∧
        (e.isMissingArray && options.allowMissingArray) = true ∧
        converted = node.convertedBare target := by
  rw [convert, other, if_neg Bool.false_ne_true, Outcome.result_forgive] at converts
  cases strict : node.convertStrict target dataset options with
  | ok made =>
    rw [strict] at converts
    exact .inl converts
  | error e =>
    simp only [strict] at converts
    split at converts
    · rename_i forgiven
      exact .inr ⟨e, rfl, forgiven, (Except.ok.inj converts).symm⟩
    · cases converts

theorem convert_eq_ok {target : Content} {converted : Node}
    (converts : (node.convert target dataset options).result = .ok converted) :
    converted = node ∨ node.convertStrict target dataset options = .ok converted ∨
      ∃ e, node.convertStrict target dataset options = .error e ∧
        (e.isMissingArray && options.allowMissingArray) = true ∧
        converted = node.convertedBare target := by
  cases same : node.isConverted target options with
  | true =>
    rw [convert_of_isConverted same] at converts
    exact .inl (Except.ok.inj converts).symm
  | false => exact .inr (of_convert same converts)

structure Restates (converted node : Node) (target : Content) : Prop where
  content : converted.content = target
  entity : converted.entity = node.entity
  upright : converted.properties.inverse = false

theorem restates_convertedBare (node : Node) (target : Content) (arrays : List TupleArray) :
    ({ node.convertedBare target with arrays } : Node).Restates node target where
  content := rfl
  entity := rfl
  upright := node.inverse_carriedProperties

theorem restates_of_isConverted {target : Content}
    (same : node.isConverted target options = true) : node.Restates node target := by
  simp only [isConverted, Bool.and_eq_true, beq_iff_eq, Bool.not_eq_true'] at same
  exact ⟨same.1.1, rfl, same.1.2⟩

theorem restates_of_convert {target : Content} {converted : Node}
    (converts : (node.convert target dataset options).result = .ok converted) :
    converted.Restates node target := by
  cases same : node.isConverted target options with
  | true =>
    rw [convert_of_isConverted same] at converts
    cases converts
    exact restates_of_isConverted same
  | false =>
    rcases of_convert same converts with strict | ⟨_, -, -, rfl⟩
    · obtain ⟨_, -, arrays, -, rfl⟩ := convertStrict_eq_ok_iff.mp strict
      exact node.restates_convertedBare target arrays
    · exact node.restates_convertedBare target []

theorem exists_convert {target : Content} {arrays : List TupleArray}
    (resolved : node.resolve dataset options = .ok found)
    (listed : node.listArrays target found dataset options = .ok arrays) :
    ∃ converted, node.convert target dataset options = pure converted ∧
      converted.Restates node target ∧ (converted = node ∨ converted.arrays = arrays) := by
  unfold convert
  split
  · rename_i same
    exact ⟨node, rfl, restates_of_isConverted same, .inl rfl⟩
  · rw [convertStrict_eq_ok_iff.mpr ⟨found, resolved, arrays, listed, rfl⟩]
    exact ⟨_, rfl, node.restates_convertedBare target arrays, .inr rfl⟩

/-! ## Lists of positions -/

theorem toInt_of_indexId? {i : Nat} {id : Int64} (counted : indexId? i = some id) :
    id.toInt = i := by
  unfold indexId? at counted
  split at counted
  · rename_i small
    have bound : Int64.maxValue.toInt = 0x7FFFFFFFFFFFFFFF := by decide
    cases counted
    exact Int64.toInt_ofNat_of_lt (by omega)
  · cases counted

theorem exists_indexId? {i : Nat} (small : (i : Int) ≤ Int64.maxValue.toInt) :
    ∃ id, indexId? i = some id := by
  rw [indexId?, if_pos small]
  exact ⟨_, rfl⟩

theorem mem_indexIds {positions : List Nat} {size i : Nat}
    (small : (size : Int) ≤ Int64.maxValue.toInt) (inside : ∀ j ∈ positions, j < size) :
    (∃ id ∈ positions.filterMap indexId?, id.toInt = i) ↔ i ∈ positions := by
  simp only [List.mem_filterMap]
  constructor
  · rintro ⟨id, ⟨j, member, counted⟩, here⟩
    have position : (j : Int) = i := (toInt_of_indexId? counted).symm.trans here
    rwa [← Int.ofNat.inj position]
  · intro member
    have below := inside i member
    obtain ⟨id, counted⟩ : ∃ id, indexId? i = some id := exists_indexId? (by omega)
    exact ⟨id, ⟨i, member, counted⟩, toInt_of_indexId? counted⟩

theorem convert_indices (small : (dataset.size node.entity : Int) ≤ Int64.maxValue.toInt)
    (resolved : node.resolve dataset options = .ok found) :
    ∃ converted, node.convert .indices dataset options = pure converted ∧
      converted.Restates node .indices ∧ converted.resolve dataset options = .ok found := by
  have listed : node.listArrays .indices found dataset options =
      .ok [.ofIds (found.filterMap indexId?)] := rfl
  obtain ⟨converted, passed, restates, same | gathered⟩ := exists_convert resolved listed
  · exact ⟨converted, passed, restates, same ▸ resolved⟩
  · refine ⟨converted, passed, restates, ?_⟩
    obtain ⟨again, resolvedAgain, byPosition⟩ :=
      resolve_indices dataset options restates.upright restates.content
    have ids : converted.listedIds = found.filterMap indexId? := by
      rw [listedIds, gathered]
      exact List.append_nil _
    have inside (j : Nat) (member : j ∈ found) : j < dataset.size node.entity :=
      lt_of_mem_resolve resolved member
    rw [resolvedAgain]
    apply congrArg Except.ok
    apply (ascending_resolve resolvedAgain).eq_of_mem_iff (ascending_resolve resolved)
    intro i
    rw [byPosition, restates.entity, ids, mem_indexIds small inside]
    exact ⟨fun facts => facts.2, fun member => ⟨inside i member, member⟩⟩

/-! ## Lists of ids -/

/-- The node can be expressed in another kind of list, without any report, and the result selects
the entities that share a label with the found ones; those themselves, where the labels tell all
entities apart. -/
def ConvertsBy {κ : Type} (node : Node) (target : Content) (dataset : Dataset)
    (options : ConvertOptions) (found : List Nat) (label : Nat → Option κ) : Prop :=
  ∃ converted, node.convert target dataset options = pure converted ∧
    converted.Restates node target ∧
    ∃ again, converted.resolve dataset options = .ok again ∧ again.Pairwise (· < ·) ∧
      Relabels label (dataset.size node.entity) found again ∧
      (TellsApart label (dataset.size node.entity) → again = found)

theorem convertsBy_of_relabels {κ : Type} {target : Content} {label : Nat → Option κ}
    {converted : Node} {again : List Nat} (resolved : node.resolve dataset options = .ok found)
    (passed : node.convert target dataset options = pure converted)
    (restates : converted.Restates node target)
    (resolvedAgain : converted.resolve dataset options = .ok again)
    (relabels : Relabels label (dataset.size node.entity) found again) :
    node.ConvertsBy target dataset options found label := by
  have ascending := ascending_resolve resolvedAgain
  refine ⟨converted, passed, restates, again, resolvedAgain, ascending, relabels, ?_⟩
  intro apart
  exact apart.eq_of_relabels relabels (fun _ => lt_of_mem_resolve resolved)
    (ascending_resolve resolved) ascending

theorem gatherRequired_eq_ok {entity : Entity} {name : String} {part : Option TupleArray}
    {ids : TupleArray} (present : part = some ids) (single : ids.components = 1)
    (positions : List Nat) :
    (do let ids ← required entity name part
        return [← gatherArray ids positions]) =
      (.ok [{ ids with data := ids.data.gather 1 positions }] :
        Except SelectionError (List TupleArray)) :=
  bind_eq_ok_iff.mpr ⟨ids, (required_eq_ok_iff ..).mpr present,
    bind_eq_ok_iff.mpr ⟨_, gatherArray_single single positions, rfl⟩⟩

theorem convert_globalIds {ids : TupleArray} (present : dataset.globalIds? node.entity = some ids)
    (single : ids.components = 1) (resolved : node.resolve dataset options = .ok found) :
    node.ConvertsBy .globalIds dataset options found ids.data.idAt? := by
  have listed : node.listArrays .globalIds found dataset options =
      .ok [{ ids with data := ids.data.gather 1 found }] :=
    gatherRequired_eq_ok present single found
  obtain ⟨converted, passed, restates, made⟩ := exists_convert resolved listed
  rw [← restates.entity] at present
  obtain ⟨again, resolvedAgain, byLabel⟩ :=
    resolve_globalIds dataset options restates.upright restates.content present single
  rw [restates.entity] at byLabel
  refine convertsBy_of_relabels resolved passed restates resolvedAgain ?_
  rcases made with same | gathered
  · subst same
    cases resolved.symm.trans resolvedAgain
    exact relabels_of_listed byLabel
  -- the new list holds the labels of what was found, short of those beyond the array of ids
  · have gatheredIds : converted.listedIds = found.filterMap ids.data.idAt? := by
      rw [listedIds, gathered, List.flatMap_singleton, Data.listedIds_gather]
    rw [gatheredIds] at byLabel
    exact relabels_of_gathered byLabel

theorem elementType_of_resolve_pedigreeIds (kind : node.content = .pedigreeIds) {ids : TupleArray}
    (present : dataset.pedigreeIds? node.entity = some ids)
    (resolved : node.resolve dataset options = .ok found) :
    ∀ array ∈ node.arrays, array.elementType = ids.elementType := by
  obtain ⟨test, accepted, -⟩ := resolve_eq_ok resolved
  rw [listTest, kind] at accepted
  obtain ⟨other, presentToo, tests, passed, -⟩ := (pedigreeTest_eq_ok_iff ..).mp accepted
  cases present.symm.trans presentToo
  intro array member
  obtain ⟨_, -, tested⟩ := exists_of_mapM_eq_ok passed member
  exact ((valueTest_eq_ok_iff ..).mp tested).1

theorem convert_pedigreeIds {ids : TupleArray}
    (present : dataset.pedigreeIds? node.entity = some ids) (single : ids.components = 1)
    (resolved : node.resolve dataset options = .ok found) :
    node.ConvertsBy .pedigreeIds dataset options found ids.data.keyAt? := by
  have listed : node.listArrays .pedigreeIds found dataset options =
      .ok [{ ids with data := ids.data.gather 1 found }] :=
    gatherRequired_eq_ok present single found
  obtain ⟨converted, passed, restates, made⟩ := exists_convert resolved listed
  have presentToo := present
  rw [← restates.entity] at presentToo
  -- a node that is left as it was resolved before, so its lists are of the type of the ids
  rcases made with same | gathered
  · subst same
    obtain ⟨again, resolvedAgain, byLabel⟩ := resolve_pedigreeIds dataset options
      restates.upright restates.content present single
      (elementType_of_resolve_pedigreeIds restates.content present resolved)
    cases resolved.symm.trans resolvedAgain
    exact convertsBy_of_relabels resolved passed restates resolvedAgain
      (relabels_of_listed byLabel)
  · have typed : ∀ array ∈ converted.arrays, array.elementType = ids.elementType := by
      rw [gathered]
      intro array member
      cases List.mem_singleton.mp member
      exact ids.data.elementType_gather 1 found
    obtain ⟨again, resolvedAgain, byLabel⟩ := resolve_pedigreeIds dataset options
      restates.upright restates.content presentToo single typed
    simp only [gathered, List.mem_singleton, exists_eq_left, Data.keys_gather,
      restates.entity] at byLabel
    exact convertsBy_of_relabels resolved passed restates resolvedAgain
      (relabels_of_gathered byLabel)

/-- What a node selects stays selected when it is converted. Lists of positions select exactly the
same entities, and lists of ids those that share an id with them. The converted node is of the kind
asked for and not inverted. -/
theorem resolve_convert (node : Node) (dataset : Dataset) (options : ConvertOptions)
    (found : List Nat) (resolved : node.resolve dataset options = .ok found) :
    ((dataset.size node.entity : Int) ≤ Int64.maxValue.toInt →
      ∃ converted, node.convert .indices dataset options = pure converted ∧
        converted.Restates node .indices ∧ converted.resolve dataset options = .ok found) ∧
    (∀ ids, dataset.globalIds? node.entity = some ids → ids.components = 1 →
      node.ConvertsBy .globalIds dataset options found ids.data.idAt?) ∧
    (∀ ids, dataset.pedigreeIds? node.entity = some ids → ids.components = 1 →
      node.ConvertsBy .pedigreeIds dataset options found ids.data.keyAt?) :=
  ⟨fun small => convert_indices small resolved,
    fun _ present single => convert_globalIds present single resolved,
    fun _ present single => convert_pedigreeIds present single resolved⟩

/-- All cells but the one of a global id; the remaining cells share theirs. -/
theorem resolve_convert_inverted :
    let node : Node :=
      { Node.ofIds .globalIds .cell [7] with properties := .ofList [.inverse true] }
    let ids : TupleArray := .ofIds [7, 8, 8]
    let dataset := Dataset.empty.setGlobalIds .cell ids
    (∃ converted, node.convert .indices dataset {} = pure converted ∧
      converted.Restates node .indices ∧ converted.resolve dataset {} = .ok [1, 2]) ∧
    node.ConvertsBy .globalIds dataset {} [1, 2] ids.data.idAt? := by
  intro node ids dataset
  have resolved : node.resolve dataset {} = .ok [1, 2] := by decide
  obtain ⟨asPositions, asGlobalIds, -⟩ := resolve_convert node dataset {} [1, 2] resolved
  exact ⟨asPositions (by decide), asGlobalIds ids rfl rfl⟩

end SelectionAlgebra.Node
