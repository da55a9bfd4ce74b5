import Mathlib.Data.List.Nodup
import Mathlib.Order.Bounds.Basic
import Mathlib.Order.MinMax
import SelectionAlgebra.Dataset
import SelectionAlgebra.Proofs.History

/-!
Datasets that are put together from parts. For each kind of entity there is a place for every kind
of part, and for arrays a place under every name and one without: a dataset answers with the part
that was put last in a place.
-/

namespace SelectionAlgebra

inductive Part where
  | count (count : Nat)
  | array (array : TupleArray)
  | globalIds (ids : TupleArray)
  | pedigreeIds (ids : TupleArray)
  | positions (positions : List Point)
deriving DecidableEq

inductive Slot where
  | count
  | array (name : Option String)
  | globalIds
  | pedigreeIds
  | positions
deriving DecidableEq

namespace Part

def slot : Part → Slot
  | count _ => .count
  | array a => .array a.name
  | globalIds _ => .globalIds
  | pedigreeIds _ => .pedigreeIds
  | positions _ => .positions

def size : Part → Nat
  | count n => n
  | array a | globalIds a | pedigreeIds a => a.tupleCount
  | positions points => points.length

end Part

structure Supply where
  entity : Entity
  part : Part
deriving DecidableEq

/-! ## Tables -/

namespace Table

def put (table : Table) : Part → Table
  | .count count => { table with count? := some count }
  | .array array => table.setArray array
  | .globalIds ids => { table with globalIds? := some ids }
  | .pedigreeIds ids => { table with pedigreeIds? := some ids }
  | .positions positions => { table with positions? := some positions }

def Holds (table : Table) : Part → Prop
  | .count count => table.count? = some count
  | .array array => array ∈ table.arrays
  | .globalIds ids => table.globalIds? = some ids
  | .pedigreeIds ids => table.pedigreeIds? = some ids
  | .positions positions => table.positions? = some positions

theorem mem_arrays_setArray (table : Table) (array other : TupleArray) :
    other ∈ (table.setArray array).arrays ↔
      array.name = other.name ∧ array = other ∨ array.name ≠ other.name ∧ other ∈ table.arrays := by
  simp only [setArray, List.mem_append, List.mem_filter, bne_iff_ne, List.mem_singleton]
  constructor
  · rintro (⟨member, different⟩ | rfl)
    · exact .inr ⟨different.symm, member⟩
    · exact .inl ⟨rfl, rfl⟩
  · rintro (⟨-, rfl⟩ | ⟨different, member⟩)
    · exact .inr rfl
    · exact .inl ⟨member, different.symm⟩

theorem holds_put (table : Table) (part other : Part) :
    (table.put part).Holds other ↔
      part.slot = other.slot ∧ part = other ∨ part.slot ≠ other.slot ∧ table.Holds other := by
  cases part <;> cases other
  case array.array array other =>
    simpa [put, Holds, Part.slot] using mem_arrays_setArray table array other
  all_goals simp [put, Holds, setArray, Part.slot]

/-- There is at most one array under each name, and at most one without a name. -/
def Distinct (table : Table) : Prop :=
  (table.arrays.map TupleArray.name).Nodup

theorem distinct_setArray {table : Table} (distinct : table.Distinct) (array : TupleArray) :
    (table.setArray array).Distinct := by
  have kept := (List.filter_sublist (p := fun a => a.name != array.name) (l := table.arrays)).map
    TupleArray.name
  rw [Distinct, setArray, List.map_append, List.nodup_append]
  refine ⟨distinct.sublist kept, List.pairwise_singleton _ _, ?_⟩
  intro name among other new
  obtain ⟨a, member, rfl⟩ := List.mem_map.mp among
  rw [List.mem_singleton.mp new]
  exact bne_iff_ne.mp (List.mem_filter.mp member).2

theorem distinct_put {table : Table} (distinct : table.Distinct) (part : Part) :
    (table.put part).Distinct := by
  cases part
  case array array => exact distinct_setArray distinct array
  all_goals exact distinct

theorem array?_eq_some_iff {table : Table} (distinct : table.Distinct) (name : String)
    (array : TupleArray) :
    table.array? name = some array ↔ array.name = some name ∧ array ∈ table.arrays := by
  rw [array?]
  constructor
  · intro found
    exact ⟨by simpa using List.find?_some found, List.mem_of_find?_eq_some found⟩
  · rintro ⟨named, member⟩
    cases found : table.arrays.find? fun a => a.name = some name with
    | none => exact absurd (decide_eq_true named) (List.find?_eq_none.mp found array member)
    | some other =>
      have namedToo : other.name = some name := by simpa using List.find?_some found
      have same := List.inj_on_of_nodup_map distinct (List.mem_of_find?_eq_some found) member
        (namedToo.trans named.symm)
      rw [same]

theorem isGreatest_foldl_max (sizes : List Nat) (start : Nat) :
    IsGreatest (insert start {n | n ∈ sizes}) (sizes.foldl max start) := by
  induction sizes generalizing start with
  | nil => simp
  | cons n sizes ih =>
    obtain ⟨reached, bound⟩ := ih (max start n)
    constructor
    · rcases reached with reached | reached
      · rw [List.foldl_cons, reached]
        rcases max_choice start n with h | h <;> rw [h]
        · exact .inl rfl
        · exact .inr List.mem_cons_self
      · exact .inr (List.mem_cons_of_mem _ reached)
    · have largest : max start n ≤ sizes.foldl max (max start n) := bound (Set.mem_insert _ _)
      rintro size (rfl | member)
      · exact (le_max_left _ _).trans largest
      · rcases List.mem_cons.mp member with rfl | member
        · exact (le_max_right _ _).trans largest
        · exact bound (.inr member)

theorem mem_sizes_iff {table : Table} (uncounted : table.count? = none) (size : Nat) :
    size ∈ table.sizes ↔ ∃ part, table.Holds part ∧ part.size = size := by
  simp only [sizes, List.mem_append, List.mem_map, Option.mem_toList, Option.map_eq_some_iff]
  constructor
  · rintro (⟨array, (held | held) | held, rfl⟩ | ⟨positions, held, rfl⟩)
    · exact ⟨.array array, held, rfl⟩
    · exact ⟨.globalIds array, held, rfl⟩
    · exact ⟨.pedigreeIds array, held, rfl⟩
    · exact ⟨.positions positions, held, rfl⟩
  · rintro ⟨part, held, rfl⟩
    cases part with
    | count count => cases uncounted.symm.trans held
    | array array => exact .inl ⟨array, .inl (.inl held), rfl⟩
    | globalIds ids => exact .inl ⟨ids, .inl (.inr held), rfl⟩
    | pedigreeIds ids => exact .inl ⟨ids, .inr held, rfl⟩
    | positions positions => exact .inr ⟨positions, held, rfl⟩

theorem isGreatest_size {table : Table} (uncounted : table.count? = none) :
    IsGreatest (insert 0 {n | ∃ part, table.Holds part ∧ part.size = n}) table.size := by
  have greatest := isGreatest_foldl_max table.sizes 0
  simp only [mem_sizes_iff uncounted] at greatest
  rwa [size, uncounted, Option.getD_none]

end Table

/-! ## Datasets -/

namespace Dataset

def supply (dataset : Dataset) (supply : Supply) : Dataset :=
  match supply.part with
  | .count count => dataset.setCount supply.entity count
  | .array array => dataset.setArray supply.entity array
  | .globalIds ids => dataset.setGlobalIds supply.entity ids
  | .pedigreeIds ids => dataset.setPedigreeIds supply.entity ids
  | .positions positions => dataset.setPositions supply.entity positions

def ofSupplies (supplies : List Supply) : Dataset :=
  supplies.foldl supply empty

theorem table_supply (dataset : Dataset) (supply : Supply) (entity : Entity) :
    (dataset.supply supply).table entity =
      if supply.entity = entity then (dataset.table entity).put supply.part
      else dataset.table entity := by
  obtain ⟨supplied, part⟩ := supply
  simp only [eq_comm (a := supplied)]
  cases part <;> rfl

theorem ofSupplies_concat (supplies : List Supply) (last : Supply) :
    ofSupplies (supplies ++ [last]) = (ofSupplies supplies).supply last :=
  List.foldl_append ..

theorem table_ofSupplies_filter (supplies : List Supply) (entity : Entity) :
    (ofSupplies supplies).table entity =
      (ofSupplies (supplies.filter fun supply => supply.entity = entity)).table entity := by
  induction supplies using List.reverseRecOn with
  | nil => rfl
  | append_singleton supplies last ih =>
    rw [ofSupplies_concat, table_supply, ih, List.filter_append]
    by_cases same : last.entity = entity
    · rw [if_pos same, List.filter_cons_of_pos (by simpa using same), List.filter_nil,
        ofSupplies_concat, table_supply, if_pos same]
    · rw [if_neg same, List.filter_cons_of_neg (by simpa using same), List.filter_nil,
        List.append_nil]

theorem distinct_ofSupplies (supplies : List Supply) (entity : Entity) :
    ((ofSupplies supplies).table entity).Distinct := by
  induction supplies using List.reverseRecOn with
  | nil => exact List.nodup_nil
  | append_singleton supplies last ih =>
    rw [ofSupplies_concat, table_supply]
    split
    · exact Table.distinct_put ih last.part
    · exact ih

end Dataset

/-- Of what was supplied about the kind of entity, the part is the last for its place. -/
def Stands (supplies : List Supply) (entity : Entity) (part : Part) : Prop :=
  Lasts (fun supply => supply.entity = entity ∧ supply.part.slot = part.slot)
    (fun supply => supply.part = part) supplies

namespace Dataset

theorem holds_supply (dataset : Dataset) (supply : Supply) (entity : Entity) (part : Part) :
    ((dataset.supply supply).table entity).Holds part ↔
      (supply.entity = entity ∧ supply.part.slot = part.slot) ∧ supply.part = part ∨
        ¬ (supply.entity = entity ∧ supply.part.slot = part.slot) ∧
          (dataset.table entity).Holds part := by
  rw [table_supply]
  by_cases same : supply.entity = entity
  · rw [if_pos same, Table.holds_put]
    simp only [same, true_and, ne_eq]
  · rw [if_neg same]
    simp only [same, false_and, not_false_iff, true_and, false_or]

theorem holds_ofSupplies (supplies : List Supply) (entity : Entity) (part : Part) :
    ((ofSupplies supplies).table entity).Holds part ↔ Stands supplies entity part := by
  have bare : ¬ (empty.table entity).Holds part := by
    cases part <;> simp [empty, Table.Holds]
  exact Lasts.foldl_iff (fun dataset : Dataset => (dataset.table entity).Holds part)
    (fun dataset supply => holds_supply dataset supply entity part) bare supplies

structure Answers (dataset : Dataset) (entity : Entity) (stands : Part → Prop) : Prop where
  array (name : String) (array : TupleArray) :
    dataset.array? entity name = some array ↔ array.name = some name ∧ stands (.array array)
  globalIds (ids : TupleArray) :
    dataset.globalIds? entity = some ids ↔ stands (.globalIds ids)
  pedigreeIds (ids : TupleArray) :
    dataset.pedigreeIds? entity = some ids ↔ stands (.pedigreeIds ids)
  positions (positions : List Point) :
    dataset.positions? entity = some positions ↔ stands (.positions positions)
  counted (count : Nat) : stands (.count count) → dataset.size entity = count
  inferred : (∀ count, ¬ stands (.count count)) →
    IsGreatest (insert 0 {n | ∃ part, stands part ∧ part.size = n}) (dataset.size entity)

theorem answers_ofSupplies (supplies : List Supply) (entity : Entity) :
    (ofSupplies supplies).Answers entity (Stands supplies entity) := by
  have held := holds_ofSupplies supplies entity
  have distinct := distinct_ofSupplies supplies entity
  generalize Stands supplies entity = stands at held
  generalize ofSupplies supplies = dataset at held distinct
  exact {
    array := fun name array => by
      rw [← held]
      exact Table.array?_eq_some_iff distinct name array
    globalIds := fun ids => held (.globalIds ids)
    pedigreeIds := fun ids => held (.pedigreeIds ids)
    positions := fun positions => held (.positions positions)
    counted := fun count stands => by
      have counted : (dataset.table entity).count? = some count := (held (.count count)).mpr stands
      rw [size, Table.size, counted, Option.getD_some]
    inferred := fun uncounted => by
      have none : (dataset.table entity).count? = none :=
        Option.eq_none_iff_forall_ne_some.mpr fun count counted =>
          uncounted count ((held (.count count)).mp counted)
      have greatest := Table.isGreatest_size none
      simp only [held] at greatest
      exact greatest }

structure Alike (dataset other : Dataset) : Prop where
  size (entity : Entity) : dataset.size entity = other.size entity
  array (entity : Entity) (name : String) : dataset.array? entity name = other.array? entity name
  globalIds (entity : Entity) : dataset.globalIds? entity = other.globalIds? entity
  pedigreeIds (entity : Entity) : dataset.pedigreeIds? entity = other.pedigreeIds? entity
  positions (entity : Entity) : dataset.positions? entity = other.positions? entity

theorem alike_of_stands {supplies others : List Supply}
    (same : ∀ entity part, Stands supplies entity part ↔ Stands others entity part) :
    (ofSupplies supplies).Alike (ofSupplies others) := by
  have answers entity := answers_ofSupplies supplies entity
  have answersToo entity : (ofSupplies others).Answers entity (Stands supplies entity) := by
    have parts : Stands supplies entity = Stands others entity := funext fun part =>
      propext (same entity part)
    exact parts ▸ answers_ofSupplies others entity
  exact {
    size := fun entity => by
      by_cases counted : ∃ count, Stands supplies entity (.count count)
      · obtain ⟨count, stands⟩ := counted
        rw [(answers entity).counted count stands, (answersToo entity).counted count stands]
      · have uncounted := not_exists.mp counted
        exact ((answers entity).inferred uncounted).unique ((answersToo entity).inferred uncounted)
    array := fun entity name => Option.ext fun array => by
      rw [(answers entity).array, (answersToo entity).array]
    globalIds := fun entity => Option.ext fun ids => by
      rw [(answers entity).globalIds, (answersToo entity).globalIds]
    pedigreeIds := fun entity => Option.ext fun ids => by
      rw [(answers entity).pedigreeIds, (answersToo entity).pedigreeIds]
    positions := fun entity => Option.ext fun positions => by
      rw [(answers entity).positions, (answersToo entity).positions] }

/-- A dataset that is supplied part by part answers, for each kind of entity, by the last part for
each place. The stated number of entities goes before the sizes of the parts, wherever it was
supplied; an array that was replaced counts no more, and one without a name counts but is not found.
What is supplied about one kind of entity does not reach the others, and supplies for different
places may change places. -/
theorem ofSupplies_answers (supplies : List Supply) (entity : Entity) :
    (ofSupplies supplies).Answers entity (Stands supplies entity) ∧
    (((ofSupplies supplies).table entity).Distinct ∧
      ∀ array, array ∈ ((ofSupplies supplies).table entity).arrays ↔
        Stands supplies entity (.array array)) ∧
    ((ofSupplies supplies).table entity =
        (ofSupplies (supplies.filter fun supply => supply.entity = entity)).table entity ∧
      ((∀ supply ∈ supplies, supply.entity ≠ entity) → (ofSupplies supplies).size entity = 0)) ∧
    ∀ before one two after, supplies = before ++ one :: two :: after →
      ¬ (one.entity = two.entity ∧ one.part.slot = two.part.slot) →
      (ofSupplies supplies).Alike (ofSupplies (before ++ two :: one :: after)) := by
  refine ⟨answers_ofSupplies supplies entity, ⟨distinct_ofSupplies supplies entity, fun array =>
    holds_ofSupplies supplies entity (.array array)⟩, ⟨table_ofSupplies_filter supplies entity,
    ?_⟩, ?_⟩
  · intro untouched
    have none : (supplies.filter fun supply => supply.entity = entity) = [] :=
      List.filter_eq_nil_iff.mpr fun supply member => by simpa using untouched supply member
    rw [size, table_ofSupplies_filter, none]
    rfl
  · rintro before one two after rfl apart
    refine alike_of_stands fun entity part => Lasts.swap ?_ before after
    rintro ⟨⟨entityOne, slotOne⟩, entityTwo, slotTwo⟩
    exact apart ⟨entityOne.trans entityTwo.symm, slotOne.trans slotTwo.symm⟩

/-- The array of three values is replaced and counts no more, the one without a name counts, and a
number that was stated goes before the sizes of what comes later. -/
theorem ofSupplies_answers_replaced :
    let long : TupleArray := .ofValues (.ints [1, 2, 3]) (some "kind")
    let short : TupleArray := .ofValues (.ints [9]) (some "kind")
    let bare : TupleArray := .ofValues (.ints [5, 6]) none
    let supplies : List Supply := [⟨.point, .count 7⟩, ⟨.cell, .array long⟩, ⟨.cell, .array bare⟩,
      ⟨.point, .array long⟩, ⟨.cell, .array short⟩]
    (ofSupplies supplies).array? .cell "kind" = some short ∧
      (ofSupplies supplies).array? .point "kind" = some long ∧
      (ofSupplies supplies).size .cell = 2 ∧ (ofSupplies supplies).size .point = 7 := by
  intro long short bare supplies
  have cells := (ofSupplies_answers supplies .cell).1
  have points := (ofSupplies_answers supplies .point).1
  have last : Stands supplies .cell (.array short) :=
    ⟨supplies.dropLast, _, [], rfl, ⟨rfl, rfl⟩, rfl, List.forall_mem_nil _⟩
  have untouched : Stands supplies .point (.array long) :=
    ⟨supplies.take 3, _, supplies.drop 4, rfl, ⟨rfl, rfl⟩, rfl, by decide⟩
  have stated : Stands supplies .point (.count 7) :=
    ⟨[], _, supplies.tail, rfl, ⟨rfl, rfl⟩, rfl, by decide⟩
  exact ⟨(cells.array "kind" short).mpr ⟨rfl, last⟩,
    (points.array "kind" long).mpr ⟨rfl, untouched⟩, by decide, points.counted 7 stated⟩

end Dataset

end SelectionAlgebra
