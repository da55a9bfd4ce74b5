import SelectionAlgebra.Geometry.Point
import SelectionAlgebra.TupleArray

/-!
Datasets, as far as selections look at them: for each kind of entity a number of entities, named
arrays, two arrays of ids and positions.
-/

namespace SelectionAlgebra

structure Table where
  count? : Option Nat := none
  arrays : List TupleArray := []
  globalIds? : Option TupleArray := none
  pedigreeIds? : Option TupleArray := none
  positions? : Option (List Point) := none
deriving DecidableEq, Inhabited

namespace Table

def sizes (table : Table) : List Nat :=
  (table.arrays ++ table.globalIds?.toList ++ table.pedigreeIds?.toList).map TupleArray.tupleCount
    ++ (table.positions?.map List.length).toList

/-- Number of entities: as stated, or else the size of the largest part. -/
def size (table : Table) : Nat :=
  table.count?.getD (table.sizes.foldl max 0)

/-- Add an array in the stead of those of its name. -/
def setArray (table : Table) (array : TupleArray) : Table :=
  { table with arrays := (table.arrays.filter fun a => a.name != array.name) ++ [array] }

def array? (table : Table) (name : String) : Option TupleArray :=
  table.arrays.find? fun array => array.name = some name

end Table

structure Dataset where
  table : Entity → Table

namespace Dataset

def empty : Dataset := ⟨fun _ => {}⟩

instance : Inhabited Dataset := ⟨empty⟩

def update (dataset : Dataset) (entity : Entity) (change : Table → Table) : Dataset :=
  ⟨fun e => if e = entity then change (dataset.table e) else dataset.table e⟩

def setCount (dataset : Dataset) (entity : Entity) (count : Nat) : Dataset :=
  dataset.update entity fun table => { table with count? := some count }

def setArray (dataset : Dataset) (entity : Entity) (array : TupleArray) : Dataset :=
  dataset.update entity fun table => table.setArray array

def setGlobalIds (dataset : Dataset) (entity : Entity) (ids : TupleArray) : Dataset :=
  dataset.update entity fun table => { table with globalIds? := some ids }

def setPedigreeIds (dataset : Dataset) (entity : Entity) (ids : TupleArray) : Dataset :=
  dataset.update entity fun table => { table with pedigreeIds? := some ids }

def setPositions (dataset : Dataset) (entity : Entity) (positions : List Point) : Dataset :=
  dataset.update entity fun table => { table with positions? := some positions }

def size (dataset : Dataset) (entity : Entity) : Nat :=
  (dataset.table entity).size

def array? (dataset : Dataset) (entity : Entity) (name : String) : Option TupleArray :=
  (dataset.table entity).array? name

def globalIds? (dataset : Dataset) (entity : Entity) : Option TupleArray :=
  (dataset.table entity).globalIds?

def pedigreeIds? (dataset : Dataset) (entity : Entity) : Option TupleArray :=
  (dataset.table entity).pedigreeIds?

def positions? (dataset : Dataset) (entity : Entity) : Option (List Point) :=
  (dataset.table entity).positions?

def globalIdsName : String := "GlobalIds"

def pedigreeIdsName : String := "PedigreeIds"

def positionsName : String := "Positions"

end Dataset

def required {α : Type} (entity : Entity) (name : String) : Option α → Except SelectionError α
  | some a => .ok a
  | none => .error (.missingArray entity name)

end SelectionAlgebra
