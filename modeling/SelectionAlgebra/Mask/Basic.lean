import SelectionAlgebra.Named

/-!
Named masks. A mask has one element per entity; a set of masks keeps them in the order in which
their names first came.
-/

namespace SelectionAlgebra

class MaskElement (α : Type) where
  isSet : α → Bool

instance : MaskElement Bool := ⟨id⟩

instance : MaskElement Int8 := ⟨fun v => v != 0⟩

instance : MaskElement UInt8 := ⟨fun v => v != 0⟩

inductive EvalError where
  | unknownName (name : String)
  | lengthMismatch (name : String) (expected actual : Nat)
deriving DecidableEq

def EvalError.message : EvalError → String
  | unknownName name => s!"Expression references unknown name: {name}"
  | lengthMismatch name expected actual =>
    s!"Mask '{name}' has length {actual}, expected {expected}"

structure MaskSet (α : Type) where
  entries : List (Named (List α))
  distinct : (entries.map Named.name).Nodup

namespace MaskSet

variable {α : Type}

def empty : MaskSet α := ⟨[], .nil⟩

def insert (masks : MaskSet α) (name : String) (mask : List α) : MaskSet α :=
  ⟨Named.place name mask masks.entries, Named.nodup_names_place name mask masks.distinct⟩

def ofList (entries : List (Named (List α))) : MaskSet α :=
  entries.foldl (fun masks entry => masks.insert entry.name entry.value) empty

def get? (masks : MaskSet α) (name : String) : Option (List α) :=
  Named.find? masks.entries name

theorem get?_insert (masks : MaskSet α) (name : String) (mask : List α) (n : String) :
    (masks.insert name mask).get? n = if name = n then some mask else masks.get? n :=
  Named.find?_place name mask masks.entries n

def contains (masks : MaskSet α) (name : String) : Bool :=
  (masks.get? name).isSome

def names (masks : MaskSet α) : List String :=
  masks.entries.map Named.name

def size (masks : MaskSet α) : Nat :=
  masks.entries.length

def commonLength (masks : MaskSet α) : Except EvalError Nat :=
  match masks.entries with
  | [] => .ok 0
  | first :: rest =>
    let length := first.value.length
    match rest.find? fun entry => entry.value.length != length with
    | some entry => .error (.lengthMismatch entry.name length entry.value.length)
    | none => .ok length

end MaskSet

def selectedCount (mask : List Bool) : Nat :=
  mask.count true

def selectedIndices (mask : List Bool) : List Nat :=
  (mask.zipIdx.filter (·.1)).map (·.2)

/-- The mask of so many elements that selects the ones at the given positions. -/
def maskOf (size : Nat) (positions : List Nat) : List Bool :=
  positions.foldl (fun mask i => mask.set i true) (List.replicate size false)

def invertMask (mask : List Bool) : List Bool :=
  mask.map (!·)

end SelectionAlgebra
