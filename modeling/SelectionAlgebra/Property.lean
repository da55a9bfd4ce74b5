import SelectionAlgebra.Double.Layout
import SelectionAlgebra.Keyed
import SelectionAlgebra.Text.Quoted

/-!
Qualifiers of a criterion. There is a fixed set of known ones, and a way to carry others along. A
criterion holds at most one qualifier of each kind.
-/

namespace SelectionAlgebra

inductive ExtensionValue where
  | int (value : Int64)
  | double (value : Double)
  | text (value : String)
deriving DecidableEq, BEq

def ExtensionValue.display : ExtensionValue → String
  | int value => toString value.toInt
  | double value => value.display
  | text value => Text.quoted value

inductive Property where
  | epsilon (value : Double)
  | containingCells (value : Bool)
  | inverse (value : Bool)
  | componentNumber (value : Int32)
  | processId (value : Int32)
  | compositeIndex (value : UInt32)
  | hierarchicalLevel (value : UInt32)
  | hierarchicalIndex (value : UInt32)
  | connectedLayers (value : UInt32)
  | connectedLayersRemoveSeed (value : Bool)
  | connectedLayersRemoveIntermediateLayers (value : Bool)
  | pixelCount (value : UInt64)
  | assemblyName (value : String)
  | selectors (paths : List String)
  | extension (key : String) (value : ExtensionValue)
deriving DecidableEq, BEq

inductive PropertyKey where
  | epsilon
  | containingCells
  | inverse
  | componentNumber
  | processId
  | compositeIndex
  | hierarchicalLevel
  | hierarchicalIndex
  | connectedLayers
  | connectedLayersRemoveSeed
  | connectedLayersRemoveIntermediateLayers
  | pixelCount
  | assemblyName
  | selectors
  | extension (key : String)
deriving DecidableEq

namespace PropertyKey

/-- Place of the kind in the order of kinds. All extensions share the last place. -/
def rank : PropertyKey → Nat
  | epsilon => 0
  | containingCells => 1
  | inverse => 2
  | componentNumber => 3
  | processId => 4
  | compositeIndex => 5
  | hierarchicalLevel => 6
  | hierarchicalIndex => 7
  | connectedLayers => 8
  | connectedLayersRemoveSeed => 9
  | connectedLayersRemoveIntermediateLayers => 10
  | pixelCount => 11
  | assemblyName => 12
  | selectors => 13
  | extension _ => 14

def label : PropertyKey → String
  | extension key => key
  | _ => ""

instance : LT PropertyKey where
  lt k l := k.rank < l.rank ∨ (k.rank = l.rank ∧ k.label < l.label)

instance : DecidableLT PropertyKey := fun k l =>
  inferInstanceAs (Decidable (k.rank < l.rank ∨ (k.rank = l.rank ∧ k.label < l.label)))

theorem eq_of_rank_label {k l : PropertyKey} (rank : k.rank = l.rank) (label : k.label = l.label) :
    k = l := by
  cases k <;> cases l <;> simp_all [PropertyKey.rank, PropertyKey.label]

instance : KeyOrder PropertyKey where
  irrefl := by
    rintro k (h | ⟨-, h⟩)
    · exact Nat.lt_irrefl _ h
    · exact String.lt_irrefl _ h
  trans := by
    rintro k l m (hkl | ⟨hkl, kl⟩) (hlm | ⟨hlm, lm⟩)
    · exact .inl (Nat.lt_trans hkl hlm)
    · exact .inl (hlm ▸ hkl)
    · exact .inl (hkl ▸ hlm)
    · exact .inr ⟨hkl.trans hlm, String.lt_trans kl lm⟩
  eq_of_not_lt {k l} notBelow notAbove := by
    have ranks : k.rank = l.rank := by
      have below : ¬ k.rank < l.rank := fun h => notBelow (.inl h)
      have above : ¬ l.rank < k.rank := fun h => notAbove (.inl h)
      omega
    refine eq_of_rank_label ranks (KeyOrder.eq_of_not_lt ?_ ?_)
    · exact fun h => notBelow (.inr ⟨ranks, h⟩)
    · exact fun h => notAbove (.inr ⟨ranks.symm, h⟩)

end PropertyKey

namespace Property

def key : Property → PropertyKey
  | epsilon _ => .epsilon
  | containingCells _ => .containingCells
  | inverse _ => .inverse
  | componentNumber _ => .componentNumber
  | processId _ => .processId
  | compositeIndex _ => .compositeIndex
  | hierarchicalLevel _ => .hierarchicalLevel
  | hierarchicalIndex _ => .hierarchicalIndex
  | connectedLayers _ => .connectedLayers
  | connectedLayersRemoveSeed _ => .connectedLayersRemoveSeed
  | connectedLayersRemoveIntermediateLayers _ => .connectedLayersRemoveIntermediateLayers
  | pixelCount _ => .pixelCount
  | assemblyName _ => .assemblyName
  | selectors _ => .selectors
  | extension key _ => .extension key

def display : Property → String
  | epsilon value => s!"EPSILON: {value.display}"
  | containingCells value => s!"CONTAINING_CELLS: {value}"
  | inverse value => s!"INVERSE: {value}"
  | componentNumber value => s!"COMPONENT_NUMBER: {value.toInt}"
  | processId value => s!"PROCESS_ID: {value.toInt}"
  | compositeIndex value => s!"COMPOSITE_INDEX: {value.toNat}"
  | hierarchicalLevel value => s!"HIERARCHICAL_LEVEL: {value.toNat}"
  | hierarchicalIndex value => s!"HIERARCHICAL_INDEX: {value.toNat}"
  | connectedLayers value => s!"CONNECTED_LAYERS: {value.toNat}"
  | connectedLayersRemoveSeed value => s!"CONNECTED_LAYERS_REMOVE_SEED: {value}"
  | connectedLayersRemoveIntermediateLayers value =>
    s!"CONNECTED_LAYERS_REMOVE_INTERMEDIATE_LAYERS: {value}"
  | pixelCount value => s!"PIXEL_COUNT: {value.toNat}"
  | assemblyName value => s!"ASSEMBLY_NAME: {value}"
  | selectors paths => "SELECTORS: " ++ ", ".intercalate paths
  | extension key value => s!"{key}: {value.display}"

end Property

abbrev Properties := Keyed Property.key

namespace Properties

def isSubset (properties other : Properties) : Bool :=
  properties.entries.all fun p =>
    match other.get? p.key with
    | some q => q == p
    | none => false

def inverse (properties : Properties) : Bool :=
  match properties.get? .inverse with
  | some (.inverse value) => value
  | _ => false

def epsilon? (properties : Properties) : Option Double :=
  match properties.get? .epsilon with
  | some (.epsilon value) => some value
  | _ => none

def componentNumber? (properties : Properties) : Option Int32 :=
  match properties.get? .componentNumber with
  | some (.componentNumber value) => some value
  | _ => none

end Properties

end SelectionAlgebra
