import SelectionAlgebra.Property
import SelectionAlgebra.Stored.Data

/-!
The stored form of qualifiers.
-/

namespace SelectionAlgebra

open Json

def Json.Reader.wrap {α β : Type} (make : α → β) (read : Reader α) : Reader β := fun cs =>
  (read cs).map fun (a, rest) => (make a, rest)

namespace ExtensionValue

def stored : ExtensionValue → Value
  | int value => .tagged "Int" (.int value.toInt)
  | double value => .tagged "Double" (.double value)
  | text value => .tagged "Text" (.string value)

def read : Reader ExtensionValue :=
  readVariant (fun _ => none) fun name =>
    match name with
    | "Int" => some (.wrap int readInt64)
    | "Double" => some (.wrap double readDouble)
    | "Text" => some (.wrap text readString)
    | _ => none

end ExtensionValue

namespace Property

def stored : Property → Value
  | epsilon value => .tagged "Epsilon" (.double value)
  | containingCells value => .tagged "ContainingCells" (.bool value)
  | inverse value => .tagged "Inverse" (.bool value)
  | componentNumber value => .tagged "ComponentNumber" (.int value.toInt)
  | processId value => .tagged "ProcessId" (.int value.toInt)
  | compositeIndex value => .tagged "CompositeIndex" (.int value.toNat)
  | hierarchicalLevel value => .tagged "HierarchicalLevel" (.int value.toNat)
  | hierarchicalIndex value => .tagged "HierarchicalIndex" (.int value.toNat)
  | connectedLayers value => .tagged "ConnectedLayers" (.int value.toNat)
  | connectedLayersRemoveSeed value => .tagged "ConnectedLayersRemoveSeed" (.bool value)
  | connectedLayersRemoveIntermediateLayers value =>
    .tagged "ConnectedLayersRemoveIntermediateLayers" (.bool value)
  | pixelCount value => .tagged "PixelCount" (.int value.toNat)
  | assemblyName value => .tagged "AssemblyName" (.string value)
  | selectors paths => .tagged "Selectors" (.strings paths)
  | extension key value =>
    .tagged "Extension" (.object [("key", .string key), ("value", value.stored)])

structure Draft where
  key : Option String := none
  value : Option ExtensionValue := none

def Draft.complete (draft : Draft) : Option Property := do
  let key ← draft.key
  let value ← draft.value
  return extension key value

def extensionFields : List (RecordField Draft) :=
  [.of "key" readString Draft.key fun draft key => { draft with key },
    .of "value" ExtensionValue.read Draft.value fun draft value => { draft with value }]

def readValue? (name : String) : Option (Reader Property) :=
  match name with
  | "Epsilon" => some (.wrap epsilon readDouble)
  | "ContainingCells" => some (.wrap containingCells readBool)
  | "Inverse" => some (.wrap inverse readBool)
  | "ComponentNumber" => some (.wrap componentNumber readInt32)
  | "ProcessId" => some (.wrap processId readInt32)
  | "CompositeIndex" => some (.wrap compositeIndex readUInt32)
  | "HierarchicalLevel" => some (.wrap hierarchicalLevel readUInt32)
  | "HierarchicalIndex" => some (.wrap hierarchicalIndex readUInt32)
  | "ConnectedLayers" => some (.wrap connectedLayers readUInt32)
  | "ConnectedLayersRemoveSeed" => some (.wrap connectedLayersRemoveSeed readBool)
  | "ConnectedLayersRemoveIntermediateLayers" =>
    some (.wrap connectedLayersRemoveIntermediateLayers readBool)
  | "PixelCount" => some (.wrap pixelCount readUInt64)
  | "AssemblyName" => some (.wrap assemblyName readString)
  | "Selectors" => some (.wrap selectors (readList readString))
  | "Extension" => some (readRecord extensionFields {} Draft.complete)
  | _ => none

def read : Reader Property :=
  readVariant (fun _ => none) readValue?

end Property

namespace Properties

def stored (properties : Properties) : Value :=
  .array (properties.entries.map Property.stored)

/-- Of several qualifiers of one kind the last one stays. -/
def read : Reader Properties :=
  .wrap Keyed.ofList (readList Property.read)

end Properties

end SelectionAlgebra
