import SelectionAlgebra.Proofs.Json.Readers
import SelectionAlgebra.Stored.Selection

/-!
Stored selections. What is stored is read back, part by part, with the order of names, arrays and
values kept; the compiled form of the expression, which is not stored, is gone. A selection with a
double that is not finite is stored too, but what is stored then has the wrong shape. `allDoubles`
lists the doubles of each part.
-/

namespace SelectionAlgebra

open Json

namespace Json

section

variable {α : Type} {read : Reader α} {stored : α → Value}

theorem restores_whole_list {as : List α} (each : ∀ a ∈ as, Restores read (stored a) true a) :
    Restores (readList read) (.array (as.map stored)) true as := by
  have restores : Restores (readList read) (.array (as.map stored)) (as.all fun _ => true) as :=
    restores_list each
  rwa [List.all_eq_true.mpr fun _ _ => rfl] at restores

end

theorem restores_strings (texts : List String) :
    Restores (readList readString) (.strings texts) true texts :=
  restores_whole_list fun text _ => restores_string text

end Json

/-! ## Data and arrays -/

namespace Data

def allDoubles : Data → List Double
  | doubles values => values
  | ids _ | ints _ | strings _ => []

theorem restores (data : Data)
    (readsBack : ∀ x ∈ data.allDoubles, x.isFinite = true → x.ReadsBack) :
    Restores read data.stored (data.allDoubles.all Double.isFinite) data := by
  cases data with
  | ids values =>
    exact restores_tagged rfl rfl ((restores_whole_list fun v _ => restores_int64 v).map ids)
  | ints values =>
    exact restores_tagged rfl rfl ((restores_whole_list fun v _ => restores_int32 v).map ints)
  | doubles values =>
    exact restores_tagged rfl rfl
      ((restores_list fun x member => restores_double x (readsBack x member)).map doubles)
  | strings values =>
    exact restores_tagged rfl rfl ((restores_strings values).map strings)

end Data

namespace TupleArray

theorem restores (array : TupleArray) (counted : array.components < UInt64.size)
    (readsBack : ∀ x ∈ array.data.allDoubles, x.isFinite = true → x.ReadsBack) :
    Restores read array.stored (array.data.allDoubles.all Double.isFinite) array := by
  refine restores_record (.member rfl rfl (restores_name? array.name) <|
    .member rfl rfl (restores_size counted) <|
    .member rfl rfl (array.data.restores readsBack) .done) rfl ?_
  rw [Bool.true_and, Bool.true_and, Bool.and_true]

end TupleArray

/-! ## Qualifiers -/

namespace ExtensionValue

def allDoubles : ExtensionValue → List Double
  | double value => [value]
  | int _ | text _ => []

theorem restores (value : ExtensionValue)
    (readsBack : ∀ x ∈ value.allDoubles, x.isFinite = true → x.ReadsBack) :
    Restores read value.stored (value.allDoubles.all Double.isFinite) value := by
  cases value with
  | int value => exact restores_tagged rfl rfl ((restores_int64 value).map int)
  | double value =>
    have whole : [value].all Double.isFinite = value.isFinite := by simp
    rw [allDoubles, whole]
    exact restores_tagged rfl rfl
      ((restores_double value (readsBack value List.mem_cons_self)).map double)
  | text value => exact restores_tagged rfl rfl ((restores_string value).map text)

end ExtensionValue

namespace Property

def allDoubles : Property → List Double
  | epsilon value => [value]
  | extension _ value => value.allDoubles
  | _ => []

theorem restores (property : Property)
    (readsBack : ∀ x ∈ property.allDoubles, x.isFinite = true → x.ReadsBack) :
    Restores read property.stored (property.allDoubles.all Double.isFinite) property := by
  cases property with
  | epsilon value =>
    have whole : [value].all Double.isFinite = value.isFinite := by simp
    rw [allDoubles, whole]
    exact restores_tagged rfl rfl
      ((restores_double value (readsBack value List.mem_cons_self)).map epsilon)
  | containingCells value => exact restores_tagged rfl rfl ((restores_bool value).map _)
  | inverse value => exact restores_tagged rfl rfl ((restores_bool value).map _)
  | componentNumber value => exact restores_tagged rfl rfl ((restores_int32 value).map _)
  | processId value => exact restores_tagged rfl rfl ((restores_int32 value).map _)
  | compositeIndex value => exact restores_tagged rfl rfl ((restores_uint32 value).map _)
  | hierarchicalLevel value => exact restores_tagged rfl rfl ((restores_uint32 value).map _)
  | hierarchicalIndex value => exact restores_tagged rfl rfl ((restores_uint32 value).map _)
  | connectedLayers value => exact restores_tagged rfl rfl ((restores_uint32 value).map _)
  | connectedLayersRemoveSeed value => exact restores_tagged rfl rfl ((restores_bool value).map _)
  | connectedLayersRemoveIntermediateLayers value =>
    exact restores_tagged rfl rfl ((restores_bool value).map _)
  | pixelCount value => exact restores_tagged rfl rfl ((restores_uint64 value).map _)
  | assemblyName value => exact restores_tagged rfl rfl ((restores_string value).map _)
  | selectors paths => exact restores_tagged rfl rfl ((restores_strings paths).map _)
  | extension key value =>
    refine restores_tagged rfl rfl (restores_record (.member rfl rfl (restores_string key) <|
      .member rfl rfl (value.restores readsBack) .done) rfl ?_)
    rw [Bool.true_and, Bool.and_true]
    rfl

end Property

namespace Properties

def allDoubles (properties : Properties) : List Double :=
  properties.entries.flatMap Property.allDoubles

theorem restores (properties : Properties)
    (readsBack : ∀ x ∈ properties.allDoubles, x.isFinite = true → x.ReadsBack) :
    Restores read properties.stored (properties.allDoubles.all Double.isFinite) properties := by
  have each : ∀ property ∈ properties.entries, Restores Property.read property.stored
      (property.allDoubles.all Double.isFinite) property := fun property member =>
    property.restores fun x inside => readsBack x (List.mem_flatMap_of_mem member inside)
  have restores := (restores_list each).map (Keyed.ofList : List Property → Properties)
  rw [Keyed.ofList_entries, ← List.all_flatMap] at restores
  exact restores

end Properties

/-! ## Nodes -/

theorem Content.restores (content : Content) :
    Restores Content.read (.string content.tag) true content :=
  restores_bare (by cases content <;> rfl)

theorem Entity.restores (entity : Entity) : Restores Entity.read (.string entity.tag) true entity :=
  restores_bare (by cases entity <;> rfl)

namespace Node

def allDoubles (node : Node) : List Double :=
  (node.arrays.flatMap fun array => array.data.allDoubles) ++ node.properties.allDoubles

theorem restores_arrays {arrays : List TupleArray}
    (counted : ∀ array ∈ arrays, array.components < UInt64.size)
    (readsBack : ∀ array ∈ arrays, ∀ x ∈ array.data.allDoubles, x.isFinite = true → x.ReadsBack) :
    Restores readArrays (.object [("arrays", .array (arrays.map TupleArray.stored))])
      (arrays.all fun array => array.data.allDoubles.all Double.isFinite) arrays := by
  have list := restores_list fun array member =>
    TupleArray.restores array (counted array member) (readsBack array member)
  refine restores_record (.member rfl rfl list .done) rfl ?_
  rw [Bool.and_true]

theorem restores (node : Node) (counted : ∀ array ∈ node.arrays, array.components < UInt64.size)
    (readsBack : ∀ x ∈ node.allDoubles, x.isFinite = true → x.ReadsBack) :
    Restores read node.stored (node.allDoubles.all Double.isFinite) node := by
  have arrays := restores_arrays counted fun array member x inside =>
    readsBack x (List.mem_append_left _ (List.mem_flatMap_of_mem member inside))
  have properties := node.properties.restores fun x inside =>
    readsBack x (List.mem_append_right _ inside)
  refine restores_record (.member rfl rfl node.content.restores <|
    .member rfl rfl node.entity.restores <| .member rfl rfl arrays <|
    .member rfl rfl properties .done) rfl ?_
  rw [Bool.true_and, Bool.true_and, Bool.and_true, allDoubles, List.all_append, List.all_flatMap]

end Node

theorem NamedNode.restores (named : NamedNode)
    (counted : ∀ array ∈ named.value.arrays, array.components < UInt64.size)
    (readsBack : ∀ x ∈ named.value.allDoubles, x.isFinite = true → x.ReadsBack) :
    Restores NamedNode.read (NamedNode.stored named)
      (named.value.allDoubles.all Double.isFinite) named := by
  refine restores_record (.member rfl rfl (restores_string named.name) <|
    .member rfl rfl (named.value.restores counted readsBack) .done) rfl ?_
  rw [Bool.true_and, Bool.and_true]

/-! ## Selections -/

namespace Selection

def allDoubles (s : Selection) : List Double :=
  s.nodes.flatMap fun named => named.value.allDoubles

theorem restores (s : Selection)
    (counted : ∀ named ∈ s.nodes, ∀ array ∈ named.value.arrays, array.components < UInt64.size)
    (readsBack : ∀ x ∈ s.allDoubles, x.isFinite = true → x.ReadsBack) :
    Restores read s.stored (s.allDoubles.all Double.isFinite) { s with cache := none } := by
  have nodes := restores_list fun named member =>
    NamedNode.restores named (counted named member) fun x inside =>
      readsBack x (List.mem_flatMap_of_mem member inside)
  refine restores_record (.member rfl rfl nodes <|
    .member rfl rfl (restores_string s.expression) .done) rfl ?_
  rw [Bool.and_self, Bool.and_true, allDoubles, List.all_flatMap]

/-- A selection is stored and read back as it was, its compiled expression aside, if all of its
doubles are finite; otherwise what was stored is refused for its shape. -/
theorem ofJson_toJson (s : Selection)
    (counted : ∀ named ∈ s.nodes, ∀ array ∈ named.value.arrays, array.components < UInt64.size)
    (readsBack : ∀ x ∈ s.allDoubles, x.isFinite = true → x.ReadsBack) :
    ((∀ x ∈ s.allDoubles, x.isFinite = true) →
      ofJson s.toJson = .ok { s with cache := none }) ∧
    ((∃ x ∈ s.allDoubles, x.isFinite = false) → ofJson s.toJson = .error .wrongShape) := by
  have atEnd : Ends [] := fun _ none => by cases none
  have read := (s.restores counted readsBack).reads_append 0 atEnd
  rw [List.append_nil] at read
  have text : s.toJson.toList = s.stored.chars 0 := String.toList_ofList
  constructor
  · intro finite
    rw [ofJson, readText, text, read, List.all_eq_true.mpr finite]
    rfl
  · rintro ⟨x, member, infinite⟩
    have notAll : s.allDoubles.all Double.isFinite = false :=
      List.all_eq_false.mpr ⟨x, member, by rw [infinite]; exact Bool.false_ne_true⟩
    rw [ofJson, readText, text, read, notAll]
    rfl

/-- The reach of locations is one half, or infinite. Names and texts have to be escaped, one array
has no name and another one an empty name. -/
theorem ofJson_toJson_reach :
    let near (reach : Double) : Node := {
      content := .locations
      entity := .point
      arrays := [{ components := 3, data := .doubles [.ofRatio true 1 2, .zero, .zero] },
        { name := some "", components := 0, data := .strings ["\x07"] }]
      properties := .ofList [.epsilon reach, .extension "k" (.int (-1))] }
    let s (reach : Double) : Selection := {
      nodes := [⟨"\"é\n", near reach⟩, ⟨"b", .ofIds .indices .cell [-3, 4]⟩]
      expression := "b"
      cache := some (.ofMeaning "b" .anyMask) }
    ofJson (s (.ofRatio false 1 2)).toJson = .ok { s (.ofRatio false 1 2) with cache := none } ∧
      ofJson (s .infinity).toJson = .error .wrongShape := by
  intro near s
  have counted (reach : Double) : ∀ named ∈ (s reach).nodes, ∀ array ∈ named.value.arrays,
      array.components < UInt64.size := by
    have widths : ∀ named ∈ (s .zero).nodes, ∀ array ∈ named.value.arrays,
        array.components < UInt64.size := by decide
    simpa [s, near] using widths
  have doubles (reach : Double) :
      (s reach).allDoubles = [.ofRatio true 1 2, .zero, .zero, reach] := rfl
  have zero : Double.zero.ReadsBack := ⟨.double .zero, by decide +kernel, rfl⟩
  have half : (Double.ofRatio false 1 2).ReadsBack := ⟨.double _, by decide +kernel, rfl⟩
  have minusHalf : (Double.ofRatio true 1 2).ReadsBack := ⟨.double _, by decide +kernel, rfl⟩
  have readsBack (reach : Double) (known : reach.isFinite = true → reach.ReadsBack) :
      ∀ x ∈ (s reach).allDoubles, x.isFinite = true → x.ReadsBack := by
    simpa [doubles, zero, minusHalf] using known
  constructor
  · refine (ofJson_toJson _ (counted _) (readsBack _ fun _ => half)).1 ?_
    rw [doubles]
    decide
  · refine (ofJson_toJson _ (counted _) (readsBack _ fun finite => ?_)).2 ?_
    · cases finite
    · rw [doubles]
      decide

end Selection

end SelectionAlgebra
