import SelectionAlgebra.Config.Basic
import SelectionAlgebra.Toml.Reader

/-!
Settings as TOML text. A table may be given as an array of its fields in order. What is not said
keeps its standard value, and what is not known is passed over.
-/

namespace SelectionAlgebra

open Toml

namespace Toml.Item

def field? (item : Item) (name : String) (place : Nat) : Option (Option Item) :=
  match item with
  | .table _ _ entries | .inline entries => some (entries.lookup name)
  | .array items => some items[place]?
  | .tables elements => some (elements[place]?.map (.table false false))
  | _ => none

def boolean? : Item → Option Bool
  | .boolean value => some value
  | _ => none

def size? : Item → Option UInt64
  | .integer value => if value < 0 then none else some (.ofNat value.toNat)
  | _ => none

def double? : Item → Option Double
  | .float value => some value
  | .integer value => some (.ofInt value)
  | _ => none

def fieldOr? {α : Type} (item : Item) (name : String) (place : Nat) (read : Item → Option α)
    (standard : α) : Option α :=
  match item.field? name place with
  | none => none
  | some none => some standard
  | some (some value) => read value

end Toml.Item

def EvalSettings.ofToml? (item : Item) : Option EvalSettings := do
  let standard : EvalSettings := {}
  let parallelMinLength ←
    item.fieldOr? "parallel_min_len" 0 Item.size? standard.parallelMinLength
  let chunkLength ← item.fieldOr? "chunk_len" 1 Item.size? standard.chunkLength
  return { parallelMinLength, chunkLength }

def ConvertSettings.ofToml? (item : Item) : Option ConvertSettings := do
  let standard : ConvertSettings := {}
  let allowMissingArray ←
    item.fieldOr? "allow_missing_array" 0 Item.boolean? standard.allowMissingArray
  let quiet ← item.fieldOr? "quiet" 1 Item.boolean? standard.quiet
  let locationEpsilon ←
    item.fieldOr? "location_epsilon" 2 Item.double? standard.locationEpsilon
  return { allowMissingArray, quiet, locationEpsilon }

namespace Config

def ofToml? (text : String) : Option Config := do
  let entries ← Toml.read text
  let document := Item.table false false entries
  let eval ← document.fieldOr? "eval" 0 EvalSettings.ofToml? {}
  let convert ← document.fieldOr? "convert" 1 ConvertSettings.ofToml? {}
  return { eval, convert }

/-- The settings as TOML text, unless a number has more than 63 bits. -/
def toToml? (config : Config) : Option String :=
  let small (n : UInt64) : Bool := decide ((n.toNat : Int) ≤ Int64.maxValue.toInt)
  if small config.eval.parallelMinLength && small config.eval.chunkLength then
    some <| String.join <| [
      "[eval]\n",
      s!"parallel_min_len = {config.eval.parallelMinLength.toNat}\n",
      s!"chunk_len = {config.eval.chunkLength.toNat}\n",
      "\n[convert]\n",
      s!"allow_missing_array = {config.convert.allowMissingArray}\n",
      s!"quiet = {config.convert.quiet}\n",
      s!"location_epsilon = {String.ofList (config.convert.locationEpsilon.text .settings)}\n"]
  else none

end Config

end SelectionAlgebra
