import SelectionAlgebra.Config.Basic
import SelectionAlgebra.Json.Reader
import SelectionAlgebra.Json.Value

/-!
Settings as JSON text. What is not said keeps its standard value.
-/

namespace SelectionAlgebra

open Json

namespace EvalSettings

def stored (settings : EvalSettings) : Value :=
  .object [("parallel_min_len", .int settings.parallelMinLength.toNat),
    ("chunk_len", .int settings.chunkLength.toNat)]

structure Draft where
  parallelMinLength : Option UInt64 := none
  chunkLength : Option UInt64 := none

def Draft.complete (draft : Draft) : EvalSettings :=
  let standard : EvalSettings := {}
  ⟨draft.parallelMinLength.getD standard.parallelMinLength,
    draft.chunkLength.getD standard.chunkLength⟩

def fields : List (RecordField Draft) :=
  [.of "parallel_min_len" readUInt64 Draft.parallelMinLength fun draft parallelMinLength =>
      { draft with parallelMinLength },
    .of "chunk_len" readUInt64 Draft.chunkLength fun draft chunkLength =>
      { draft with chunkLength }]

def read : Reader EvalSettings :=
  readRecord fields {} fun draft => some draft.complete

end EvalSettings

namespace ConvertSettings

def stored (settings : ConvertSettings) : Value :=
  .object [("allow_missing_array", .bool settings.allowMissingArray),
    ("quiet", .bool settings.quiet), ("location_epsilon", .double settings.locationEpsilon)]

structure Draft where
  allowMissingArray : Option Bool := none
  quiet : Option Bool := none
  locationEpsilon : Option Double := none

def Draft.complete (draft : Draft) : ConvertSettings :=
  let standard : ConvertSettings := {}
  ⟨draft.allowMissingArray.getD standard.allowMissingArray, draft.quiet.getD standard.quiet,
    draft.locationEpsilon.getD standard.locationEpsilon⟩

def fields : List (RecordField Draft) :=
  [.of "allow_missing_array" readBool Draft.allowMissingArray fun draft allowMissingArray =>
      { draft with allowMissingArray },
    .of "quiet" readBool Draft.quiet fun draft quiet => { draft with quiet },
    .of "location_epsilon" readDouble Draft.locationEpsilon fun draft locationEpsilon =>
      { draft with locationEpsilon }]

def read : Reader ConvertSettings :=
  readRecord fields {} fun draft => some draft.complete

end ConvertSettings

namespace Config

def toJson (config : Config) : String :=
  Value.text (.object [("eval", config.eval.stored), ("convert", config.convert.stored)])

structure Draft where
  eval : Option EvalSettings := none
  convert : Option ConvertSettings := none

def Draft.complete (draft : Draft) : Config :=
  ⟨draft.eval.getD {}, draft.convert.getD {}⟩

def fields : List (RecordField Draft) :=
  [.of "eval" EvalSettings.read Draft.eval fun draft eval => { draft with eval },
    .of "convert" ConvertSettings.read Draft.convert fun draft convert => { draft with convert }]

def ofJson (text : String) : Except Fault Config :=
  readText (readRecord fields {} fun draft => some draft.complete) text

end Config

end SelectionAlgebra
