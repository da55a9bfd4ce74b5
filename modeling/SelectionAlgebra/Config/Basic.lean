import SelectionAlgebra.Double.Layout
import SelectionAlgebra.Resolve.Options

/-!
Settings for evaluation and conversion.
-/

namespace SelectionAlgebra

structure EvalSettings where
  /-- Shorter masks are evaluated in one piece. -/
  parallelMinLength : UInt64 := 65536
  /-- Length of a piece. -/
  chunkLength : UInt64 := 8192
deriving DecidableEq, BEq, Inhabited

structure ConvertSettings where
  allowMissingArray : Bool := false
  quiet : Bool := false
  locationEpsilon : Double := .ofRatio false 1 1000000
deriving DecidableEq, BEq, Inhabited

structure Config where
  eval : EvalSettings := {}
  convert : ConvertSettings := {}
deriving DecidableEq, BEq, Inhabited

inductive ConfigError where
  | emptyChunks
  | badEpsilon (epsilon : Double)
deriving DecidableEq

def ConfigError.message : ConfigError → String
  | emptyChunks => "Invalid configuration: eval.chunk_len must be positive"
  | badEpsilon epsilon =>
    "Invalid configuration: convert.location_epsilon must be finite and non-negative, got "
      ++ epsilon.display

namespace Config

def validate (config : Config) : Except ConfigError Unit :=
  let epsilon := config.convert.locationEpsilon
  if config.eval.chunkLength = 0 then .error .emptyChunks
  else if !epsilon.isFinite || epsilon.lt .zero then .error (.badEpsilon epsilon)
  else .ok ()

/-- The options of a conversion under these settings; which arrays it lists is not settled here. -/
def convertOptions (config : Config) : ConvertOptions where
  allowMissingArray := config.convert.allowMissingArray
  quiet := config.convert.quiet
  locationEpsilon := config.convert.locationEpsilon

end Config

end SelectionAlgebra
