import SelectionAlgebra.Error

/-!
Settings of resolution and conversion, and what they report besides their results.
-/

namespace SelectionAlgebra

structure ConvertOptions where
  /-- Go on with an empty result when the dataset lacks an array. -/
  allowMissingArray : Bool := false
  /-- Do not report that this happened. -/
  quiet : Bool := false
  /-- The arrays whose values a conversion lists. -/
  arrayNames : List String := []
  /-- How near a location an entity has to be, unless the node says so. -/
  locationEpsilon : Double := .ofRatio false 1 1000000
deriving DecidableEq, Inhabited

inductive Warning where
  | emptyConversion (source target : Content) (cause : SelectionError)
  | emptyNode (cause : SelectionError)
deriving DecidableEq

def Warning.parts : Warning → List (String × String)
  | emptyConversion source target cause =>
    [("message", "conversion produced an empty selection"), ("from", source.name),
      ("to", target.name), ("error", cause.message)]
  | emptyNode cause => [("message", "node selects nothing"), ("error", cause.message)]

structure Outcome (α : Type) where
  result : Except SelectionError α
  warnings : List Warning := []

namespace Outcome

variable {α β : Type}

instance : Monad Outcome where
  pure a := ⟨.ok a, []⟩
  bind o f :=
    match o.result with
    | .error e => ⟨.error e, o.warnings⟩
    | .ok a => ⟨(f a).result, o.warnings ++ (f a).warnings⟩

def ofExcept (result : Except SelectionError α) : Outcome α := ⟨result, []⟩

def forgive (options : ConvertOptions) (substitute : α) (report : SelectionError → Warning)
    (result : Except SelectionError α) : Outcome α :=
  match result with
  | .ok a => ⟨.ok a, []⟩
  | .error e =>
    if e.isMissingArray && options.allowMissingArray then
      ⟨.ok substitute, if options.quiet then [] else [report e]⟩
    else ⟨.error e, []⟩

end Outcome

end SelectionAlgebra
