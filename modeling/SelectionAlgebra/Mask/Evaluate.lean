import SelectionAlgebra.Expr.Compiled
import SelectionAlgebra.Mask.Basic

/-!
Evaluation of compiled expressions. Masks are combined as whole columns; element `i` of the result
depends on the elements `i` of the masks alone.
-/

namespace SelectionAlgebra

def Expr.column (leaf : String → List Bool) : Expr → List Bool
  | .name n => leaf n
  | .not e => (e.column leaf).map (!·)
  | .and l r => List.zipWith (· && ·) (l.column leaf) (r.column leaf)
  | .or l r => List.zipWith (· || ·) (l.column leaf) (r.column leaf)
  | .xor l r => List.zipWith (· ^^ ·) (l.column leaf) (r.column leaf)

namespace MaskSet

variable {α : Type} [MaskElement α]

/-- The mask under a name, read as selected or not; nothing is selected without a mask. -/
def column (masks : MaskSet α) (length : Nat) (name : String) : List Bool :=
  match masks.get? name with
  | some mask => mask.map MaskElement.isSet
  | none => List.replicate length false

def anyColumn (masks : MaskSet α) (length : Nat) : List Bool :=
  masks.entries.foldl
    (fun column entry => List.zipWith (· || ·) column (entry.value.map MaskElement.isSet))
    (List.replicate length false)

def missingName? (masks : MaskSet α) (compiled : Compiled) : Option String :=
  compiled.names.entries.find? fun name => !masks.contains name

end MaskSet

/-- Evaluate a compiled expression. Every name it needs must have a mask, and all masks must be of
one length, those it does not mention included. -/
def Compiled.evaluate {α : Type} [MaskElement α] (compiled : Compiled) (masks : MaskSet α) :
    Except EvalError (List Bool) :=
  match masks.missingName? compiled with
  | some name => .error (.unknownName name)
  | none =>
    match masks.commonLength with
    | .error e => .error e
    | .ok length =>
      match compiled.meaning with
      | .anyMask => .ok (masks.anyColumn length)
      | .tree e => .ok (e.column (masks.column length))

end SelectionAlgebra
