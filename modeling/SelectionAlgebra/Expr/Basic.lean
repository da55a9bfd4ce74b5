import SelectionAlgebra.Keyed

/-!
Boolean expressions over names. A name stands for a mask, and an expression combines the masks
element by element.
-/

namespace SelectionAlgebra

abbrev NameSet := Keyed (fun name : String => name)

inductive Expr where
  | name (name : String)
  | not (operand : Expr)
  | and (left right : Expr)
  | or (left right : Expr)
  | xor (left right : Expr)
deriving DecidableEq, Inhabited

namespace Expr

def holds (leaf : String → Bool) : Expr → Bool
  | .name n => leaf n
  | .not e => !e.holds leaf
  | .and l r => l.holds leaf && r.holds leaf
  | .or l r => l.holds leaf || r.holds leaf
  | .xor l r => l.holds leaf ^^ r.holds leaf

def isName : Expr → Bool
  | .name _ => true
  | _ => false

def height : Expr → Nat
  | .name _ => 1
  | .not e => e.height + 1
  | .and l r | .or l r | .xor l r => max l.height r.height + 1

def addNames (collected : NameSet) : Expr → NameSet
  | .name n => collected.insert n
  | .not e => e.addNames collected
  | .and l r | .or l r | .xor l r => r.addNames (l.addNames collected)

def names (e : Expr) : NameSet :=
  e.addNames .empty

end Expr

end SelectionAlgebra
