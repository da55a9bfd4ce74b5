import SelectionAlgebra.Expr.Parser

/-!
Compiled expressions: a source text with what it means and the names it needs. A blank source means
the union of all masks.
-/

namespace SelectionAlgebra

inductive Meaning where
  /-- Any mask at hand selects the element. -/
  | anyMask
  | tree (expr : Expr)
deriving DecidableEq

structure Compiled where
  source : String
  meaning : Meaning
  names : NameSet
deriving DecidableEq

namespace Compiled

def isAnyMask (compiled : Compiled) : Bool :=
  match compiled.meaning with
  | .anyMask => true
  | .tree _ => false

def tree? (compiled : Compiled) : Option Expr :=
  match compiled.meaning with
  | .anyMask => none
  | .tree e => some e

def references (compiled : Compiled) (name : String) : Bool :=
  compiled.names.contains name

def ofMeaning (source : String) (meaning : Meaning) : Compiled :=
  match meaning with
  | .anyMask => ⟨source, .anyMask, .empty⟩
  | .tree e => ⟨source, .tree e, e.names⟩

end Compiled

def compile (source : String) : Except ParseError Compiled :=
  if source.toList.all Text.isBlank then .ok (.ofMeaning source .anyMask)
  else (Expr.parse source).map fun e => .ofMeaning source (.tree e)

end SelectionAlgebra
