import SelectionAlgebra.Expr.Compiled
import SelectionAlgebra.Json.Value

/-!
Expressions from JSON values that have already been read.
-/

namespace SelectionAlgebra

open Json

def Expr.ofStored? : Value → Option Expr
  | .object [(operator, .string text)] => if operator = "Name" then some (.name text) else none
  | .object [(operator, .array [left, right])] =>
    let binary? (make : Expr → Expr → Expr) := do
      return make (← ofStored? left) (← ofStored? right)
    match operator with
    | "And" => binary? .and
    | "Or" => binary? .or
    | "Xor" => binary? .xor
    | _ => none
  | .object [(operator, operand)] =>
    if operator = "Not" then (ofStored? operand).map .not else none
  | _ => none

namespace Json.Value

def string? : Value → Option String
  | .string s => some s
  | _ => none

def array? : Value → Option (List Value)
  | .array items => some items
  | _ => none

def fields? (value : Value) (names : List String) : Option (List Value) :=
  match value with
  | .object members => names.mapM fun name => members.lookup name
  | .array items => if items.length = names.length then some items else none
  | _ => none

end Json.Value

def Meaning.ofStored? : Value → Option Meaning
  | .string name => if name = "AnyMask" then some .anyMask else none
  | .object [(name, value)] =>
    match name, value with
    | "AnyMask", .null => some .anyMask
    | "Tree", value => (Expr.ofStored? value).map .tree
    | _, _ => none
  | _ => none

/-- A compiled expression. Its names are taken as they are given, whatever its tree says. -/
def Compiled.ofStored? (value : Value) : Option Compiled :=
  match value.fields? ["source", "kind", "names"] with
  | some [source, kind, names] => do
    let source ← source.string?
    let meaning ← Meaning.ofStored? kind
    let names ← (← names.array?).mapM Value.string?
    return ⟨source, meaning, .ofList names⟩
  | _ => none

end SelectionAlgebra
