import SelectionAlgebra.Expr.Basic

/-!
Expressions as text: every binary operator in parentheses, and an operand of `!` in parentheses
unless it is a name.
-/

namespace SelectionAlgebra.Expr

def chars : Expr → List Char
  | .name n => n.toList
  | .not (.name n) => '!' :: n.toList
  | .not e => ['!', '('] ++ e.chars ++ [')']
  | .and l r => '(' :: l.chars ++ [' ', '&', ' '] ++ r.chars ++ [')']
  | .or l r => '(' :: l.chars ++ [' ', '|', ' '] ++ r.chars ++ [')']
  | .xor l r => '(' :: l.chars ++ [' ', '^', ' '] ++ r.chars ++ [')']

def display (e : Expr) : String :=
  String.ofList e.chars

end SelectionAlgebra.Expr
