import SelectionAlgebra.Double.Layout

/-!
JSON values and their text over several lines: two blanks for each level, a space after each colon,
members in the given order, and no line breaks in an empty list.
-/

namespace SelectionAlgebra.Json

inductive Value where
  | null
  | bool (value : Bool)
  | int (value : Int)
  | double (value : Double)
  | string (value : String)
  | array (items : List Value)
  | object (members : List (String × Value))
deriving Inhabited

def escaped (c : Char) : List Char :=
  match c with
  | '"' => ['\\', '"']
  | '\\' => ['\\', '\\']
  | '\x08' => ['\\', 'b']
  | '\t' => ['\\', 't']
  | '\n' => ['\\', 'n']
  | '\x0c' => ['\\', 'f']
  | '\r' => ['\\', 'r']
  | c =>
    if c.toNat < 16 then ['\\', 'u', '0', '0', '0'] ++ Nat.toDigits 16 c.toNat
    else if c.toNat < 32 then ['\\', 'u', '0', '0'] ++ Nat.toDigits 16 c.toNat
    else [c]

def stringChars (s : String) : List Char :=
  '"' :: s.toList.flatMap escaped ++ ['"']

/-- A number; what is not finite has no notation and becomes `null`. -/
def doubleChars (x : Double) : List Char :=
  if x.isFinite then x.text .json else ['n', 'u', 'l', 'l']

def newLine (depth : Nat) : List Char :=
  '\n' :: List.replicate (2 * depth) ' '

mutual

def Value.chars (depth : Nat) : Value → List Char
  | .null => ['n', 'u', 'l', 'l']
  | .bool true => ['t', 'r', 'u', 'e']
  | .bool false => ['f', 'a', 'l', 's', 'e']
  | .int n => (toString n).toList
  | .double x => doubleChars x
  | .string s => stringChars s
  | .array [] => ['[', ']']
  | .array (item :: rest) =>
    '[' :: newLine (depth + 1) ++ item.chars (depth + 1) ++ itemChars (depth + 1) rest
      ++ newLine depth ++ [']']
  | .object [] => ['\x7b', '\x7d']
  | .object ((key, value) :: rest) =>
    '\x7b' :: newLine (depth + 1) ++ stringChars key ++ ':' :: ' ' :: value.chars (depth + 1)
      ++ memberChars (depth + 1) rest ++ newLine depth ++ ['\x7d']

def itemChars (depth : Nat) : List Value → List Char
  | [] => []
  | item :: rest => ',' :: newLine depth ++ item.chars depth ++ itemChars depth rest

def memberChars (depth : Nat) : List (String × Value) → List Char
  | [] => []
  | (key, value) :: rest =>
    ',' :: newLine depth ++ stringChars key ++ ':' :: ' ' :: value.chars depth
      ++ memberChars depth rest

end

def Value.text (value : Value) : String :=
  String.ofList (value.chars 0)

end SelectionAlgebra.Json
