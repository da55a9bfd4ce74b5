import SelectionAlgebra.Expr.Basic
import SelectionAlgebra.Text.Alphanumeric
import SelectionAlgebra.Text.Blank
import SelectionAlgebra.Text.ByteLength

/-!
Reading expressions. The binary operators associate to the left; `&` binds tighter than `^`, and `^`
tighter than `|`. The prefix `!` binds tightest. A name is a run of letters, digits and `_ . : -`.
Spaces, tabs and line ends may stand between tokens.

An operand lies under at most `maxNesting` open parentheses and negations, and no tree is taller
than `maxHeight`; the readers take both bounds as arguments. Positions in errors are offsets in
bytes.
-/

namespace SelectionAlgebra

inductive ParseError where
  | unbalanced (offset : Nat)
  | missingOperand (offset : Nat)
  | invalidToken (token : String) (offset : Nat)
  | tooDeep (offset : Nat)
deriving DecidableEq

namespace ParseError

def offset : ParseError → Nat
  | unbalanced offset | missingOperand offset | invalidToken _ offset | tooDeep offset => offset

def message : ParseError → String
  | unbalanced offset => s!"Unbalanced parentheses at offset {offset}"
  | missingOperand offset => s!"Missing operand at offset {offset}"
  | invalidToken token offset => s!"Invalid token '{token}' at offset {offset}"
  | tooDeep offset => s!"Expression nested too deeply at offset {offset}"

end ParseError

namespace Expr

/-- Greatest number of open parentheses and negations around an operand. -/
def maxNesting : Nat := 128

def maxHeight : Nat := 1024

def isNameChar (c : Char) : Bool :=
  Text.isAlphanumeric c || c == '_' || c == '.' || c == ':' || c == '-'

def isSpace (c : Char) : Bool :=
  c == ' ' || c == '\t' || c == '\r' || c == '\n'

def skipSpaces (cs : List Char) : List Char :=
  cs.dropWhile isSpace

def operator? (op : Char) (cs : List Char) : Option (List Char) :=
  match skipSpaces cs with
  | c :: rest => if c = op then some (skipSpaces rest) else none
  | [] => none

inductive Stop where
  | stuck (rest : List Char)
  | tooDeep (rest : List Char)

abbrev Reader := List Char → Except Stop (Expr × List Char)

def chainTail (op : Char) (operand : Reader) (cs : List Char) :
    Except Stop (List Expr × List Char) :=
  match operator? op cs with
  | none => .ok ([], cs)
  | some afterOp =>
    match operand afterOp with
    | .error stop => .error stop
    | .ok (e, rest) =>
      if rest.length < cs.length then
        match chainTail op operand rest with
        | .error stop => .error stop
        | .ok (others, rest) => .ok (e :: others, rest)
      else .ok ([e], rest)
termination_by cs.length

/-- A chain of one operator, joined from the left. A chain that grows too tall is refused where its
first operand ends. -/
def chain (tallest : Nat) (op : Char) (join : Expr → Expr → Expr) (operand : Reader) : Reader :=
  fun cs =>
  match operand cs with
  | .error stop => .error stop
  | .ok (first, afterFirst) =>
    match chainTail op operand afterFirst with
    | .error stop => .error stop
    | .ok (others, rest) =>
      let e := others.foldl join first
      if e.height ≤ tallest then .ok (e, rest) else .error (.tooDeep afterFirst)

def formula (tallest : Nat) (operand : Reader) : Reader :=
  chain tallest '|' .or (chain tallest '^' .xor (chain tallest '&' .and operand))

def atom (inner : Reader) : Reader := fun cs =>
  match skipSpaces cs with
  | '(' :: afterOpen =>
    match inner afterOpen with
    | .error stop => .error stop
    | .ok (e, ')' :: rest) => .ok (e, skipSpaces rest)
    | .ok (_, rest) => .error (.stuck rest)
  | start =>
    match start.takeWhile isNameChar with
    | [] => .error (.stuck start)
    | run => .ok (.name (String.ofList run), skipSpaces (start.dropWhile isNameChar))

/-- An operand of a binary operator, inside which so many more levels may be opened. -/
def unary (tallest : Nat) : Nat → Reader
  | 0 => fun cs => .error (.tooDeep cs)
  | levels + 1 => fun cs =>
    match operator? '!' cs with
    | some afterOp =>
      match unary tallest levels afterOp with
      | .error stop => .error stop
      | .ok (e, rest) =>
        if e.not.height ≤ tallest then .ok (e.not, rest) else .error (.tooDeep cs)
    | none => atom (formula tallest (unary tallest levels)) cs

/-- Offset of the first `)` without a partner, or else of the last `(` that is never closed. -/
def unmatched? (offset : Nat) (opened : List Nat) : List Char → Option Nat
  | [] => opened.head?
  | c :: rest =>
    let next := offset + c.utf8Size
    if c = '(' then unmatched? next (offset :: opened) rest
    else if c = ')' then
      match opened with
      | [] => some offset
      | _ :: opened => unmatched? next opened rest
    else unmatched? next opened rest

/-- What is wrong at the place where reading stopped. -/
def blame (source rest : List Char) : ParseError :=
  let rest := Text.trimStart rest
  let offset := Text.byteLength source - Text.byteLength rest
  match rest with
  | [] => .missingOperand offset
  | c :: _ =>
    if c == '&' || c == '|' || c == '^' || c == ')' then .missingOperand offset
    else if isNameChar c then .invalidToken (String.ofList (rest.takeWhile isNameChar)) offset
    else .invalidToken (String.singleton c) offset

def parseChars (source : List Char) : Except ParseError Expr :=
  match unmatched? 0 [] source with
  | some offset => .error (.unbalanced offset)
  | none =>
    match formula maxHeight (unary maxHeight (maxNesting + 1)) source with
    | .ok (e, []) => .ok e
    | .ok (_, rest) => .error (blame source rest)
    | .error (.stuck rest) => .error (blame source rest)
    | .error (.tooDeep rest) => .error (.tooDeep (Text.byteLength source - Text.byteLength rest))

def parse (source : String) : Except ParseError Expr :=
  parseChars source.toList

end Expr

end SelectionAlgebra
