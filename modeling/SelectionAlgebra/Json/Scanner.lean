import SelectionAlgebra.Double.Arithmetic
import SelectionAlgebra.Double.Decimal
import SelectionAlgebra.Text.ByteLength

/-!
Reading JSON text from left to right: blanks, words, strings, numbers, and values that are passed
over. Reading stops at the first fault.
-/

namespace SelectionAlgebra.Json

inductive Fault where
  /-- The text is not JSON. -/
  | notJson
  /-- The text is JSON of another shape than expected. -/
  | wrongShape
  /-- The text ends too early. -/
  | endsEarly
deriving DecidableEq

abbrev Scanned (α : Type) := Except Fault (α × List Char)

def isSpace (c : Char) : Bool :=
  c == ' ' || c == '\n' || c == '\t' || c == '\r'

def skipSpaces (cs : List Char) : List Char :=
  cs.dropWhile isSpace

def word : List Char → List Char → Except Fault (List Char)
  | [], cs => .ok cs
  | _ :: _, [] => .error .endsEarly
  | expected :: more, c :: rest => if c = expected then word more rest else .error .notJson

/-! ### Strings -/

def hexValue? (c : Char) : Option Nat :=
  if '0' ≤ c ∧ c ≤ '9' then some (c.toNat - '0'.toNat)
  else if 'a' ≤ c ∧ c ≤ 'f' then some (c.toNat - 'a'.toNat + 10)
  else if 'A' ≤ c ∧ c ≤ 'F' then some (c.toNat - 'A'.toNat + 10)
  else none

/-- Read four hexadecimal digits. The text ends too early if it has fewer than four bytes left. -/
def hexCode (cs : List Char) : Scanned Nat :=
  if Text.byteLength (cs.take 4) < 4 then .error .endsEarly
  else
    match (cs.take 4).mapM hexValue? with
    | some digits => .ok (digits.foldl (fun n d => 16 * n + d) 0, cs.drop 4)
    | none => .error .notJson

inductive Strictness where
  /-- Every escape names a character. -/
  | characters
  /-- Escapes may name halves of surrogate pairs. -/
  | codeUnits
deriving DecidableEq

def lowSurrogate (high : Nat) (cs : List Char) : Scanned Char :=
  match cs with
  | [] => .error .endsEarly
  | '\\' :: [] => .error .endsEarly
  | '\\' :: 'u' :: rest =>
    match hexCode rest with
    | .error fault => .error fault
    | .ok (low, rest) =>
      if 0xdc00 ≤ low ∧ low ≤ 0xdfff then
        .ok (Char.ofNat (0x10000 + (high - 0xd800) * 0x400 + (low - 0xdc00)), rest)
      else .error .notJson
  | _ => .error .notJson

/-- A character named by its code. Passed over strings do not pair surrogates. -/
def codeEscape (strictness : Strictness) (cs : List Char) : Scanned Char :=
  match hexCode cs with
  | .error fault => .error fault
  | .ok (code, rest) =>
    if strictness = .codeUnits then .ok (Char.ofNat code, rest)
    else if 0xdc00 ≤ code ∧ code ≤ 0xdfff then .error .notJson
    else if 0xd800 ≤ code ∧ code ≤ 0xdbff then lowSurrogate code rest
    else .ok (Char.ofNat code, rest)

def escape (strictness : Strictness) (cs : List Char) : Scanned Char :=
  match cs with
  | [] => .error .endsEarly
  | c :: rest =>
    match c with
    | '"' => .ok ('"', rest)
    | '\\' => .ok ('\\', rest)
    | '/' => .ok ('/', rest)
    | 'b' => .ok ('\x08', rest)
    | 'f' => .ok ('\x0c', rest)
    | 'n' => .ok ('\n', rest)
    | 'r' => .ok ('\r', rest)
    | 't' => .ok ('\t', rest)
    | 'u' => codeEscape strictness rest
    | _ => .error .notJson

def stringRest (strictness : Strictness) (cs : List Char) : Scanned (List Char) :=
  match cs with
  | [] => .error .endsEarly
  | c :: rest =>
    if c = '"' then .ok ([], rest)
    else if c.toNat < 32 then .error .notJson
    else
      let first := if c = '\\' then escape strictness rest else .ok (c, rest)
      match first with
      | .error fault => .error fault
      | .ok (c, after) =>
        if after.length ≤ rest.length then
          match stringRest strictness after with
          | .error fault => .error fault
          | .ok (more, after) => .ok (c :: more, after)
        else .error .notJson
termination_by cs.length

/-! ### Numbers -/

/-- Numbers as they are written: whole numbers of 64 bits, and doubles. Negative zero is a
double. -/
inductive Number where
  | natural (n : Nat)
  | negative (n : Int)
  | double (x : Double)
deriving DecidableEq

def isDigit (c : Char) : Bool :=
  decide ('0' ≤ c) && decide (c ≤ '9')

def digitValue (c : Char) : Nat :=
  c.toNat - '0'.toNat

/-- Append digits to a number while it has at most 64 bits: the number, how many digits were
appended, and the text from the first digit that did not fit. -/
def appendDigits (n : Nat) : List Char → Nat × Nat × List Char
  | [] => (n, 0, [])
  | c :: rest =>
    if isDigit c && decide (10 * n + digitValue c < UInt64.size) then
      let (m, count, after) := appendDigits (10 * n + digitValue c) rest
      (m, count + 1, after)
    else (n, 0, c :: rest)

def powerOfTen (k : Nat) : Double :=
  .ofDecimal false 1 k

/-- A whole number times a power of ten. The number and the power are rounded before they are
multiplied or divided; there is no notation for what is too large. -/
def scaled (n : Nat) (e : Int) : Except Fault Double :=
  let x := Double.ofInt n
  if x.isZero then .ok x
  else if 0 ≤ e then
    let y := x.mul (powerOfTen e.toNat)
    if y.isFinite then .ok y else .error .notJson
  else if -308 ≤ e then .ok (x.div (powerOfTen (-e).toNat))
  else if -616 ≤ e then .ok ((x.div (powerOfTen 308)).div (powerOfTen (-e - 308).toNat))
  else .ok .zero

/-- Exponents are not followed further than this. -/
def exponentLimit : Nat := 0x80000000

def boundedNat (limit : Nat) (digits : List Char) : Nat :=
  digits.foldl (fun n c => min limit (10 * n + digitValue c)) 0

def exponentDigits (n : Nat) (e : Int) (down : Bool) (cs : List Char) : Scanned Double :=
  match cs with
  | [] => .error .endsEarly
  | c :: _ =>
    if isDigit c then
      let shift : Int := boundedNat exponentLimit (cs.takeWhile isDigit)
      (scaled n (if down then e - shift else e + shift)).map (·, cs.dropWhile isDigit)
    else .error .notJson

def exponentRest (n : Nat) (e : Int) (cs : List Char) : Scanned Double :=
  match cs with
  | '+' :: rest => exponentDigits n e false rest
  | '-' :: rest => exponentDigits n e true rest
  | cs => exponentDigits n e false cs

def exponentOrEnd (n : Nat) (e : Int) (cs : List Char) : Scanned Double :=
  match cs with
  | c :: rest =>
    if c = 'e' ∨ c = 'E' then exponentRest n e rest else (scaled n e).map (·, cs)
  | [] => (scaled n e).map (·, cs)

def decimalsRest (n : Nat) (e : Int) (cs : List Char) : Scanned Double :=
  match cs with
  | [] => .error .endsEarly
  | c :: _ =>
    if isDigit c then
      let (m, count, after) := appendDigits n cs
      exponentOrEnd m (e - count) (after.dropWhile isDigit)
    else .error .notJson

/-- What follows the whole digits of a number, of which so many did not fit. -/
def afterWhole (n dropped : Nat) (cs : List Char) : Scanned (Nat ⊕ Double) :=
  match cs with
  | '.' :: rest => (decimalsRest n dropped rest).map fun (x, cs) => (.inr x, cs)
  | cs =>
    if dropped = 0 && cs.head?.all fun c => c != 'e' && c != 'E' then .ok (.inl n, cs)
    else (exponentOrEnd n dropped cs).map fun (x, cs) => (.inr x, cs)

def unsignedNumber (cs : List Char) : Scanned (Nat ⊕ Double) :=
  match cs with
  | [] => .error .endsEarly
  | c :: rest =>
    if isDigit c && !(c == '0' && rest.head?.any isDigit) then
      let (n, _, after) := appendDigits 0 cs
      afterWhole n (after.takeWhile isDigit).length (after.dropWhile isDigit)
    else .error .notJson

def Number.plain : Nat ⊕ Double → Number
  | .inl n => .natural n
  | .inr x => .double x

/-- Zero becomes a double, and so do whole numbers below those of 64 bits. -/
def Number.negated : Nat ⊕ Double → Number
  | .inl n =>
    if n = 0 ∨ -(n : Int) < Int64.minValue.toInt then .double (Double.ofInt n).neg
    else .negative (-n)
  | .inr x => .double x.neg

def number (cs : List Char) : Scanned Number :=
  match cs with
  | '-' :: rest => (unsignedNumber rest).map fun (value, cs) => (.negated value, cs)
  | cs => (unsignedNumber cs).map fun (value, cs) => (.plain value, cs)

/-! ### Values that are passed over -/

def skipDigits (cs : List Char) : Except Fault (List Char) :=
  match cs with
  | c :: _ => if isDigit c then .ok (cs.dropWhile isDigit) else .error .notJson
  | [] => .error .notJson

def skipExponent (cs : List Char) : Except Fault (List Char) :=
  match cs with
  | c :: rest =>
    if c = 'e' ∨ c = 'E' then
      match rest with
      | '+' :: rest | '-' :: rest => skipDigits rest
      | rest => skipDigits rest
    else .ok cs
  | [] => .ok []

/-- Pass over a number without its sign. Its size does not matter, and one that is cut short is no
number. -/
def skipUnsigned (cs : List Char) : Except Fault (List Char) :=
  match cs with
  | '0' :: c :: _ =>
    if isDigit c then .error .notJson else skipFraction (cs.drop 1)
  | cs =>
    match skipDigits cs with
    | .ok rest => skipFraction rest
    | .error fault => .error fault
where
  skipFraction : List Char → Except Fault (List Char)
    | '.' :: rest =>
      match skipDigits rest with
      | .ok rest => skipExponent rest
      | .error fault => .error fault
    | cs => skipExponent cs

def skipScalar (cs : List Char) : Except Fault (List Char) :=
  match cs with
  | 'n' :: rest => word ['u', 'l', 'l'] rest
  | 't' :: rest => word ['r', 'u', 'e'] rest
  | 'f' :: rest => word ['a', 'l', 's', 'e'] rest
  | '"' :: rest => (stringRest .codeUnits rest).map (·.2)
  | '-' :: rest => skipUnsigned rest
  | c :: rest => if isDigit c then skipUnsigned (c :: rest) else .error .notJson
  | [] => .error .endsEarly

def colon (cs : List Char) : Except Fault (List Char) :=
  match skipSpaces cs with
  | [] => .error .endsEarly
  | c :: rest => if c = ':' then .ok rest else .error .notJson

def skipKey (cs : List Char) : Except Fault (List Char) :=
  match skipSpaces cs with
  | [] => .error .endsEarly
  | '"' :: rest =>
    match stringRest .codeUnits rest with
    | .ok (_, rest) => colon rest
    | .error fault => .error fault
  | _ => .error .notJson

/-- After a value inside lists and objects, given by their closing brackets: close what ends here,
and go on to the next value. Nothing is left open at the end. -/
def settle : List Char → List Char → Except Fault (List Char × List Char)
  | [], cs => .ok ([], cs)
  | close :: outer, cs =>
    match skipSpaces cs with
    | [] => .error .endsEarly
    | c :: rest =>
      if c = close then settle outer rest
      else if c = ',' then
        if close = '\x7d' then (skipKey rest).map (close :: outer, ·)
        else .ok (close :: outer, rest)
      else .error .notJson

def skipStep (closers : List Char) (cs : List Char) : Except Fault (List Char × List Char) :=
  match skipSpaces cs with
  | [] => .error .endsEarly
  | '[' :: rest =>
    match skipSpaces rest with
    | [] => .error .endsEarly
    | ']' :: rest => settle closers rest
    | _ => .ok (']' :: closers, rest)
  | '\x7b' :: rest =>
    match skipSpaces rest with
    | [] => .error .endsEarly
    | '\x7d' :: rest => settle closers rest
    | _ => (skipKey rest).map ('\x7d' :: closers, ·)
  | start =>
    match skipScalar start with
    | .error fault => .error fault
    | .ok rest => settle closers rest

def skipOpen (closers : List Char) (cs : List Char) : Except Fault (List Char) :=
  match skipStep closers cs with
  | .error fault => .error fault
  | .ok ([], rest) => .ok rest
  | .ok (still, rest) =>
    if rest.length < cs.length then skipOpen still rest else .error .notJson
termination_by cs.length

def skipValue (cs : List Char) : Except Fault (List Char) :=
  skipOpen [] cs

end SelectionAlgebra.Json
