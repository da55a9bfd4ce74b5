import SelectionAlgebra.Double.Arithmetic
import SelectionAlgebra.Double.Decimal
import SelectionAlgebra.Toml.Item

/-!
Reading TOML text: a list of statements, each on its own line. Dates and strings of several lines
are not read, and neither is what is nested deeper than `maxDepth`.
-/

namespace SelectionAlgebra.Toml

abbrev Reader (α : Type) := List Char → Option (α × List Char)

def isBlank (c : Char) : Bool :=
  c == ' ' || c == '\t'

def skipBlanks (cs : List Char) : List Char :=
  cs.dropWhile isBlank

def char (expected : Char) : List Char → Option (List Char)
  | c :: rest => if c = expected then some rest else none
  | [] => none

def isPlain (c : Char) : Bool :=
  c == '\t' || (decide (32 ≤ c.toNat) && c.toNat != 127)

def skipComment (cs : List Char) : List Char :=
  match skipBlanks cs with
  | '#' :: rest => rest.dropWhile isPlain
  | rest => rest

def endOfLine (cs : List Char) : Option (List Char) :=
  match skipComment cs with
  | [] => some []
  | '\n' :: rest | '\r' :: '\n' :: rest => some rest
  | _ => none

/-- Greatest number of arrays and tables inside each other, and of parts of a dotted key. -/
def maxDepth : Nat := 79

/-! ### Strings and keys -/

def hexValue? (c : Char) : Option Nat :=
  if c.isDigit then some (c.toNat - '0'.toNat)
  else if 'a' ≤ c ∧ c ≤ 'f' then some (c.toNat - 'a'.toNat + 10)
  else if 'A' ≤ c ∧ c ≤ 'F' then some (c.toNat - 'A'.toNat + 10)
  else none

def codePoint (count : Nat) (cs : List Char) : Option (Char × List Char) := do
  let digits ← (cs.take count).mapM hexValue?
  let code := digits.foldl (fun n d => 16 * n + d) 0
  if digits.length = count ∧ code.isValidChar then some (Char.ofNat code, cs.drop count) else none

def escape : Reader Char
  | 'b' :: rest => some ('\x08', rest)
  | 't' :: rest => some ('\t', rest)
  | 'n' :: rest => some ('\n', rest)
  | 'f' :: rest => some ('\x0c', rest)
  | 'r' :: rest => some ('\r', rest)
  | '"' :: rest => some ('"', rest)
  | '\\' :: rest => some ('\\', rest)
  | 'u' :: rest => codePoint 4 rest
  | 'U' :: rest => codePoint 8 rest
  | _ => none

def basicString (cs : List Char) : Option (List Char × List Char) :=
  match cs with
  | [] => none
  | '"' :: rest => some ([], rest)
  | c :: rest =>
    match if c = '\\' then escape rest else if isPlain c then some (c, rest) else none with
    | none => none
    | some (c, after) =>
      if after.length ≤ rest.length then
        (basicString after).map fun (more, after) => (c :: more, after)
      else none
termination_by cs.length

def literalString (cs : List Char) : Option (List Char × List Char) :=
  (char '\'' (cs.dropWhile fun c => isPlain c && c != '\'')).map
    (cs.takeWhile fun c => isPlain c && c != '\'', ·)

def quoted : Reader String
  | '"' :: rest => (basicString rest).map fun (cs, rest) => (String.ofList cs, rest)
  | '\'' :: rest => (literalString rest).map fun (cs, rest) => (String.ofList cs, rest)
  | _ => none

def isKeyChar (c : Char) : Bool :=
  c.isAlphanum || c == '_' || c == '-'

def simpleKey (cs : List Char) : Option (String × List Char) :=
  match cs.takeWhile isKeyChar with
  | [] => quoted cs
  | run => some (String.ofList run, cs.dropWhile isKeyChar)

def dottedKey : Nat → Reader (List String × String)
  | 0, _ => none
  | parts + 1, cs => do
    let (first, rest) ← simpleKey (skipBlanks cs)
    match skipBlanks rest with
    | '.' :: rest =>
      let ((path, last), rest) ← dottedKey parts rest
      return ((first :: path, last), rest)
    | rest => return (([], first), rest)

def key : Reader (List String × String) :=
  dottedKey maxDepth

/-! ### Numbers -/

def digits (isDigit : Char → Bool) (cs : List Char) : Option (List Char × List Char) :=
  match cs with
  | [] => none
  | c :: rest =>
    if isDigit c then
      match rest with
      | '_' :: d :: more =>
        if isDigit d then (digits isDigit (d :: more)).map fun (ds, rest) => (c :: ds, rest)
        else some ([c], rest)
      | d :: more =>
        if isDigit d then (digits isDigit (d :: more)).map fun (ds, rest) => (c :: ds, rest)
        else some ([c], rest)
      | [] => some ([c], [])
    else none
termination_by cs.length

def wholeDigits (cs : List Char) : Option (List Char × List Char) :=
  match cs with
  | '0' :: rest => some (['0'], rest)
  | cs => digits Char.isDigit cs

def sign : List Char → Bool × List Char
  | '-' :: rest => (true, rest)
  | '+' :: rest => (false, rest)
  | cs => (false, cs)

def natOf (base : Nat) (ds : List Char) : Nat :=
  ds.foldl (fun n c => base * n + (hexValue? c).getD 0) 0

def fraction (cs : List Char) : Option (List Char × List Char) :=
  match cs with
  | '.' :: rest => digits Char.isDigit rest
  | cs => some ([], cs)

def exponent (cs : List Char) : Option (Int × List Char) :=
  match cs with
  | 'e' :: rest | 'E' :: rest => do
    let (negative, rest) := sign rest
    let (ds, rest) ← digits Char.isDigit rest
    let n : Int := natOf 10 ds
    return (if negative then -n else n, rest)
  | cs => some (0, cs)

/-- A number with a point or an exponent. One that is too large is not read, unless it is negative:
then it is infinite. -/
def float (cs : List Char) : Option (Item × List Char) := do
  let (negative, cs) := sign cs
  let (whole, afterWhole) ← wholeDigits cs
  let (decimals, afterDecimals) ← fraction afterWhole
  let (shift, rest) ← exponent afterDecimals
  if rest.length = afterWhole.length then none
  let x := Double.ofDecimal negative (natOf 10 (whole ++ decimals)) (shift - decimals.length)
  if x = .infinity then none else some (.float x, rest)

def specialFloat (cs : List Char) : Option (Item × List Char) :=
  let (negative, cs) := sign cs
  let signed (x : Double) : Item := .float (if negative then x.neg else x)
  match cs with
  | 'i' :: 'n' :: 'f' :: rest => some (signed .infinity, rest)
  | 'n' :: 'a' :: 'n' :: rest => some (signed Double.indefinite.abs, rest)
  | _ => none

def isHexDigit (c : Char) : Bool :=
  (hexValue? c).isSome

def isOctalDigit (c : Char) : Bool :=
  decide ('0' ≤ c) && decide (c ≤ '7')

def isBinaryDigit (c : Char) : Bool :=
  c == '0' || c == '1'

def integer (cs : List Char) : Option (Item × List Char) := do
  let (n, rest) ← match cs with
    | '0' :: 'x' :: rest => natural 16 isHexDigit rest
    | '0' :: 'o' :: rest => natural 8 isOctalDigit rest
    | '0' :: 'b' :: rest => natural 2 isBinaryDigit rest
    | cs => do
      let (negative, cs) := sign cs
      let (ds, rest) ← wholeDigits cs
      let n : Int := natOf 10 ds
      pure (if negative then -n else n, rest)
  if Int64.minValue.toInt ≤ n ∧ n ≤ Int64.maxValue.toInt then some (.integer n, rest)
  else none
where
  natural (base : Nat) (isDigit : Char → Bool) (cs : List Char) : Option (Int × List Char) :=
    (digits isDigit cs).map fun (ds, rest) => (natOf base ds, rest)

/-! ### Values -/

def skipLines : Nat → List Char → List Char
  | 0, cs => cs
  | fuel + 1, cs =>
    match skipComment cs with
    | '\n' :: rest | '\r' :: '\n' :: rest => skipLines fuel rest
    | rest => rest

def scalar (cs : List Char) : Option (Item × List Char) :=
  match cs with
  | 't' :: 'r' :: 'u' :: 'e' :: rest => some (.boolean true, rest)
  | 'f' :: 'a' :: 'l' :: 's' :: 'e' :: rest => some (.boolean false, rest)
  | '"' :: _ | '\'' :: _ => (quoted cs).map fun (s, rest) => (.string s, rest)
  | cs => specialFloat cs <|> float cs <|> integer cs

mutual

/-- A value inside which so many more levels may be opened. The fuel bounds the number of parts, and
the length of the text is enough of it. -/
def value : Nat → Nat → List Char → Option (Item × List Char)
  | 0, _, _ => none
  | fuel + 1, levels, cs =>
    match cs, levels with
    | '[' :: rest, levels + 1 =>
      (arrayRest fuel levels rest).map fun (items, rest) => (.array items, rest)
    | '\x7b' :: rest, levels + 1 =>
      match skipBlanks rest with
      | '\x7d' :: rest => some (.inline [], rest)
      | rest =>
        (inlineRest fuel levels [] rest).map fun (entries, rest) => (.inline entries, rest)
    | cs, _ => scalar cs

def arrayRest : Nat → Nat → List Char → Option (List Item × List Char)
  | 0, _, _ => none
  | fuel + 1, levels, cs =>
    match skipLines cs.length cs with
    | ']' :: rest => some ([], rest)
    | start =>
      match value fuel levels start with
      | none => none
      | some (item, rest) =>
        match skipLines rest.length rest with
        | ',' :: rest =>
          (arrayRest fuel levels rest).map fun (items, rest) => (item :: items, rest)
        | ']' :: rest => some ([item], rest)
        | _ => none

def inlineRest : Nat → Nat → Entries → List Char → Option (Entries × List Char)
  | 0, _, _, _ => none
  | fuel + 1, levels, entries, cs => do
    let ((path, last), rest) ← key cs
    let rest ← char '=' rest
    let (item, rest) ← value fuel levels (skipBlanks rest)
    let entries ← entries.insert path last item
    match skipBlanks rest with
    | ',' :: rest => inlineRest fuel levels entries rest
    | '\x7d' :: rest => return (entries, rest)
    | _ => none

end

/-! ### Statements -/

def statement (cs : List Char) : Option (Statement × List Char) :=
  match cs with
  | '[' :: '[' :: rest => do
    let ((path, last), rest) ← key rest
    let rest ← char ']' rest
    let rest ← char ']' rest
    return (.repeatedHeader path last, rest)
  | '[' :: rest => do
    let ((path, last), rest) ← key rest
    let rest ← char ']' rest
    return (.header path last, rest)
  | cs => do
    let ((path, last), rest) ← key cs
    let rest ← char '=' rest
    let (item, rest) ← value (2 * rest.length + 2) maxDepth (skipBlanks rest)
    return (.entry path last item, rest)

def statements : Nat → List Char → Option (List Statement)
  | 0, _ => none
  | fuel + 1, cs =>
    match skipBlanks cs with
    | [] => some []
    | start =>
      match endOfLine start with
      | some rest => statements fuel rest
      | none => do
        let (first, rest) ← statement start
        let rest ← endOfLine rest
        return first :: (← statements fuel rest)

def read (text : String) : Option Entries :=
  let cs := text.toList
  let cs := if cs.head? = some '\ufeff' then cs.drop 1 else cs
  (statements (cs.length + 1) cs).bind ofStatements

end SelectionAlgebra.Toml
