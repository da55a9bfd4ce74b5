import SelectionAlgebra.Json.Scanner

/-!
Readers for JSON text of a known shape. A reader goes from left to right and refuses the text at
the first place where it is not JSON or not of the shape.
-/

namespace SelectionAlgebra.Json

abbrev Reader (α : Type) := List Char → Scanned α

/-- Refuse a value of another kind than expected. A value that is no list and no object is read to
its end first. -/
def refuse {α : Type} (cs : List Char) : Scanned α :=
  let wrong (rest : Except Fault (List Char)) : Scanned α :=
    match rest with
    | .error fault => .error fault
    | .ok _ => .error .wrongShape
  match cs with
  | [] => .error .endsEarly
  | 'n' :: rest => wrong (word ['u', 'l', 'l'] rest)
  | 't' :: rest => wrong (word ['r', 'u', 'e'] rest)
  | 'f' :: rest => wrong (word ['a', 'l', 's', 'e'] rest)
  | '"' :: rest => wrong ((stringRest .characters rest).map (·.2))
  | '[' :: _ | '\x7b' :: _ => .error .wrongShape
  | c :: _ =>
    if c == '-' || isDigit c then wrong ((number cs).map (·.2)) else .error .notJson

def readBool : Reader Bool := fun cs =>
  match skipSpaces cs with
  | 't' :: rest => (word ['r', 'u', 'e'] rest).map (true, ·)
  | 'f' :: rest => (word ['a', 'l', 's', 'e'] rest).map (false, ·)
  | start => refuse start

def readString : Reader String := fun cs =>
  match skipSpaces cs with
  | '"' :: rest => (stringRest .characters rest).map fun (cs, rest) => (String.ofList cs, rest)
  | start => refuse start

def readNull : Reader Unit := fun cs =>
  match skipSpaces cs with
  | 'n' :: rest => (word ['u', 'l', 'l'] rest).map ((), ·)
  | start => refuse start

def readOption {α : Type} (read : Reader α) : Reader (Option α) := fun cs =>
  match skipSpaces cs with
  | 'n' :: rest => (word ['u', 'l', 'l'] rest).map (none, ·)
  | start => (read start).map fun (a, rest) => (some a, rest)

def readNumber {α : Type} (make : Number → Option α) : Reader α := fun cs =>
  match skipSpaces cs with
  | [] => .error .endsEarly
  | c :: rest =>
    if c == '-' || isDigit c then
      match number (c :: rest) with
      | .error fault => .error fault
      | .ok (n, rest) =>
        match make n with
        | some a => .ok (a, rest)
        | none => .error .wrongShape
    else refuse (c :: rest)

def wholeIn (low high : Int) : Number → Option Int
  | .natural n => if low ≤ n ∧ n ≤ high then some n else none
  | .negative n => if low ≤ n ∧ n ≤ high then some n else none
  | .double _ => none

def readWhole {α : Type} (low high : Int) (make : Int → α) : Reader α :=
  readNumber fun n => (wholeIn low high n).map make

def readInt64 : Reader Int64 :=
  readWhole Int64.minValue.toInt Int64.maxValue.toInt Int64.ofInt

def readInt32 : Reader Int32 :=
  readWhole Int32.minValue.toInt Int32.maxValue.toInt Int32.ofInt

def readUInt32 : Reader UInt32 :=
  readWhole 0 (UInt32.size - 1 : Nat) fun n => UInt32.ofNat n.toNat

def readUInt64 : Reader UInt64 :=
  readWhole 0 (UInt64.size - 1 : Nat) fun n => UInt64.ofNat n.toNat

def readSize : Reader Nat :=
  readWhole 0 (UInt64.size - 1 : Nat) Int.toNat

def Number.toDouble : Number → Double
  | .natural n => .ofInt n
  | .negative n => .ofInt n
  | .double x => x

def readDouble : Reader Double :=
  readNumber fun n => some n.toDouble

/-! ### Lists -/

def nextItem (first : Bool) (cs : List Char) : Except Fault (Option (List Char)) :=
  match skipSpaces cs with
  | [] => .error .endsEarly
  | c :: rest =>
    if c = ']' then .ok none
    else if first then .ok (some (c :: rest))
    else if c = ',' then
      match skipSpaces rest with
      | [] => .error .endsEarly
      | ']' :: _ => .error .notJson
      | start => .ok (some start)
    else .error .notJson

def close (bracket : Char) (cs : List Char) : Except Fault (List Char) :=
  match skipSpaces cs with
  | [] => .error .endsEarly
  | c :: rest => if c = bracket then .ok rest else .error .notJson

def items {α : Type} (read : Reader α) (first : Bool) (cs : List Char) : Scanned (List α) :=
  match nextItem first cs with
  | .error fault => .error fault
  | .ok none => .ok ([], cs)
  | .ok (some start) =>
    match read start with
    | .error fault => .error fault
    | .ok (a, rest) =>
      if rest.length < cs.length then
        match items read false rest with
        | .error fault => .error fault
        | .ok (more, rest) => .ok (a :: more, rest)
      else .error .notJson
termination_by cs.length

def readList {α : Type} (read : Reader α) : Reader (List α) := fun cs =>
  match skipSpaces cs with
  | '[' :: rest =>
    match items read true rest with
    | .error fault => .error fault
    | .ok (as, rest) => (close ']' rest).map (as, ·)
  | start => refuse start

/-! ### Records -/

structure RecordField (σ : Type) where
  name : String
  /-- Whether the field has been read. -/
  isSet : σ → Bool
  read : σ → Reader σ

def RecordField.of {σ α : Type} (name : String) (read : Reader α) (get : σ → Option α)
    (set : σ → α → σ) : RecordField σ where
  name
  isSet state := (get state).isSome
  read state cs := (read cs).map fun (a, rest) => (set state a, rest)

def nextKey (first : Bool) (cs : List Char) : Except Fault (Option (List Char)) :=
  match skipSpaces cs with
  | [] => .error .endsEarly
  | c :: rest =>
    if c = '\x7d' then .ok none
    else if first then if c = '"' then .ok (some rest) else .error .notJson
    else if c = ',' then
      match skipSpaces rest with
      | [] => .error .endsEarly
      | '"' :: rest => .ok (some rest)
      | _ => .error .notJson
    else .error .notJson

def memberValue {σ : Type} (fields : List (RecordField σ)) (key : String) (state : σ) : Reader σ :=
  fun cs =>
    match fields.find? fun field => field.name = key with
    | some field =>
      if field.isSet state then .error .wrongShape
      else
        match colon cs with
        | .error fault => .error fault
        | .ok rest => field.read state rest
    | none =>
      match colon cs with
      | .error fault => .error fault
      | .ok rest => (skipValue rest).map (state, ·)

/-- The members up to the end of an object. A known key may occur once. -/
def members {σ : Type} (fields : List (RecordField σ)) (state : σ) (first : Bool) (cs : List Char) :
    Scanned σ :=
  match nextKey first cs with
  | .error fault => .error fault
  | .ok none => .ok (state, cs)
  | .ok (some start) =>
    match stringRest .characters start with
    | .error fault => .error fault
    | .ok (key, afterKey) =>
      match memberValue fields (String.ofList key) state afterKey with
      | .error fault => .error fault
      | .ok (state, rest) =>
        if rest.length < cs.length then members fields state false rest else .error .notJson
termination_by cs.length

def listedFields {σ : Type} : List (RecordField σ) → σ → Bool → Reader σ
  | [], state, _, cs => .ok (state, cs)
  | field :: fields, state, first, cs =>
    match nextItem first cs with
    | .error fault => .error fault
    | .ok none => .ok (state, cs)
    | .ok (some start) =>
      match field.read state start with
      | .error fault => .error fault
      | .ok (state, rest) => listedFields fields state false rest

/-- A record, as an object or as a list of its fields in order. -/
def readRecord {σ α : Type} (fields : List (RecordField σ)) (start : σ) (complete : σ → Option α) :
    Reader α :=
  let finish (bracket : Char) : Scanned σ → Scanned α
    | .error fault => .error fault
    | .ok (state, rest) =>
      match complete state with
      | none => .error .wrongShape
      | some a => (close bracket rest).map (a, ·)
  fun cs =>
    match skipSpaces cs with
    | '[' :: rest => finish ']' (listedFields fields start true rest)
    | '\x7b' :: rest => finish '\x7d' (members fields start true rest)
    | other => refuse other

/-! ### Variants -/

def readNoValue {α : Type} (a : α) : Reader α := fun cs =>
  (readNull cs).map fun read => (a, read.2)

/-- The key of a variant's object, which the object must have: whatever else stands after the brace
is not JSON. -/
def readVariantName : Reader String := fun cs =>
  match skipSpaces cs with
  | [] => .error .endsEarly
  | '"' :: rest => (stringRest .characters rest).map fun read => (String.ofList read.1, read.2)
  | _ => .error .notJson

def readVariant {α : Type} (bare : String → Option α) (withValue : String → Option (Reader α)) :
    Reader α := fun cs =>
  match skipSpaces cs with
  | [] => .error .endsEarly
  | '"' :: rest =>
    match stringRest .characters rest with
    | .error fault => .error fault
    | .ok (name, rest) =>
      match bare (String.ofList name) with
      | some a => .ok (a, rest)
      | none => .error .wrongShape
  | '\x7b' :: rest =>
    match readVariantName rest with
    | .error fault => .error fault
    | .ok (name, rest) =>
      let read? := match bare name with
        | some a => some (readNoValue a)
        | none => withValue name
      match read? with
      | none => .error .wrongShape
      | some read =>
        match colon rest with
        | .error fault => .error fault
        | .ok rest =>
          match read rest with
          | .error fault => .error fault
          | .ok (a, rest) => (close '\x7d' rest).map (a, ·)
  | _ => .error .notJson

def readText {α : Type} (read : Reader α) (text : String) : Except Fault α :=
  match read text.toList with
  | .error fault => .error fault
  | .ok (a, rest) => if (skipSpaces rest).isEmpty then .ok a else .error .notJson

end SelectionAlgebra.Json
