import SelectionAlgebra.Double.Basic

/-!
The contents of a TOML document, and how its statements add to it. A table is written in one place:
by one header, by one inline table, or by dotted keys that stand together.
-/

namespace SelectionAlgebra.Toml

inductive Item where
  | string (text : String)
  | integer (value : Int)
  | float (value : Double)
  | boolean (value : Bool)
  | array (items : List Item)
  /-- A table that is complete where it stands. -/
  | inline (entries : List (String × Item))
  /-- A table that may still grow. It is implicit when only its parts have been written, and dotted
  when that was done by dotted keys. -/
  | table (implicit dotted : Bool) (entries : List (String × Item))
  /-- The tables of repeated headers. -/
  | tables (elements : List (List (String × Item)))
deriving Inhabited

abbrev Entries := List (String × Item)

namespace Entries

def set (key : String) (item : Item) : Entries → Entries
  | [] => [(key, item)]
  | entry :: rest => if entry.1 = key then (key, item) :: rest else entry :: set key item rest

def remove (key : String) (entries : Entries) : Entries :=
  entries.filter fun entry => entry.1 ≠ key

/-- Change the table at the end of a path. Tables on the way are made where there are none; values
cannot be entered, nor can dotted keys enter a table that was written out. The change is told
whether it works on a dotted table. -/
def descend (dotted : Bool) (change : Bool → Entries → Option Entries) :
    List String → Bool → Entries → Option Entries
  | [], inDotted, entries => change inDotted entries
  | key :: path, _, entries =>
    match entries.lookup key with
    | none =>
      (descend dotted change path dotted []).map fun inner =>
        entries.set key (.table true dotted inner)
    | some (.table implicit innerDotted inner) =>
      if dotted && !implicit then none
      else
        (descend dotted change path innerDotted inner).map fun inner =>
          entries.set key (.table implicit innerDotted inner)
    | some (.tables elements) =>
      match elements.getLast? with
      | none => none
      | some last =>
        (descend dotted change path false last).map fun last =>
          entries.set key (.tables (elements.dropLast ++ [last]))
    | some _ => none

def insert (entries : Entries) (path : List String) (key : String) (item : Item) :
    Option Entries :=
  entries.descend true
    (fun inDotted inner =>
      if inDotted == path.isEmpty || (inner.lookup key).isSome then none
      else some (inner ++ [(key, item)]))
    path false

end Entries

inductive Statement where
  | entry (path : List String) (key : String) (item : Item)
  | header (path : List String) (key : String)
  | repeatedHeader (path : List String) (key : String)

inductive Section where
  | top
  | table (path : List String) (key : String)
  | element (path : List String) (key : String)

structure Draft where
  finished : Entries := []
  place : Section := .top
  entries : Entries := []

namespace Draft

def finish (draft : Draft) : Option Entries :=
  match draft.place with
  | .top => some draft.entries
  | .table path key =>
    draft.finished.descend false
      (fun _ parent => some (parent.set key (.table false false draft.entries))) path false
  | .element path key =>
    draft.finished.descend false
      (fun _ parent =>
        match parent.lookup key with
        | some (.tables elements) => some (parent.set key (.tables (elements ++ [draft.entries])))
        | _ => none)
      path false

/-- The table that a header reopens: one of which only parts have been written. -/
def reopened (key : String) (parent : Entries) : Option Entries :=
  match parent.lookup key with
  | none => some []
  | some (.table true false inner) => some inner
  | some _ => none

def parentOf (finished : Entries) : List String → Option Entries
  | [] => some finished
  | key :: path =>
    match finished.lookup key with
    | none => some []
    | some (.table _ _ inner) => parentOf inner path
    | some (.tables elements) => elements.getLast?.bind fun last => parentOf last path
    | some _ => none

def step (draft : Draft) (statement : Statement) : Option Draft :=
  match statement with
  | .entry path key item =>
    (draft.entries.insert path key item).map fun entries => { draft with entries }
  | .header path key => do
    let finished ← draft.finish
    let entries ← reopened key (← parentOf finished path)
    let finished ← finished.descend false (fun _ parent => some (parent.remove key)) path false
    return { finished, place := .table path key, entries }
  | .repeatedHeader path key => do
    let finished ← draft.finish
    let finished ← finished.descend false
      (fun _ parent =>
        match parent.lookup key with
        | none => some (parent.set key (.tables []))
        | some (.tables _) => some parent
        | some _ => none)
      path false
    return { finished, place := .element path key, entries := [] }

end Draft

def ofStatements (statements : List Statement) : Option Entries :=
  (statements.foldlM Draft.step {}).bind Draft.finish

end SelectionAlgebra.Toml
