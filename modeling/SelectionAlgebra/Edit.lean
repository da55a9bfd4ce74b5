import SelectionAlgebra.Error

/-!
Steps that change a state in place. A change may fail; then it leaves a state behind too, which need
not be the one it began with.
-/

namespace SelectionAlgebra

def runAll {κ ρ σ : Type} (step : κ → σ → ρ × σ) : List κ → σ → List ρ × σ
  | [], state => ([], state)
  | k :: rest, state =>
    let run := runAll step rest (step k state).2
    ((step k state).1 :: run.1, run.2)

/-- A change of a state: whether it succeeds, and the state that it leaves. -/
abbrev Edit (σ : Type) := σ → Except SelectionError Unit × σ

namespace Edit

variable {α σ : Type}

def completed : Except SelectionError Unit × σ → Except SelectionError σ
  | (.ok (), state) => .ok state
  | (.error e, _) => .error e

def each (edit : α → Edit σ) : List α → Edit σ
  | [], state => (.ok (), state)
  | a :: rest, state =>
    match edit a state with
    | (.ok (), state) => each edit rest state
    | (.error e, state) => (.error e, state)

def element (edit : Edit α) : Nat → Edit (List α)
  | _, [] => (.ok (), [])
  | 0, a :: rest => ((edit a).1, (edit a).2 :: rest)
  | i + 1, a :: rest => ((element edit i rest).1, a :: (element edit i rest).2)

def everyElement (edit : Edit α) : Edit (List α)
  | [] => (.ok (), [])
  | a :: rest =>
    match edit a with
    | (.ok (), a) => ((everyElement edit rest).1, a :: (everyElement edit rest).2)
    | (.error e, a) => (.error e, a :: rest)

end Edit

end SelectionAlgebra
