import SelectionAlgebra.Config.Basic
import SelectionAlgebra.Proofs.Mask.Evaluation

/-!
Evaluation element by element. Masks are put in the place of names first, and then each element is
computed by itself. This gives what evaluation by whole columns gives, and no mask is ever read
beyond its end. So the elements can be computed in pieces as well, each by itself.
-/

namespace SelectionAlgebra

inductive Circuit (α : Type) where
  | leaf (mask : List α)
  | not (operand : Circuit α)
  | and (left right : Circuit α)
  | or (left right : Circuit α)
  | xor (left right : Circuit α)

inductive Program (α : Type) where
  | anyOf (leaves : List (List α))
  | circuit (circuit : Circuit α)

section

variable {α : Type} (masks : MaskSet α)

/-- A name without a mask becomes a mask without elements. -/
def Circuit.ofExpr : Expr → Circuit α
  | .name n => .leaf ((masks.get? n).getD [])
  | .not e => .not (ofExpr e)
  | .and l r => .and (ofExpr l) (ofExpr r)
  | .or l r => .or (ofExpr l) (ofExpr r)
  | .xor l r => .xor (ofExpr l) (ofExpr r)

def Program.ofCompiled (compiled : Compiled) : Program α :=
  match compiled.meaning with
  | .anyMask => .anyOf (masks.entries.map Named.value)
  | .tree e => .circuit (.ofExpr masks e)

end

variable {α : Type} [MaskElement α]

/-- The value at a position. A leaf that does not reach so far selects nothing there. -/
def Circuit.valueAt (i : Nat) : Circuit α → Bool
  | .leaf mask => selectsAt (some mask) i
  | .not c => !c.valueAt i
  | .and l r => l.valueAt i && r.valueAt i
  | .or l r => l.valueAt i || r.valueAt i
  | .xor l r => l.valueAt i ^^ r.valueAt i

/-- The value at a position, unless one of the leaves is read beyond its end. The leaves are read
until one selects the element. -/
def Program.valueAt? (i : Nat) : Program α → Option Bool
  | .anyOf leaves => leaves.anyM fun mask => mask[i]?.map MaskElement.isSet
  | .circuit c => some (c.valueAt i)

theorem Circuit.valueAt_ofExpr (masks : MaskSet α) (i : Nat) (e : Expr) :
    (ofExpr masks e).valueAt i = e.holds fun n => selectsAt (masks.get? n) i := by
  induction e with
  | name n =>
    simp only [ofExpr, valueAt, Expr.holds]
    cases masks.get? n <;> rfl
  | not e ih => simp only [ofExpr, valueAt, Expr.holds, ih]
  | and l r left right => simp only [ofExpr, valueAt, Expr.holds, left, right]
  | or l r left right => simp only [ofExpr, valueAt, Expr.holds, left, right]
  | xor l r left right => simp only [ofExpr, valueAt, Expr.holds, left, right]

theorem anyM_eq_some {i : Nat} {leaves : List (List α)}
    (inside : ∀ mask ∈ leaves, i < mask.length) :
    (leaves.anyM fun mask => mask[i]?.map MaskElement.isSet) =
      some (leaves.any fun mask => selectsAt (some mask) i) := by
  induction leaves with
  | nil => rfl
  | cons mask rest ih =>
    obtain ⟨here, others⟩ := List.forall_mem_cons.mp inside
    have read : mask[i]?.map MaskElement.isSet = some (selectsAt (some mask) i) := by
      simp [selectsAt, here]
    rw [List.anyM, read, List.any_cons, ih others]
    cases selectsAt (some mask) i <;> rfl

theorem MaskSet.any_entries (masks : MaskSet α) (i : Nat) :
    ((masks.entries.map Named.value).any fun mask => selectsAt (some mask) i) =
      masks.names.any fun n => selectsAt (masks.get? n) i := by
  have present (entry : Named (List α)) (member : entry ∈ masks.entries) :
      masks.get? entry.name = some entry.value := Named.find?_of_mem masks.distinct member
  rw [names, List.any_map, List.any_map, Bool.eq_iff_iff]
  simp only [List.any_eq_true, Function.comp_apply]
  constructor
  · rintro ⟨entry, member, selects⟩
    exact ⟨entry, member, by rwa [present entry member]⟩
  · rintro ⟨entry, member, selects⟩
    exact ⟨entry, member, by rwa [present entry member] at selects⟩

theorem Program.valueAt?_ofCompiled (compiled : Compiled) {masks : MaskSet α} {length i : Nat}
    (even : ∀ name ∈ masks.names, masks.length? name = some length) (inside : i < length) :
    (ofCompiled masks compiled).valueAt? i =
      some (compiled.meaning.selects masks.names fun n => selectsAt (masks.get? n) i) := by
  unfold ofCompiled
  cases compiled.meaning with
  | tree e => exact congrArg some (Circuit.valueAt_ofExpr masks i e)
  | anyMask =>
    have reaches : ∀ mask ∈ masks.entries.map Named.value, i < mask.length := by
      have lengths := (masks.forall_names_iff length).mp even
      simp only [List.forall_mem_map]
      intro entry member
      rw [lengths entry member]
      exact inside
    exact (anyM_eq_some reaches).trans (congrArg some (masks.any_entries i))

theorem Compiled.valueAt?_of_evaluate {compiled : Compiled} {masks : MaskSet α} {values : List Bool}
    (evaluated : compiled.evaluate masks = .ok values) {i : Nat} (inside : i < values.length) :
    (Program.ofCompiled masks compiled).valueAt? i = some values[i] := by
  cases (evaluate_iff ..).mp evaluated with
  | value complete even empty =>
    rw [List.length_map, List.length_range] at inside
    rw [Program.valueAt?_ofCompiled compiled even inside]
    simp

/-- Evaluation over the masks that a sequence of inserts leaves. For each name the mask that was
put there last counts, and the masks come in the order in which their names were first put. -/
theorem Compiled.evaluate_exact (compiled : Compiled) (inserts : List (Named (List α))) :
    (∀ result, compiled.evaluate (.ofList inserts) = result ↔
      compiled.Evaluates (Named.firstNames inserts) (Named.last? inserts) result) ∧
    ∀ values, compiled.evaluate (.ofList inserts) = .ok values →
      ∀ i (inside : i < values.length),
        (Program.ofCompiled (.ofList inserts) compiled).valueAt? i = some values[i] := by
  constructor
  · intro result
    rw [evaluate_iff, MaskSet.names_ofList, MaskSet.get?_ofList]
  · intro values evaluated i inside
    exact valueAt?_of_evaluate evaluated inside

/-- A mask is replaced, one is of no use, and one is missing without being asked for. -/
theorem Compiled.evaluate_exact_replaced :
    let compiled : Compiled := ⟨"a | c", .tree (.or (.name "a") (.name "c")), .empty⟩
    let inserts : List (Named (List Bool)) :=
      [⟨"a", [true]⟩, ⟨"b", [true, false]⟩, ⟨"a", [false, true]⟩]
    compiled.evaluate (.ofList inserts) = .ok [false, true] := by
  intro compiled inserts
  have even : ∀ n ∈ Named.firstNames inserts,
      (Named.last? inserts n).map List.length = some 2 := by decide
  have complete : ∀ n ∈ compiled.names.entries, Named.last? inserts n ≠ none := by
    intro n needed
    cases needed
  exact ((evaluate_exact compiled inserts).1 _).mpr (.value complete even (by decide))

/-! ## Pieces -/

/-- Where each piece of a mask begins, and how long it is. Short masks are left in one piece, and so
are all masks where pieces would have no length. -/
def EvalSettings.pieces (settings : EvalSettings) (length : Nat) : List (Nat × Nat) :=
  let chunk := settings.chunkLength.toNat
  if length < settings.parallelMinLength.toNat ∨ chunk = 0 then [(0, length)]
  else
    (List.range ((length + chunk - 1) / chunk)).map fun k =>
      (k * chunk, min chunk (length - k * chunk))

/-- The value at each position, or nothing where a leaf is read beyond its end. Every piece is
filled by itself, so it does not matter which one is filled first. -/
def Program.fill (settings : EvalSettings) (program : Program α) (length : Nat) :
    List (Option Bool) :=
  (settings.pieces length).flatMap fun piece =>
    (List.range' piece.1 piece.2).map fun i => program.valueAt? i

theorem flatMap_chunks (chunk length count : Nat) :
    (List.range count).flatMap (fun k => List.range' (k * chunk) (min chunk (length - k * chunk))) =
      List.range (min (count * chunk) length) := by
  induction count with
  | zero => simp
  | succ count ih =>
    rw [List.range_succ, List.flatMap_append, ih, List.flatMap_singleton, Nat.succ_mul]
    by_cases inside : count * chunk ≤ length
    · have reach : min (count * chunk + chunk) length =
          count * chunk + min chunk (length - count * chunk) := by omega
      rw [reach, Nat.min_eq_left inside, List.range_eq_range', List.range_eq_range',
        ← List.range'_append_1, Nat.zero_add]
    · have beyond : length - count * chunk = 0 := by omega
      have reach : min (count * chunk + chunk) length = min (count * chunk) length := by omega
      simp [beyond, reach]

theorem le_chunks {chunk : Nat} (several : 0 < chunk) (length : Nat) :
    length ≤ (length + chunk - 1) / chunk * chunk := by
  have rest := Nat.mod_lt (length + chunk - 1) several
  have whole := Nat.div_add_mod' (length + chunk - 1) chunk
  omega

theorem EvalSettings.flatMap_pieces (settings : EvalSettings) (length : Nat) :
    (settings.pieces length).flatMap (fun piece => List.range' piece.1 piece.2) =
      List.range length := by
  unfold pieces
  dsimp only
  split
  · simp [List.range_eq_range']
  · rename_i divided
    have several : 0 < settings.chunkLength.toNat := by omega
    rw [List.flatMap_map, flatMap_chunks, Nat.min_eq_right (le_chunks several length)]

theorem Program.fill_eq (settings : EvalSettings) (program : Program α) (length : Nat) :
    program.fill settings length = (List.range length).map fun i => program.valueAt? i := by
  rw [fill, ← settings.flatMap_pieces length, List.map_flatMap]

/-- However a mask is divided up, its pieces make up what evaluation in one pass gives. -/
theorem Compiled.fill_of_evaluate {compiled : Compiled} {masks : MaskSet α} {values : List Bool}
    (evaluated : compiled.evaluate masks = .ok values) (settings : EvalSettings) :
    (Program.ofCompiled masks compiled).fill settings values.length = values.map some := by
  rw [Program.fill_eq]
  apply List.ext_getElem (by simp)
  intro i inside _
  have here : i < values.length := by simpa using inside
  simp [valueAt?_of_evaluate evaluated here]

end SelectionAlgebra
