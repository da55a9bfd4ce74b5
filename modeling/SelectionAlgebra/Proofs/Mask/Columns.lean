import SelectionAlgebra.Mask.Evaluate
import SelectionAlgebra.Proofs.Expr.Names

/-!
Masks as tests on positions. Where every mask of a set is the table of a test over the same
positions, a compiled expression evaluates to the table of the combined test.
-/

namespace SelectionAlgebra

/-! ## Selected positions -/

theorem mem_selectedIndices (mask : List Bool) (i : Nat) :
    i ∈ selectedIndices mask ↔ mask[i]? = some true := by
  simp [selectedIndices, List.mem_map, List.mem_filter, List.mk_mem_zipIdx_iff_getElem?]

theorem ascending_selectedIndices (mask : List Bool) :
    (selectedIndices mask).Pairwise (· < ·) := by
  have positions : (selectedIndices mask).Sublist (mask.zipIdx.map (·.2)) :=
    List.filter_sublist.map _
  rw [List.zipIdx_map_snd] at positions
  exact (List.pairwise_lt_range' _).sublist positions

theorem getElem?_foldl_set (positions : List Nat) (mask : List Bool) (i : Nat) :
    (positions.foldl (fun mask i => mask.set i true) mask)[i]? =
      if i ∈ positions then mask[i]?.map fun _ => true else mask[i]? := by
  induction positions generalizing mask with
  | nil => simp
  | cons first rest ih =>
    rw [List.foldl_cons, ih, List.getElem?_set']
    by_cases here : first = i
    · subst here
      by_cases again : first ∈ rest
      · simp [again, Function.comp_def]
      · simp only [again, if_false, if_true, List.mem_cons, true_or]
        rfl
    · simp [here, Ne.symm here]

theorem maskOf_eq (size : Nat) (positions : List Nat) :
    maskOf size positions = (List.range size).map fun i => decide (i ∈ positions) := by
  apply List.ext_getElem?
  intro i
  rw [maskOf, getElem?_foldl_set, List.getElem?_replicate, List.getElem?_map]
  by_cases inside : i < size <;> by_cases member : i ∈ positions <;> simp [inside, member]

/-! ## Named values -/

namespace Named

variable {α : Type}

theorem place_of_not_mem {name : String} (value : α) {entries : List (Named α)}
    (fresh : name ∉ entries.map Named.name) :
    place name value entries = entries ++ [⟨name, value⟩] := by
  induction entries with
  | nil => rfl
  | cons entry rest ih =>
    simp only [List.map_cons, List.mem_cons, not_or] at fresh
    rw [place, if_neg (Ne.symm fresh.1), ih fresh.2, List.cons_append]

theorem find?_of_mem {entries : List (Named α)} (distinct : (entries.map Named.name).Nodup)
    {entry : Named α} (member : entry ∈ entries) :
    find? entries entry.name = some entry.value := by
  induction entries with
  | nil => cases member
  | cons first rest ih =>
    obtain ⟨fresh, distinct⟩ := List.nodup_cons.mp distinct
    rcases List.mem_cons.mp member with rfl | member
    · simp [find?]
    · have different : first.name ≠ entry.name := by
        intro same
        exact fresh (same ▸ List.mem_map_of_mem member)
      simpa [find?, different] using ih distinct member

theorem find?_eq_none_iff (entries : List (Named α)) (name : String) :
    find? entries name = none ↔ name ∉ entries.map Named.name := by
  simp [find?]

end Named

namespace MaskSet

variable {α : Type}

theorem contains_iff (masks : MaskSet α) (name : String) :
    masks.contains name = true ↔ name ∈ masks.names := by
  rw [contains, get?, names, Option.isSome_iff_ne_none, Ne, Named.find?_eq_none_iff,
    Decidable.not_not]

theorem entries_foldl_insert (entries : List (Named (List α))) (masks : MaskSet α)
    (distinct : ((masks.entries ++ entries).map Named.name).Nodup) :
    (entries.foldl (fun masks entry => masks.insert entry.name entry.value) masks).entries =
      masks.entries ++ entries := by
  induction entries generalizing masks with
  | nil => simp
  | cons entry rest ih =>
    have fresh : entry.name ∉ masks.entries.map Named.name := by
      rw [List.map_append, List.map_cons, List.nodup_append] at distinct
      exact fun member => distinct.2.2 _ member _ List.mem_cons_self rfl
    have grown : (masks.insert entry.name entry.value).entries = masks.entries ++ [entry] :=
      Named.place_of_not_mem entry.value fresh
    rw [List.foldl_cons, ih, grown, List.append_assoc, List.singleton_append]
    rwa [grown, List.append_assoc, List.singleton_append]

theorem entries_ofList {entries : List (Named (List α))}
    (distinct : (entries.map Named.name).Nodup) : (ofList entries).entries = entries :=
  entries_foldl_insert entries empty distinct

theorem commonLength_eq_ok {masks : MaskSet α} {n : Nat} (inhabited : masks.entries ≠ [])
    (each : ∀ entry ∈ masks.entries, entry.value.length = n) : masks.commonLength = .ok n := by
  unfold commonLength
  split
  · rename_i none
    exact absurd none inhabited
  · rename_i first rest all
    have length : first.value.length = n := each first (by simp [all])
    have equal : (rest.find? fun entry => entry.value.length != first.value.length) = none := by
      apply List.find?_eq_none.mpr
      intro entry member
      simp [length, each entry (by simp [all, member])]
    rw [length] at equal
    simp only [length, equal]

end MaskSet

/-! ## Tables -/

def Meaning.selects (names : List String) (leaf : String → Bool) : Meaning → Bool
  | .anyMask => names.any leaf
  | .tree e => e.holds leaf

theorem Expr.column_table (n : Nat) (test : String → Nat → Bool) (leaf : String → List Bool)
    (e : Expr) (tables : ∀ m, e.Mentions m → leaf m = (List.range n).map (test m)) :
    e.column leaf = (List.range n).map fun i => e.holds fun m => test m i := by
  induction e with
  | name m => exact tables m rfl
  | not e ih => simp [column, holds, ih tables]
  | and l r left right =>
    simp [column, holds, left fun m mentioned => tables m (.inl mentioned),
      right fun m mentioned => tables m (.inr mentioned), List.zipWith_map, List.zipWith_self]
  | or l r left right =>
    simp [column, holds, left fun m mentioned => tables m (.inl mentioned),
      right fun m mentioned => tables m (.inr mentioned), List.zipWith_map, List.zipWith_self]
  | xor l r left right =>
    simp [column, holds, left fun m mentioned => tables m (.inl mentioned),
      right fun m mentioned => tables m (.inr mentioned), List.zipWith_map, List.zipWith_self]

section

variable {α : Type} [MaskElement α]

theorem MaskSet.anyColumn_table {masks : MaskSet α} {n : Nat} {test : String → Nat → Bool}
    (tables : ∀ entry ∈ masks.entries,
      entry.value.map MaskElement.isSet = (List.range n).map (test entry.name)) :
    masks.anyColumn n = (List.range n).map fun i => masks.names.any fun m => test m i := by
  have grow : ∀ (entries : List (Named (List α))) (start : Nat → Bool),
      (∀ entry ∈ entries,
        entry.value.map MaskElement.isSet = (List.range n).map (test entry.name)) →
      entries.foldl (fun column entry =>
          List.zipWith (· || ·) column (entry.value.map MaskElement.isSet))
        ((List.range n).map start) =
      (List.range n).map fun i => start i || (entries.map Named.name).any fun m => test m i := by
    intro entries
    induction entries with
    | nil => intro start _; simp
    | cons entry rest ih =>
      intro start tables
      rw [List.foldl_cons, tables entry List.mem_cons_self, List.zipWith_map, List.zipWith_self,
        ih _ fun other member => tables other (List.mem_cons_of_mem _ member)]
      simp [Bool.or_assoc]
  have none : List.replicate n false = (List.range n).map fun _ => false := by
    simp [List.map_const']
  rw [anyColumn, none, grow _ _ tables]
  simp [names]

theorem Compiled.evaluate_table {compiled : Compiled} {masks : MaskSet α} {n : Nat}
    {test : String → Nat → Bool} (inhabited : masks.entries ≠ [])
    (needs : ∀ m, m ∈ compiled.names.entries ↔ compiled.meaning.Mentions m)
    (known : ∀ m ∈ compiled.names.entries, m ∈ masks.names)
    (tables : ∀ entry ∈ masks.entries,
      entry.value.map MaskElement.isSet = (List.range n).map (test entry.name)) :
    compiled.evaluate masks =
      .ok ((List.range n).map fun i => compiled.meaning.selects masks.names fun m => test m i) := by
  have complete : masks.missingName? compiled = none := by
    apply List.find?_eq_none.mpr
    intro m member
    simp [(masks.contains_iff m).mpr (known m member)]
  have lengths : masks.commonLength = .ok n := by
    apply MaskSet.commonLength_eq_ok inhabited
    intro entry member
    simpa using congrArg List.length (tables entry member)
  simp only [evaluate, complete, lengths]
  cases meaning : compiled.meaning with
  | anyMask => simp only [MaskSet.anyColumn_table tables, Meaning.selects]
  | tree e =>
    simp only [Meaning.selects]
    refine congrArg Except.ok (e.column_table n test _ ?_)
    intro m mentioned
    have member : m ∈ masks.names := by
      apply known
      rw [needs, meaning]
      exact mentioned
    obtain ⟨entry, present, rfl⟩ := List.mem_map.mp member
    rw [MaskSet.column, MaskSet.get?, Named.find?_of_mem masks.distinct present]
    exact tables entry present

end

end SelectionAlgebra
