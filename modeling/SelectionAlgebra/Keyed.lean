/-!
Lists with strictly ascending keys: the common form of a set of names and of a bag of properties.
There is at most one entry under a key, and the entries come in the order of their keys.
-/

namespace SelectionAlgebra

class KeyOrder (κ : Type) [LT κ] : Prop where
  irrefl (k : κ) : ¬ k < k
  trans {k l m : κ} : k < l → l < m → k < m
  eq_of_not_lt {k l : κ} : ¬ k < l → ¬ l < k → k = l

instance : KeyOrder String where
  irrefl := String.lt_irrefl
  trans := String.lt_trans
  eq_of_not_lt notBelow notAbove :=
    String.le_antisymm (String.not_lt.mp notAbove) (String.not_lt.mp notBelow)

structure Keyed {α κ : Type} [LT κ] (key : α → κ) where
  entries : List α
  ascending : entries.Pairwise fun a b => key a < key b

namespace Keyed

variable {α κ : Type} [LT κ] {key : α → κ}

instance [DecidableEq α] : DecidableEq (Keyed key) := fun s t =>
  decidable_of_iff (s.entries = t.entries) (by cases s; cases t; simp)

instance [BEq α] : BEq (Keyed key) where
  beq s t := s.entries == t.entries

def empty : Keyed key := ⟨[], .nil⟩

instance : Inhabited (Keyed key) := ⟨empty⟩

def place [DecidableLT κ] (key : α → κ) (a : α) : List α → List α
  | [] => [a]
  | b :: rest =>
    if key a < key b then a :: b :: rest
    else if key b < key a then b :: place key a rest
    else a :: rest

theorem mem_place [DecidableLT κ] {a x : α} {entries : List α}
    (member : x ∈ place key a entries) : x = a ∨ x ∈ entries := by
  induction entries with
  | nil => simpa [place] using member
  | cons b rest ih =>
    simp only [place] at member
    split at member
    · simpa using member
    · split at member
      · rcases List.mem_cons.mp member with h | h
        · exact .inr (by simp [h])
        · rcases ih h with h | h
          · exact .inl h
          · exact .inr (List.mem_cons_of_mem _ h)
      · rcases List.mem_cons.mp member with h | h
        · exact .inl h
        · exact .inr (List.mem_cons_of_mem _ h)

theorem ascending_place [DecidableLT κ] [KeyOrder κ] (a : α) {entries : List α}
    (ascending : entries.Pairwise fun a b => key a < key b) :
    (place key a entries).Pairwise fun a b => key a < key b := by
  induction entries with
  | nil => simp [place]
  | cons b rest ih =>
    obtain ⟨first, others⟩ := List.pairwise_cons.mp ascending
    simp only [place]
    split
    · rename_i below
      refine List.pairwise_cons.mpr ⟨?_, ascending⟩
      intro x member
      rcases List.mem_cons.mp member with rfl | member
      · exact below
      · exact KeyOrder.trans below (first x member)
    · split
      · rename_i above
        refine List.pairwise_cons.mpr ⟨?_, ih others⟩
        intro x member
        rcases mem_place member with rfl | member
        · exact above
        · exact first x member
      · rename_i notBelow notAbove
        have same : key a = key b := KeyOrder.eq_of_not_lt notBelow notAbove
        exact List.pairwise_cons.mpr ⟨fun x member => same ▸ first x member, others⟩

theorem place_of_last [DecidableLT κ] [KeyOrder κ] {a : α} {entries : List α}
    (last : ∀ b ∈ entries, key b < key a) : place key a entries = entries ++ [a] := by
  induction entries with
  | nil => rfl
  | cons b rest ih =>
    have below : key b < key a := last b List.mem_cons_self
    have notAbove : ¬ key a < key b := fun above => KeyOrder.irrefl _ (KeyOrder.trans below above)
    have others := ih fun c member => last c (List.mem_cons_of_mem _ member)
    rw [place, if_neg notAbove, if_pos below, others, List.cons_append]

theorem find?_place [DecidableLT κ] [KeyOrder κ] [DecidableEq κ] (a : α) (entries : List α)
    (k : κ) :
    (place key a entries).find? (fun b => decide (key b = k)) =
      if key a = k then some a else entries.find? fun b => decide (key b = k) := by
  induction entries with
  | nil => by_cases h : key a = k <;> simp [place, h]
  | cons b rest ih =>
    simp only [place]
    split
    · by_cases h : key a = k <;> simp [h]
    · split
      · rename_i above
        have different : key b ≠ key a := fun h => KeyOrder.irrefl _ (h ▸ above)
        by_cases h : key b = k
        · have other : key a ≠ k := fun same => different (h.trans same.symm)
          simp [h, other]
        · simp [h, ih]
      · rename_i notBelow notAbove
        have same : key a = key b := KeyOrder.eq_of_not_lt notBelow notAbove
        by_cases h : key a = k
        · simp [h]
        · simp [h, same ▸ h]

variable [DecidableLT κ] [KeyOrder κ]

def insert (s : Keyed key) (a : α) : Keyed key :=
  ⟨place key a s.entries, ascending_place a s.ascending⟩

/-- The entries of a list, the last one under each key. -/
def ofList (entries : List α) : Keyed key :=
  entries.foldl insert empty

theorem entries_foldl_insert {entries : List α} {s : Keyed key}
    (ascending : (s.entries ++ entries).Pairwise fun a b => key a < key b) :
    (entries.foldl insert s).entries = s.entries ++ entries := by
  induction entries generalizing s with
  | nil => rw [List.foldl_nil, List.append_nil]
  | cons a rest ih =>
    have last : ∀ b ∈ s.entries, key b < key a := fun b member =>
      (List.pairwise_append.mp ascending).2.2 b member a List.mem_cons_self
    have grown : (s.insert a).entries = s.entries ++ [a] := place_of_last last
    rw [List.foldl_cons, ih, grown, List.append_assoc, List.singleton_append]
    rwa [grown, List.append_assoc, List.singleton_append]

theorem ofList_entries (s : Keyed key) : ofList s.entries = s := by
  have entries : (ofList s.entries : Keyed key).entries = s.entries :=
    entries_foldl_insert s.ascending
  obtain ⟨listed, _⟩ := s
  cases again : (ofList listed : Keyed key)
  rw [again] at entries
  cases entries
  rfl

omit [DecidableLT κ] [KeyOrder κ]

def filter (s : Keyed key) (keep : α → Bool) : Keyed key :=
  ⟨s.entries.filter keep, s.ascending.filter keep⟩

def get? [DecidableEq κ] (s : Keyed key) (k : κ) : Option α :=
  s.entries.find? fun a => decide (key a = k)

def contains [DecidableEq κ] (s : Keyed key) (k : κ) : Bool :=
  (s.get? k).isSome

theorem find?_of_mem [KeyOrder κ] [DecidableEq κ] {a : α} {entries : List α}
    (ascending : entries.Pairwise fun a b => key a < key b) (member : a ∈ entries) :
    entries.find? (fun b => decide (key b = key a)) = some a := by
  induction entries with
  | nil => cases member
  | cons b rest ih =>
    obtain ⟨first, others⟩ := List.pairwise_cons.mp ascending
    rcases List.mem_cons.mp member with rfl | later
    · simp
    · have different : key b ≠ key a := fun same => KeyOrder.irrefl _ (same ▸ first a later)
      rw [List.find?_cons_of_neg (by simpa using different), ih others later]

theorem get?_eq_some_iff [KeyOrder κ] [DecidableEq κ] (s : Keyed key) (k : κ) (a : α) :
    s.get? k = some a ↔ a ∈ s.entries ∧ key a = k := by
  constructor
  · intro found
    exact ⟨List.mem_of_find?_eq_some found, by simpa using List.find?_some found⟩
  · rintro ⟨member, rfl⟩
    exact find?_of_mem s.ascending member

theorem get?_insert [DecidableLT κ] [KeyOrder κ] [DecidableEq κ] (s : Keyed key) (a : α) (k : κ) :
    (s.insert a).get? k = if key a = k then some a else s.get? k :=
  find?_place a s.entries k

def erase [DecidableEq κ] (s : Keyed key) (k : κ) : Keyed key :=
  s.filter fun a => !decide (key a = k)

theorem get?_erase [DecidableEq κ] (s : Keyed key) (k l : κ) :
    (s.erase k).get? l = if k = l then none else s.get? l := by
  simp only [get?, erase, filter, List.find?_filter]
  split
  · rename_i same
    subst same
    simp
  · rename_i different
    congr 1
    funext a
    by_cases h : key a = l
    · simp [h, Ne.symm different]
    · simp [h]

end Keyed

end SelectionAlgebra
