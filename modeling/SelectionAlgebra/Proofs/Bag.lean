import SelectionAlgebra.Proofs.Keyed
import SelectionAlgebra.Proofs.Property
import SelectionAlgebra.Proofs.Text.ByteOrder

/-!
Bags of qualifiers that are set, removed, cleared and collected from lists. Under each kind stands
the qualifier that was set last and not removed since.
-/

namespace SelectionAlgebra

theorem Text.not_lt_empty (s : String) : ¬ s < "" := by
  rw [lt_iff_bytes_lt]
  exact List.not_lt_nil _

/-! ## The order of kinds -/

namespace PropertyKey

theorem rank_eq_ctorIdx (k : PropertyKey) : k.rank = k.ctorIdx := by
  cases k <;> rfl

/-- The kinds come in the order in which they are declared, and extensions in that of the bytes of
their keys. -/
def Before (k l : PropertyKey) : Prop :=
  k.ctorIdx < l.ctorIdx ∨
    ∃ a b, k = .extension a ∧ l = .extension b ∧ Text.bytes a < Text.bytes b

theorem lt_iff_before (k l : PropertyKey) : k < l ↔ k.Before l := by
  have unfolded : k < l ↔ k.rank < l.rank ∨ k.rank = l.rank ∧ k.label < l.label := Iff.rfl
  rw [unfolded, rank_eq_ctorIdx, rank_eq_ctorIdx, Before]
  refine or_congr_right ?_
  constructor
  · rintro ⟨ranks, labels⟩
    cases l with
    | extension b =>
      cases k with
      | extension a => exact ⟨a, b, rfl, rfl, (Text.lt_iff_bytes_lt a b).mp labels⟩
      | _ => cases ranks
    | _ => exact absurd labels (Text.not_lt_empty _)
  · rintro ⟨a, b, rfl, rfl, below⟩
    exact ⟨rfl, (Text.lt_iff_bytes_lt a b).mpr below⟩

end PropertyKey

namespace Properties

/-! ## Sequences of changes -/

inductive Change where
  | set (p : Property)
  | remove (key : PropertyKey)
  | clear
  | collect (list : List Property)

namespace Change

def perform (properties : Properties) : Change → Properties
  | set p => properties.insert p
  | remove key => properties.erase key
  | clear => .empty
  | collect list => .ofList list

/-- The change says what is under the kind afterwards. -/
def Touches (key : PropertyKey) : Change → Prop
  | set p => p.key = key
  | remove k => k = key
  | clear | collect _ => True

def Leaves (p : Property) : Change → Prop
  | set q => q = p
  | remove _ | clear => False
  | collect list => Lasts (fun q => q.key = p.key) (fun q => q = p) list

theorem mem_perform_iff (properties : Properties) (change : Change) (p : Property) :
    p ∈ (change.perform properties).entries ↔
      change.Touches p.key ∧ change.Leaves p ∨ ¬ change.Touches p.key ∧ p ∈ properties.entries := by
  cases change with
  | set q => exact Keyed.mem_insert_iff properties q p
  | remove key => simpa [perform, Touches, Leaves] using Keyed.mem_erase_iff properties key p
  | clear => simp [perform, Touches, Leaves, Keyed.empty]
  | collect list => simpa [perform, Touches, Leaves] using Keyed.mem_ofList_iff list p

end Change

def afterAll (changes : List Change) : Properties :=
  changes.foldl Change.perform .empty

/-- The qualifier is what the last change that had to do with its kind left there. -/
def Stands (p : Property) (changes : List Change) : Prop :=
  Lasts (Change.Touches p.key) (Change.Leaves p) changes

theorem mem_afterAll_iff (changes : List Change) (p : Property) :
    p ∈ (afterAll changes).entries ↔ Stands p changes :=
  Lasts.foldl_iff (fun properties : Properties => p ∈ properties.entries)
    (fun properties change => Change.mem_perform_iff properties change p) List.not_mem_nil changes

theorem get?_afterAll_iff (changes : List Change) (key : PropertyKey) (p : Property) :
    (afterAll changes).get? key = some p ↔ p.key = key ∧ Stands p changes := by
  rw [Keyed.get?_eq_some_iff, mem_afterAll_iff, and_comm]

/-! ## Keys that are stored with the qualifiers -/

/-- A bag that is kept as a list of keys with what is stored under them. -/
abbrev Filed := List (PropertyKey × Property)

namespace Filed

def set (filed : Filed) (p : Property) : Filed :=
  Keyed.place Prod.fst (p.key, p) filed

def perform (filed : Filed) : Change → Filed
  | .set p => filed.set p
  | .remove key => filed.filter fun entry => !decide (entry.1 = key)
  | .clear => []
  | .collect list => list.foldl set []

def afterAll (changes : List Change) : Filed :=
  changes.foldl perform []

def ofBag (properties : Properties) : Filed :=
  properties.entries.map fun p => (p.key, p)

theorem set_ofBag (properties : Properties) (p : Property) :
    (ofBag properties).set p = ofBag (properties.insert p) :=
  (Keyed.map_place Prod.fst (fun p : Property => (p.key, p)) p properties.entries).symm

theorem perform_ofBag (properties : Properties) (change : Change) :
    (ofBag properties).perform change = ofBag (change.perform properties) := by
  cases change with
  | set p => exact set_ofBag properties p
  | remove key => exact List.filter_map ..
  | clear => rfl
  | collect list =>
    change list.foldl set (ofBag .empty) = ofBag (list.foldl Keyed.insert .empty)
    exact List.foldl_hom ofBag set_ofBag

/-- Each qualifier is stored under its own key, whatever was done. -/
theorem afterAll_eq (changes : List Change) :
    afterAll changes = ofBag (Properties.afterAll changes) := by
  change changes.foldl perform (ofBag .empty) = ofBag (changes.foldl Change.perform .empty)
  exact List.foldl_hom ofBag perform_ofBag

end Filed

/-! ## Main result -/

def InOrder (list : List Property) : Prop :=
  list.Pairwise fun p q => p.key.Before q.key

theorem inOrder_entries (properties : Properties) : InOrder properties.entries := by
  refine properties.ascending.imp ?_
  intro p q below
  exact (PropertyKey.lt_iff_before p.key q.key).mp below

theorem nodup_keys (properties : Properties) : (properties.entries.map Property.key).Nodup := by
  rw [List.Nodup, List.pairwise_map]
  refine properties.ascending.imp ?_
  intro p q below same
  exact KeyOrder.irrefl _ (same ▸ below)

/-- A bag is a map from kinds to qualifiers. Whatever was done to it, it holds under each kind what
was set there last and not removed since, one qualifier at most, stored under its own key and in the
order of the kinds; the readers of single qualifiers report it. A list that becomes a bag leaves the
last qualifier of each kind, and a bag comes back from the list of its qualifiers. -/
theorem afterAll_exact (changes : List Change) :
    ((∀ p, p ∈ (afterAll changes).entries ↔ Stands p changes) ∧
      ((afterAll changes).entries.map Property.key).Nodup ∧
      InOrder (afterAll changes).entries) ∧
    Filed.afterAll changes = (afterAll changes).entries.map (fun p => (p.key, p)) ∧
    (∀ key p, (afterAll changes).get? key = some p ↔ p.key = key ∧ Stands p changes) ∧
    ((afterAll changes).inverse = true ↔ Stands (.inverse true) changes) ∧
    (∀ v, (afterAll changes).epsilon? = some v ↔ Stands (.epsilon v) changes) ∧
    (∀ v, (afterAll changes).componentNumber? = some v ↔ Stands (.componentNumber v) changes) ∧
    (∀ list : List Property,
      InOrder (Keyed.ofList list : Properties).entries ∧
      ∀ p, p ∈ (Keyed.ofList list : Properties).entries ↔
        Lasts (fun q => q.key = p.key) (fun q => q = p) list) ∧
    Keyed.ofList (afterAll changes).entries = afterAll changes := by
  have reads (p : Property) : (afterAll changes).get? p.key = some p ↔ Stands p changes := by
    rw [get?_afterAll_iff, and_iff_right rfl]
  refine ⟨⟨mem_afterAll_iff changes, nodup_keys _, inOrder_entries _⟩, Filed.afterAll_eq changes,
    get?_afterAll_iff changes, ?_, fun v => ?_, fun v => ?_, fun list => ?_,
    Keyed.ofList_entries _⟩
  · exact inverse_eq_true_iff.trans (reads (.inverse true))
  · exact (epsilon?_eq_some_iff v).trans (reads (.epsilon v))
  · exact (componentNumber?_eq_some_iff v).trans (reads (.componentNumber v))
  · exact ⟨inOrder_entries _, Keyed.mem_ofList_iff list⟩

end Properties

end SelectionAlgebra
