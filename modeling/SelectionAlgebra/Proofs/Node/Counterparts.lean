import Mathlib.Data.List.Perm.Basic
import SelectionAlgebra.Proofs.Failure
import SelectionAlgebra.Proofs.Newcomers
import SelectionAlgebra.Proofs.Node.Union

/-!
Which arrays belong together in a union. Where arrays go by their places, those at the same place;
where they go by names, the first of a name and the first of that name, the second and the second,
and so on. A union succeeds exactly if so each array has its counterpart and can take it in, and then
each array grows by what its counterpart has to add.
-/

namespace SelectionAlgebra

/-- Two places in lists of names belong together: they are the same or, where names count, they have
the same name and equally many places of that name before them. -/
def Counterpart (byName : Bool) (ours theirs : List (Option String)) (i j : Nat) : Prop :=
  if byName then
    ∃ name, ours[i]? = some name ∧ theirs[j]? = some name ∧
      ours.countBefore name i = theirs.countBefore name j
  else i = j

namespace Counterpart

variable {byName : Bool} {ours theirs : List (Option String)}

theorem comm {i j : Nat} : Counterpart byName ours theirs i j ↔ Counterpart byName theirs ours j i := by
  unfold Counterpart
  cases byName with
  | false => exact eq_comm
  | true =>
    exact exists_congr fun name =>
      ⟨fun facts => ⟨facts.2.1, facts.1, facts.2.2.symm⟩,
        fun facts => ⟨facts.2.1, facts.1, facts.2.2.symm⟩⟩

theorem existsUnique (lengths : ours.length = theirs.length)
    (names : byName = true → ours.Perm theirs) {i : Nat} (inside : i < ours.length) :
    ∃! j, j < theirs.length ∧ Counterpart byName ours theirs i j := by
  cases byName with
  | false => exact ⟨i, ⟨lengths ▸ inside, rfl⟩, fun j facts => facts.2.symm⟩
  | true =>
    -- the place of the occurrence that has as many before it
    have enough : ours.countBefore ours[i] i < theirs.count ours[i] := by
      rw [← (names rfl).count_eq]
      exact List.countBefore_lt_count_getElem
    have reached := List.idxOfNth_lt_length_of_lt_count enough
    refine ⟨_, ⟨reached, ours[i], List.getElem?_eq_getElem inside, ?_, ?_⟩, ?_⟩
    · rw [List.getElem?_eq_getElem reached, List.getElem_idxOfNth_eq]
    · exact (List.countBefore_idxOfNth_of_lt_count enough).symm
    · rintro j ⟨insideToo, name, here, there, counts⟩
      obtain ⟨_, rfl⟩ := List.getElem?_eq_some_iff.mp here
      obtain ⟨_, same⟩ := List.getElem?_eq_some_iff.mp there
      rw [counts]
      exact (List.idxOfNth_countBefore_of_lt_length_of_beq (beq_of_eq same)).symm

end Counterpart

theorem getElem?_filter_countPBefore {α : Type} {test : α → Bool} {as : List α} {i : Nat} {a : α}
    (there : as[i]? = some a) (passes : test a = true) :
    (as.filter test)[as.countPBefore test i]? = some a := by
  induction as generalizing i with
  | nil => cases there
  | cons first rest ih =>
    cases i with
    | zero =>
      cases there
      simp [passes]
    | succ i =>
      have later := ih there
      by_cases counted : test first = true <;> simp [counted, later]

namespace TupleArray

/-- The array with what the other one has to add: of single values the new ones, of tuples all. -/
def grown (array other : TupleArray) : TupleArray :=
  let added := if array.components = 1 then array.data.newcomers other.data else other.data
  { array with data := array.data.append added }

theorem absorb_eq_grown {array other : TupleArray} (agreed : array.conflict? other = none) :
    array.absorb other = array.grown other := by
  have type := ((conflict?_eq_none_iff ..).mp agreed).1
  unfold absorb grown
  by_cases single : array.components = 1
  · rw [if_pos single, if_pos single, Data.unite_eq type]
  · rw [if_neg single, if_neg single]

def hasName (name : Option String) (array : TupleArray) : Bool :=
  array.name == name

theorem hasName_eq_true_iff (name : Option String) (array : TupleArray) :
    hasName name array = true ↔ array.name = name :=
  beq_iff_eq

theorem countBefore_names (arrays : List TupleArray) (called : Option String) (i : Nat) :
    (arrays.map name).countBefore called i = arrays.countPBefore (hasName called) i := by
  rw [List.countBefore, List.countPBefore_eq_countP_take, List.countPBefore_eq_countP_take,
    ← List.map_take, List.countP_map]
  rfl

def SameByName (arrays others : List TupleArray) : Prop :=
  ∀ called, arrays.filter (hasName called) = others.filter (hasName called)

namespace SameByName

variable {arrays others : List TupleArray}

theorem cons (same : SameByName arrays others) (array : TupleArray) :
    SameByName (array :: arrays) (array :: others) := by
  intro called
  rw [List.filter_cons, List.filter_cons, same called]

theorem swap {array other : TupleArray} (different : array.name ≠ other.name)
    (rest : List TupleArray) : SameByName (array :: other :: rest) (other :: array :: rest) := by
  intro called
  simp only [List.filter_cons, hasName_eq_true_iff]
  by_cases named : array.name = called
  · have unlike : other.name ≠ called := fun same => different (named.trans same.symm)
    simp only [if_pos named, if_neg unlike]
  · simp only [if_neg named]

theorem of_cons {array other : TupleArray} (same : SameByName (array :: arrays) (other :: others))
    (named : array.name = other.name) : array = other ∧ SameByName arrays others := by
  have heads : array = other := by
    have first := same other.name
    rw [List.filter_cons_of_pos ((hasName_eq_true_iff ..).mpr named),
      List.filter_cons_of_pos ((hasName_eq_true_iff ..).mpr rfl)] at first
    exact (List.cons.inj first).1
  refine ⟨heads, fun called => ?_⟩
  have lists := same called
  rw [← heads, List.filter_cons, List.filter_cons] at lists
  split at lists
  · exact (List.cons.inj lists).2
  · exact lists

theorem name_mem {array : TupleArray} (same : SameByName (array :: arrays) others) :
    array.name ∈ others.map name := by
  have first : array ∈ others.filter (hasName array.name) := by
    rw [← same, List.mem_filter]
    exact ⟨List.mem_cons_self, (hasName_eq_true_iff ..).mpr rfl⟩
  exact List.mem_map_of_mem (List.mem_of_mem_filter first)

theorem getElem?_eq (same : SameByName arrays others) {i j : Nat}
    (belong : Counterpart true (arrays.map name) (others.map name) i j) :
    arrays[i]? = others[j]? := by
  obtain ⟨called, here, there, counts⟩ := belong
  rw [countBefore_names, countBefore_names] at counts
  rw [List.getElem?_map, Option.map_eq_some_iff] at here there
  obtain ⟨array, placed, named⟩ := here
  obtain ⟨other, placedToo, namedToo⟩ := there
  have found := getElem?_filter_countPBefore placed ((hasName_eq_true_iff ..).mpr named)
  have foundToo := getElem?_filter_countPBefore placedToo ((hasName_eq_true_iff ..).mpr namedToo)
  rw [counts, same called, foundToo] at found
  rw [placed, placedToo, found]

end SameByName

end TupleArray

namespace Node

/-! ## By names -/

theorem sameByName_of_takeNamed? {called : Option String} {arrays rest : List TupleArray}
    {found : TupleArray} (taken : takeNamed? called arrays = some (found, rest)) :
    TupleArray.SameByName (found :: rest) arrays := by
  induction arrays generalizing rest with
  | nil => cases taken
  | cons array others ih =>
    unfold takeNamed? at taken
    split at taken
    · cases taken
      exact fun _ => rfl
    · rename_i different
      cases later : takeNamed? called others with
      | none => rw [later] at taken; cases taken
      | some pair =>
        rw [later] at taken
        cases taken
        have apart : pair.1.name ≠ array.name := by
          rw [(takeNamed?_eq_some later).1]
          exact Ne.symm different
        intro name
        exact (TupleArray.SameByName.swap apart pair.2 name).trans ((ih later).cons array name)

theorem exists_takeNamed? {called : Option String} {arrays : List TupleArray}
    (there : called ∈ arrays.map TupleArray.name) :
    ∃ found rest, takeNamed? called arrays = some (found, rest) := by
  induction arrays with
  | nil => cases there
  | cons array others ih =>
    unfold takeNamed?
    split
    · exact ⟨array, others, rfl⟩
    · rename_i different
      rcases List.mem_cons.mp there with same | later
      · exact absurd same.symm different
      · obtain ⟨found, rest, taken⟩ := ih later
        exact ⟨found, array :: rest, by rw [taken]; rfl⟩

/-- Arrays with the same names can be put in the order of those names. -/
theorem exists_sameByName {ours theirs : List TupleArray}
    (names : (ours.map TupleArray.name).Perm (theirs.map TupleArray.name)) :
    ∃ partners : List TupleArray, partners.map TupleArray.name = ours.map TupleArray.name ∧
      TupleArray.SameByName partners theirs := by
  induction ours generalizing theirs with
  | nil =>
    have none : theirs = [] := List.map_eq_nil_iff.mp names.nil_eq.symm
    exact ⟨[], rfl, none ▸ fun _ => rfl⟩
  | cons array ours ih =>
    obtain ⟨found, rest, taken⟩ := exists_takeNamed? (names.subset List.mem_cons_self)
    obtain ⟨named, order⟩ := takeNamed?_eq_some taken
    have others : (ours.map TupleArray.name).Perm (rest.map TupleArray.name) := by
      have whole := names.trans (order.map TupleArray.name).symm
      rw [List.map_cons, List.map_cons, named] at whole
      exact whole.cons_inv
    obtain ⟨partners, namedToo, same⟩ := ih others
    refine ⟨found :: partners, ?_, ?_⟩
    · rw [List.map_cons, List.map_cons, named, namedToo]
    · intro called
      exact (same.cons found called).trans (sameByName_of_takeNamed? taken called)

theorem partnersByName_eq_ok_iff {ours theirs partners : List TupleArray}
    (lengths : ours.length = theirs.length) :
    partnersByName ours theirs = .ok partners ↔
      List.Forall₂ (Fits true) ours partners ∧ TupleArray.SameByName partners theirs := by
  induction ours generalizing theirs partners with
  | nil =>
    have none : theirs = [] := by simpa using lengths.symm
    rw [partnersByName, none, List.forall₂_nil_left_iff, Except.ok.injEq, eq_comm]
    constructor
    · rintro rfl
      exact ⟨rfl, fun _ => rfl⟩
    · exact And.left
  | cons array ours ih =>
    -- the others look for their partners in what the first one leaves
    rw [partnersByName_cons_eq_ok_iff]
    constructor
    · rintro ⟨partner, rest, taken, agreed, more, paired, rfl⟩
      have named := (takeNamed?_eq_some taken).1
      obtain ⟨fits, same⟩ := (ih (length_of_takeNamed? lengths taken)).mp paired
      refine ⟨.cons ⟨agreed, fun _ => named.symm⟩ fits, fun called => ?_⟩
      exact (same.cons partner called).trans (sameByName_of_takeNamed? taken called)
    · rintro ⟨fits, same⟩
      cases fits with
      | @cons _ partner _ more fit fits =>
        have there : array.name ∈ theirs.map TupleArray.name := by
          rw [fit.named rfl]
          exact same.name_mem
        obtain ⟨found, rest, taken⟩ := exists_takeNamed? there
        have heads : partner.name = found.name :=
          (fit.named rfl).symm.trans (takeNamed?_eq_some taken).1.symm
        obtain ⟨rfl, others⟩ := TupleArray.SameByName.of_cons
          (fun called => (same called).trans (sameByName_of_takeNamed? taken called).symm) heads
        exact ⟨partner, rest, taken, fit.agreed, more,
          (ih (length_of_takeNamed? lengths taken)).mpr ⟨fits, others⟩, rfl⟩

/-! ## Both ways of pairing -/

theorem partnersByPlace_of_fits {ours theirs : List TupleArray}
    (fits : List.Forall₂ (Fits false) ours theirs) : partnersByPlace ours theirs = .ok theirs := by
  induction fits with
  | nil => rfl
  | cons fit _ ih =>
    simp only [partnersByPlace, fit.agreed, ih]
    rfl

structure Merges (byName : Bool) (ours theirs : List TupleArray) : Prop where
  lengths : ours.length = theirs.length
  names : byName = true → (ours.map TupleArray.name).Perm (theirs.map TupleArray.name)
  agreed : ∀ i j,
    Counterpart byName (ours.map TupleArray.name) (theirs.map TupleArray.name) i j →
    ∀ array partner, ours[i]? = some array → theirs[j]? = some partner →
      array.elementType = partner.elementType ∧ array.components = partner.components

section

variable {byName : Bool} {ours theirs partners : List TupleArray}

theorem Merges.symm (merges : Merges byName ours theirs) : Merges byName theirs ours where
  lengths := merges.lengths.symm
  names named := (merges.names named).symm
  agreed := by
    intro i j belong array partner here there
    obtain ⟨type, components⟩ := merges.agreed j i (Counterpart.comm.mp belong) _ _ there here
    exact ⟨type.symm, components.symm⟩

theorem names_of_fits (fits : List.Forall₂ (Fits true) ours partners) :
    partners.map TupleArray.name = ours.map TupleArray.name := by
  induction fits with
  | nil => rfl
  | cons fit _ ih => rw [List.map_cons, List.map_cons, fit.named rfl, ih]

theorem getElem?_partnersBy (lengths : ours.length = theirs.length)
    (paired : partnersBy byName ours theirs = .ok partners) {i j : Nat}
    (belong : Counterpart byName (ours.map TupleArray.name) (theirs.map TupleArray.name) i j) :
    partners[i]? = theirs[j]? := by
  cases byName with
  | false =>
    obtain ⟨rfl, -⟩ := partnersByPlace_spec lengths paired
    cases belong
    rfl
  | true =>
    obtain ⟨fits, same⟩ := (partnersByName_eq_ok_iff lengths).mp paired
    rw [← names_of_fits fits] at belong
    exact same.getElem?_eq belong

theorem merges_of_partnersBy (lengths : ours.length = theirs.length)
    (paired : partnersBy byName ours theirs = .ok partners) : Merges byName ours theirs := by
  obtain ⟨order, fits⟩ := partnersBy_spec lengths paired
  refine ⟨lengths, ?_, ?_⟩
  · rintro rfl
    rw [← names_of_fits fits]
    exact order.map TupleArray.name
  · intro i j belong array partner here there
    rw [← getElem?_partnersBy lengths paired belong] at there
    obtain ⟨inside, rfl⟩ := List.getElem?_eq_some_iff.mp here
    obtain ⟨insideToo, rfl⟩ := List.getElem?_eq_some_iff.mp there
    exact (TupleArray.conflict?_eq_none_iff ..).mp (fits.get inside insideToo).agreed

theorem Merges.fits (merges : Merges byName ours theirs) (lengths : ours.length = partners.length)
    (names : byName = true → partners.map TupleArray.name = ours.map TupleArray.name)
    (ordered : ∀ i j,
      Counterpart byName (ours.map TupleArray.name) (theirs.map TupleArray.name) i j →
        partners[i]? = theirs[j]?) :
    List.Forall₂ (Fits byName) ours partners := by
  rw [List.forall₂_iff_get]
  refine ⟨lengths, fun i inside insideToo => ?_⟩
  obtain ⟨j, ⟨-, belong⟩, -⟩ := Counterpart.existsUnique (i := i)
    (by simpa using merges.lengths) merges.names (by simpa using inside)
  have here : ours[i]? = some ours[i] := List.getElem?_eq_getElem inside
  have there : theirs[j]? = some partners[i] :=
    (ordered i j belong).symm.trans (List.getElem?_eq_getElem insideToo)
  refine ⟨(TupleArray.conflict?_eq_none_iff ..).mpr (merges.agreed i j belong _ _ here there), ?_⟩
  intro named
  have same := congrArg (fun names => names[i]?) (names named)
  simpa [insideToo, inside] using same.symm

theorem exists_partnersBy (merges : Merges byName ours theirs) :
    ∃ partners, partnersBy byName ours theirs = .ok partners := by
  cases byName with
  | false =>
    have fits : List.Forall₂ (Fits false) ours theirs :=
      merges.fits merges.lengths nofun fun i j belong => congrArg (theirs[·]?) belong
    exact ⟨theirs, partnersByPlace_of_fits fits⟩
  | true =>
    obtain ⟨partners, named, same⟩ := exists_sameByName (merges.names rfl)
    have lengths : ours.length = partners.length := by
      simpa using (congrArg List.length named).symm
    have fits : List.Forall₂ (Fits true) ours partners := by
      refine merges.fits lengths (fun _ => named) fun i j belong => same.getElem?_eq ?_
      rwa [named]
    exact ⟨partners, (partnersByName_eq_ok_iff merges.lengths).mpr ⟨fits, same⟩⟩

end

/-! ## Unions of nodes -/

theorem partnersBy_failsOnly (byName : Bool) (ours theirs : List TupleArray) :
    FailsOnly (fun e => ∃ reason, e = .mismatch reason) (partnersBy byName ours theirs) := by
  cases byName with
  | false =>
    change FailsOnly _ (partnersByPlace ours theirs)
    fun_induction partnersByPlace ours theirs with
    | case1 array ours partner theirs reason _ => exact .error ⟨reason, rfl⟩
    | case2 array ours partner theirs _ ih => exact .map _ ih
    | case3 ours theirs _ => exact .ok _
  | true =>
    change FailsOnly _ (partnersByName ours theirs)
    fun_induction partnersByName ours theirs with
    | case1 theirs => exact .ok _
    | case2 theirs array ours _ => exact .error ⟨_, rfl⟩
    | case3 theirs array ours partner rest _ reason _ => exact .error ⟨reason, rfl⟩
    | case4 theirs array ours partner rest _ _ ih => exact .map _ ih

def Unitable (node other : Node) : Prop :=
  node.content = other.content ∧ node.content.supportsUnion = true

def MergesWith (node other : Node) : Prop :=
  Merges node.content.pairsByName node.arrays other.arrays

def Pairs (node other : Node) : Nat → Nat → Prop :=
  Counterpart node.content.pairsByName (node.arrays.map TupleArray.name)
    (other.arrays.map TupleArray.name)

section

variable {node other : Node}

theorem partners_of_not_unitable (unfit : ¬ node.Unitable other) :
    node.partners other = .error (.incompatible .union node.content other.content) := by
  unfold Node.partners
  rw [if_pos]
  simpa [Unitable, or_iff_not_imp_left] using unfit

theorem partners_of_unitable (fit : node.Unitable other) :
    node.partners other =
      if node.arrays.length ≠ other.arrays.length then
        .error (.mismatch (.arrayCounts node.arrays.length other.arrays.length))
      else partnersBy node.content.pairsByName node.arrays other.arrays := by
  unfold Node.partners
  rw [if_neg (by simpa [fit.2] using fit.1)]
  rfl

theorem partners_of_mergesWith (fit : node.Unitable other) (merges : node.MergesWith other) :
    ∃ partners, node.partners other = .ok partners ∧
      ∀ i j, node.Pairs other i j → partners[i]? = other.arrays[j]? := by
  obtain ⟨partners, paired⟩ := exists_partnersBy merges
  refine ⟨partners, ?_, fun i j belong => getElem?_partnersBy merges.lengths paired belong⟩
  rw [partners_of_unitable fit, if_neg (not_not.mpr merges.lengths), paired]

theorem partners_of_not_mergesWith (fit : node.Unitable other) (unlike : ¬ node.MergesWith other) :
    ∃ reason, node.partners other = .error (.mismatch reason) := by
  rw [partners_of_unitable fit]
  split
  · exact ⟨_, rfl⟩
  · rename_i lengths
    rw [ne_eq, not_not] at lengths
    cases paired : partnersBy node.content.pairsByName node.arrays other.arrays with
    | ok partners => exact absurd (merges_of_partnersBy lengths paired) unlike
    | error e =>
      obtain ⟨reason, rfl⟩ := partnersBy_failsOnly _ _ _ e paired
      exact ⟨reason, rfl⟩

theorem MergesWith.symm (fit : node.Unitable other) (merges : node.MergesWith other) :
    other.MergesWith node := by
  unfold MergesWith
  rw [← fit.1]
  exact Merges.symm merges

theorem Unitable.symm (fit : node.Unitable other) : other.Unitable node :=
  ⟨fit.1.symm, fit.1 ▸ fit.2⟩

theorem union_of_mergesWith (fit : node.Unitable other) (merges : node.MergesWith other) :
    ∃ arrays, node.union other = (.ok (), { node with arrays }) ∧
      arrays.length = node.arrays.length ∧
      ∀ i j, node.Pairs other i j → ∀ array partner, node.arrays[i]? = some array →
        other.arrays[j]? = some partner → arrays[i]? = some (array.grown partner) := by
  obtain ⟨partners, paired, ordered⟩ := partners_of_mergesWith fit merges
  obtain ⟨-, -, -, fits⟩ := partners_spec paired
  refine ⟨List.zipWith TupleArray.absorb node.arrays partners, ?_, ?_, ?_⟩
  · rw [union_eq, paired]
  · rw [List.length_zipWith, ← fits.length_eq, Nat.min_self]
  · intro i j belong array partner here there
    have placed : partners[i]? = some partner := (ordered i j belong).trans there
    obtain ⟨inside, rfl⟩ := List.getElem?_eq_some_iff.mp here
    obtain ⟨insideToo, rfl⟩ := List.getElem?_eq_some_iff.mp placed
    have agreed := (fits.get inside insideToo).agreed
    rw [List.getElem?_zipWith, here, placed]
    exact congrArg some (TupleArray.absorb_eq_grown agreed)

theorem union_eq_ok_iff :
    (node.union other).1 = .ok () ↔ node.Unitable other ∧ node.MergesWith other := by
  constructor
  · intro succeeded
    have fit : node.Unitable other := by
      by_contra unfit
      rw [union_eq, partners_of_not_unitable unfit] at succeeded
      cases succeeded
    refine ⟨fit, ?_⟩
    by_contra unlike
    obtain ⟨reason, failed⟩ := partners_of_not_mergesWith fit unlike
    rw [union_eq, failed] at succeeded
    cases succeeded
  · rintro ⟨fit, merges⟩
    obtain ⟨arrays, done, -⟩ := union_of_mergesWith fit merges
    rw [done]

end

/-- When a union succeeds, what it leaves, and how it fails. The arrays that belong together do so
one to one; a failure leaves all as it was. -/
theorem union_exact (node other : Node) :
    ((node.union other).1 = .ok () ↔ node.Unitable other ∧ node.MergesWith other) ∧
    (node.Unitable other → node.MergesWith other →
      (∀ i < node.arrays.length, ∃! j, j < other.arrays.length ∧ node.Pairs other i j) ∧
      (∀ j < other.arrays.length, ∃! i, i < node.arrays.length ∧ node.Pairs other i j) ∧
      ∃ arrays, node.union other = (.ok (), { node with arrays }) ∧
        arrays.length = node.arrays.length ∧
        ∀ i j, node.Pairs other i j → ∀ array partner, node.arrays[i]? = some array →
          other.arrays[j]? = some partner → arrays[i]? = some (array.grown partner)) ∧
    (¬ node.Unitable other →
      node.union other = (.error (.incompatible .union node.content other.content), node)) ∧
    (node.Unitable other → ¬ node.MergesWith other →
      ∃ reason, node.union other = (.error (.mismatch reason), node)) ∧
    node.checkUnion other = (node.union other).1 ∧
    (node.checkUnion other = .ok () ↔ other.checkUnion node = .ok ()) := by
  refine ⟨union_eq_ok_iff, ?_, ?_, ?_, (union_result node other).symm, ?_⟩
  · intro fit merges
    have lengths : (node.arrays.map TupleArray.name).length =
        (other.arrays.map TupleArray.name).length := by
      simpa using merges.lengths
    refine ⟨fun i inside => ?_, fun j inside => ?_, union_of_mergesWith fit merges⟩
    · simpa only [List.length_map, Pairs] using
        Counterpart.existsUnique lengths merges.names (by simpa using inside)
    · simpa only [List.length_map, Pairs, Counterpart.comm] using
        Counterpart.existsUnique lengths.symm (fun named => (merges.names named).symm)
          (by simpa using inside)
  · intro unfit
    rw [union_eq, partners_of_not_unitable unfit]
  · intro fit unlike
    obtain ⟨reason, failed⟩ := partners_of_not_mergesWith fit unlike
    exact ⟨reason, by rw [union_eq, failed]⟩
  · rw [← union_result, ← union_result, union_eq_ok_iff, union_eq_ok_iff]
    exact ⟨fun facts => ⟨facts.1.symm, facts.2.symm facts.1⟩,
      fun facts => ⟨facts.1.symm, facts.2.symm facts.1⟩⟩

/-- Two arrays of one name and pairs without a name, which stand elsewhere in the other node. -/
theorem union_exact_repeated :
    let pairs : TupleArray := { name := none, components := 2, data := .ints [1, 2] }
    let named (values : List Int32) : TupleArray :=
      { name := some "x", components := 1, data := .ints values }
    let node := { bare .values .cell with arrays := [named [1, 2], named [5], pairs] }
    let other := { bare .values .cell with arrays := [pairs, named [2, 3, 3], named [5]] }
    (node.Pairs other 0 1 ∧ node.Pairs other 1 2 ∧ node.Pairs other 2 0) ∧
      node.MergesWith other ∧ other.checkUnion node = .ok () ∧
      (node.union other).2.arrays =
        [named [1, 2, 3], named [5], { pairs with data := .ints [1, 2, 1, 2] }] := by
  intro pairs named node other
  obtain ⟨succeeds, -, -, -, -, either⟩ := union_exact node other
  have accepted : node.checkUnion other = .ok () := by decide
  have merges := (succeeds.mp ((union_result node other).trans accepted)).2
  have belong : node.Pairs other 0 1 ∧ node.Pairs other 1 2 ∧ node.Pairs other 2 0 :=
    ⟨⟨some "x", rfl, rfl, by decide⟩, ⟨some "x", rfl, rfl, by decide⟩, ⟨none, rfl, rfl, by decide⟩⟩
  exact ⟨belong, merges, either.mp accepted, by decide⟩

end Node

end SelectionAlgebra
