import SelectionAlgebra.Json.Reader
import SelectionAlgebra.Proofs.Json.Scanning

/-!
Readers on the texts of the values that they are meant for. Such a text is read back, or it holds a
number that has no notation and is refused for its shape. Which of the two it is carries over from
the parts of a value to the whole: lists, records and variants are read back when all of their parts
are.
-/

namespace SelectionAlgebra

/-- The text of the double is that of a number, and this number is the double. -/
def Double.ReadsBack (x : Double) : Prop :=
  ∃ n, Json.number (x.text .json) = .ok (n, []) ∧ n.toDouble = x

namespace Json

/-! ## Blanks -/

def Starts (text : List Char) : Prop :=
  ∃ c more, text = c :: more ∧ isSpace c = false ∧ c ≠ ']'

theorem skipSpaces_newLine (depth : Nat) (cs : List Char) :
    skipSpaces (newLine depth ++ cs) = skipSpaces cs := by
  apply List.dropWhile_append_of_pos
  intro c member
  rcases List.mem_cons.mp member with rfl | blank
  · rfl
  · rw [List.eq_of_mem_replicate blank]
    rfl

theorem Starts.skipSpaces_append {text : List Char} (starts : Starts text) (rest : List Char) :
    skipSpaces (text ++ rest) = text ++ rest := by
  obtain ⟨c, more, rfl, visible, -⟩ := starts
  simp only [skipSpaces, List.cons_append, List.dropWhile_cons, visible, Bool.false_eq_true,
    if_false]

theorem Starts.length_pos {text : List Char} (starts : Starts text) : 0 < text.length := by
  obtain ⟨c, more, rfl, -, -⟩ := starts
  exact Nat.zero_lt_succ _

theorem ends_newLine (depth : Nat) (cs : List Char) : Ends (newLine depth ++ cs) := by
  rintro c ⟨⟩
  exact .inr rfl

theorem colon_cons (cs : List Char) : colon (':' :: cs) = .ok cs := rfl

theorem close_newLine (bracket : Char) (visible : isSpace bracket = false) (depth : Nat)
    (rest : List Char) : close bracket (newLine depth ++ bracket :: rest) = .ok rest := by
  have skipped : skipSpaces (bracket :: rest) = bracket :: rest := by
    simp only [skipSpaces, List.dropWhile_cons, visible, Bool.false_eq_true, if_false]
  rw [close, skipSpaces_newLine, skipped]
  exact if_pos rfl

/-! ## Values -/

/-- Wherever the text of the value stands, it is read as `a` if it is whole, and otherwise refused
for its shape. -/
structure Restores {α : Type} (read : Reader α) (value : Value) (whole : Bool) (a : α) :
    Prop where
  starts : ∀ depth, Starts (value.chars depth)
  reads : ∀ depth cs rest, skipSpaces cs = value.chars depth ++ rest → Ends rest →
    read cs = if whole then .ok (a, rest) else .error .wrongShape

section

variable {α β : Type} {read : Reader α} {value : Value} {whole : Bool} {a : α}

theorem Restores.reads_append (restores : Restores read value whole a) (depth : Nat)
    {rest : List Char} (ends : Ends rest) :
    read (value.chars depth ++ rest) =
      if whole then .ok (a, rest) else .error .wrongShape :=
  restores.reads depth _ _ ((restores.starts depth).skipSpaces_append rest) ends

theorem Restores.reads_blank (restores : Restores read value whole a) (depth : Nat)
    {rest : List Char} (ends : Ends rest) :
    read (' ' :: (value.chars depth ++ rest)) =
      if whole then .ok (a, rest) else .error .wrongShape :=
  restores.reads depth _ _ ((restores.starts depth).skipSpaces_append rest) ends

theorem Restores.map (restores : Restores read value whole a) (f : α → β) :
    Restores (fun cs => (read cs).map fun read => (f read.1, read.2)) value whole (f a) where
  starts := restores.starts
  reads := by
    intro depth cs rest skipped ends
    simp only [restores.reads depth cs rest skipped ends]
    cases whole <;> rfl

end

theorem restores_bool (value : Bool) : Restores readBool (.bool value) true value where
  starts := by
    intro depth
    cases value <;> exact ⟨_, _, rfl, by decide, by decide⟩
  reads := by
    intro depth cs rest skipped _
    cases value <;> simp only [readBool, skipped] <;> rfl

/-! ### Strings -/

theorem stringChars_append (s : String) (rest : List Char) :
    stringChars s ++ rest = '"' :: (s.toList.flatMap escaped ++ '"' :: rest) := by
  simp [stringChars]

theorem starts_stringChars (s : String) : Starts (stringChars s) :=
  ⟨'"', _, rfl, rfl, by decide⟩

theorem restores_string (s : String) : Restores readString (.string s) true s where
  starts _ := starts_stringChars s
  reads := by
    intro depth cs rest skipped _
    rw [Value.chars, stringChars_append] at skipped
    simp only [readString, skipped, stringRest_flatMap_escaped, Except.map, String.ofList_toList,
      if_true]

def Value.ofName? : Option String → Value
  | some name => .string name
  | none => .null

theorem restores_name? (name : Option String) :
    Restores (readOption readString) (.ofName? name) true name where
  starts := by
    intro depth
    cases name with
    | none => exact ⟨_, _, rfl, by decide, by decide⟩
    | some name => exact starts_stringChars name
  reads := by
    intro depth cs rest skipped ends
    cases name with
    | none =>
      simp only [readOption, skipped]
      rfl
    | some name =>
      have read := (restores_string name).reads_append depth ends
      rw [Value.ofName?, Value.chars, stringChars_append] at skipped
      rw [Value.chars, stringChars_append] at read
      simp only [readOption, skipped]
      change (readString _).map _ = _
      rw [read]
      rfl

/-! ### Numbers -/

theorem head_of_number {text rest : List Char} {n : Number}
    (accepted : number text = .ok (n, rest)) :
    ∃ c more, text = c :: more ∧ (c == '-' || isDigit c) = true := by
  cases text with
  | nil => cases accepted
  | cons c more =>
    refine ⟨c, more, rfl, ?_⟩
    by_cases minus : c = '-'
    · simp [minus]
    · rw [number_of_ne_minus minus, unsignedNumber_cons] at accepted
      split at accepted
      · rename_i first
        rw [(Bool.and_eq_true_iff.mp first).1, Bool.or_true]
      · cases accepted

theorem isSpace_eq_false {c : Char} (first : (c == '-' || isDigit c) = true) :
    isSpace c = false := by
  rw [Bool.eq_false_iff]
  intro blank
  simp only [isSpace, Bool.or_eq_true, beq_iff_eq] at blank
  rcases blank with ((rfl | rfl) | rfl) | rfl <;> cases first

theorem restores_number {α : Type} {make : Number → Option α} {value : Value} {text : List Char}
    (written : ∀ depth, value.chars depth = text) {n : Number} {a : α}
    (accepted : number text = .ok (n, [])) (made : make n = some a) :
    Restores (readNumber make) value true a := by
  obtain ⟨c, more, rfl, first⟩ := head_of_number accepted
  constructor
  · intro depth
    rw [written]
    refine ⟨c, more, rfl, isSpace_eq_false first, ?_⟩
    rintro rfl
    cases first
  · intro depth cs rest skipped ends
    rw [written, List.cons_append] at skipped
    have read := ends.number_append accepted
    rw [List.cons_append] at read
    simp only [readNumber, skipped, first, if_true, read, made, List.nil_append]

theorem restores_whole {α : Type} {low high n : Int} (make : Int → α)
    (range : Int64.minValue.toInt ≤ low ∧ high < (UInt64.size : Nat))
    (inside : low ≤ n ∧ n ≤ high) : Restores (readWhole low high make) (.int n) true (make n) := by
  have accepted := number_toString (Int.le_trans range.1 inside.1)
    (Int.lt_of_le_of_lt inside.2 range.2)
  apply restores_number (fun _ => rfl) accepted
  have whole : wholeIn low high (.ofInt n) = some n := by
    cases n <;> exact if_pos inside
  rw [whole, Option.map_some]

theorem restores_natural {α : Type} {size n : Nat} (make : Int → α) (words : size ≤ UInt64.size)
    (inside : n < size) : Restores (readWhole 0 (size - 1 : Nat) make) (.int n) true (make n) := by
  apply restores_whole make
  · exact ⟨by decide, by omega⟩
  · omega

theorem restores_int64 (v : Int64) : Restores readInt64 (.int v.toInt) true v := by
  have restores := restores_whole Int64.ofInt (by decide) ⟨v.minValue_le_toInt, v.toInt_le⟩
  rwa [Int64.ofInt_toInt] at restores

theorem restores_int32 (v : Int32) : Restores readInt32 (.int v.toInt) true v := by
  have restores := restores_whole Int32.ofInt (by decide) ⟨v.minValue_le_toInt, v.toInt_le⟩
  rwa [Int32.ofInt_toInt] at restores

theorem restores_uint32 (v : UInt32) : Restores readUInt32 (.int v.toNat) true v := by
  have restores := restores_natural (fun n => UInt32.ofNat n.toNat) (by decide) v.toNat_lt
  rwa [Int.toNat_natCast, UInt32.ofNat_toNat] at restores

theorem restores_uint64 (v : UInt64) : Restores readUInt64 (.int v.toNat) true v := by
  have restores := restores_natural (fun n => UInt64.ofNat n.toNat) (by decide) v.toNat_lt
  rwa [Int.toNat_natCast, UInt64.ofNat_toNat] at restores

theorem restores_size {n : Nat} (fits : n < UInt64.size) : Restores readSize (.int n) true n :=
  restores_natural Int.toNat (Nat.le_refl _) fits

theorem restores_double (x : Double) (readsBack : x.isFinite = true → x.ReadsBack) :
    Restores readDouble (.double x) x.isFinite x := by
  cases finite : x.isFinite with
  | true =>
    obtain ⟨n, accepted, same⟩ := readsBack finite
    refine restores_number (fun depth => ?_) accepted (congrArg some same)
    rw [Value.chars, doubleChars, finite, if_pos rfl]
  | false =>
    -- what stands in its place is `null`, which is no number
    have written (depth : Nat) : (Value.double x).chars depth = ['n', 'u', 'l', 'l'] := by
      rw [Value.chars, doubleChars, finite, if_neg Bool.false_ne_true]
    constructor
    · intro depth
      rw [written]
      exact ⟨_, _, rfl, by decide, by decide⟩
    · intro depth cs rest skipped _
      rw [written] at skipped
      simp only [readDouble, readNumber, skipped]
      rfl

/-! ### Lists -/

section

variable {α : Type} {read : Reader α} {stored : α → Value} {whole : α → Bool}

theorem nextItem_newLine (first : Bool) (depth : Nat) (rest : List Char) :
    nextItem first (newLine depth ++ ']' :: rest) = .ok none := by
  rw [nextItem, skipSpaces_newLine]
  rfl

theorem nextItem_first {depth : Nat} {text : List Char} (starts : Starts text) (rest : List Char) :
    nextItem true (newLine depth ++ (text ++ rest)) = .ok (some (text ++ rest)) := by
  rw [nextItem, skipSpaces_newLine, starts.skipSpaces_append]
  obtain ⟨c, more, rfl, -, item⟩ := starts
  simp only [List.cons_append, if_neg item, if_true]

theorem nextItem_comma {depth : Nat} {text : List Char} (starts : Starts text) (rest : List Char) :
    nextItem false (',' :: (newLine depth ++ (text ++ rest))) = .ok (some (text ++ rest)) := by
  have skipped : skipSpaces (',' :: (newLine depth ++ (text ++ rest))) =
      ',' :: (newLine depth ++ (text ++ rest)) := rfl
  rw [nextItem, skipped]
  simp only [skipSpaces_newLine, starts.skipSpaces_append]
  obtain ⟨c, more, rfl, -, item⟩ := starts
  simp only [List.cons_append, Bool.false_eq_true, if_false, if_true]
  rw [if_neg (by decide)]
  split
  · rename_i none
    cases none
  · rename_i same
    cases same
    exact absurd rfl item
  · rfl

theorem items_step {value : Value} {whole first : Bool} {a : α}
    (restores : Restores read value whole a) {depth : Nat} {cs rest : List Char}
    (next : nextItem first cs = .ok (some (value.chars depth ++ rest))) (ends : Ends rest)
    (shorter : rest.length < cs.length) :
    items read first cs =
      if whole then (items read false rest).map fun read => (a :: read.1, read.2)
      else .error .wrongShape := by
  rw [items, next]
  simp only [restores.reads_append depth ends]
  cases whole with
  | false => rfl
  | true =>
    simp only [if_true, shorter]
    cases items read false rest <;> rfl

theorem ends_itemChars (depth : Nat) (values : List Value) (outer : Nat) (cs : List Char) :
    Ends (itemChars depth values ++ (newLine outer ++ cs)) := by
  cases values with
  | nil =>
    rw [itemChars]
    exact ends_newLine outer cs
  | cons value values =>
    rw [itemChars]
    rintro c ⟨⟩
    exact .inl rfl

theorem items_itemChars {as : List α}
    (each : ∀ a ∈ as, Restores read (stored a) (whole a) a) (depth outer : Nat)
    (rest : List Char) :
    items read false (itemChars depth (as.map stored) ++ (newLine outer ++ ']' :: rest)) =
      if as.all whole then .ok (as, newLine outer ++ ']' :: rest) else .error .wrongShape := by
  induction as with
  | nil =>
    rw [List.map_nil, itemChars, List.nil_append, items, nextItem_newLine]
    rfl
  | cons a as ih =>
    obtain ⟨first, others⟩ := List.forall_mem_cons.mp each
    have text : itemChars depth ((a :: as).map stored) ++ (newLine outer ++ ']' :: rest) =
        ',' :: (newLine depth ++ ((stored a).chars depth ++
          (itemChars depth (as.map stored) ++ (newLine outer ++ ']' :: rest)))) := by
      simp only [List.map_cons, itemChars, List.cons_append, List.append_assoc]
    rw [text, items_step first (nextItem_comma (first.starts depth) _) (ends_itemChars _ _ _ _),
      ih others, List.all_cons]
    · cases whole a
      · rfl
      · cases as.all whole <;> rfl
    · simp only [List.length_cons, List.length_append]
      omega

theorem restores_list {as : List α} (each : ∀ a ∈ as, Restores read (stored a) (whole a) a) :
    Restores (readList read) (.array (as.map stored)) (as.all whole) as where
  starts := by
    intro depth
    cases as with
    | nil => exact ⟨_, _, rfl, by decide, by decide⟩
    | cons a as => exact ⟨_, _, rfl, by decide, by decide⟩
  reads := by
    intro depth cs rest skipped ends
    cases as with
    | nil =>
      have none : items read true (']' :: rest) = .ok ([], ']' :: rest) := by
        rw [items]
        rfl
      rw [List.map_nil, Value.chars] at skipped
      simp only [readList, skipped, List.cons_append, List.nil_append, none]
      rfl
    | cons a as =>
      obtain ⟨first, others⟩ := List.forall_mem_cons.mp each
      have text : (Value.array ((a :: as).map stored)).chars depth ++ rest =
          '[' :: (newLine (depth + 1) ++ ((stored a).chars (depth + 1) ++
            (itemChars (depth + 1) (as.map stored) ++ (newLine depth ++ ']' :: rest)))) := by
        simp only [List.map_cons, Value.chars, List.cons_append, List.append_assoc,
          List.nil_append]
      rw [text] at skipped
      simp only [readList, skipped]
      rw [items_step first (nextItem_first (first.starts _) _) (ends_itemChars _ _ _ _),
        items_itemChars others, List.all_cons]
      · cases whole a
        · rfl
        · cases as.all whole
          · rfl
          · simp only [if_true, Except.map, close_newLine ']' rfl, Bool.and_self]
      · simp only [List.length_append]
        -- the first item is not blank, so what is left is shorter even without a comma before it
        have nonempty := (first.starts (depth + 1)).length_pos
        omega

end

/-! ### Records -/

inductive Fills {σ : Type} (fields : List (RecordField σ)) :
    σ → List (String × Value) → Bool → σ → Prop where
  | done {state : σ} : Fills fields state [] true state
  | step {state next last : σ} {field : RecordField σ} {key : String} {value : Value}
      {whole others : Bool} {rest : List (String × Value)} :
      (fields.find? fun field => field.name = key) = some field → field.isSet state = false →
      Restores (field.read state) value whole next → Fills fields next rest others last →
      Fills fields state ((key, value) :: rest) (whole && others) last

section

variable {σ : Type} {fields : List (RecordField σ)} {state next last : σ} {field : RecordField σ}
  {key : String} {value : Value} {whole : Bool}

theorem Fills.member {β : Type} {read : Reader β} {get : σ → Option β} {set : σ → β → σ} {b : β}
    {others : Bool} {list : List (String × Value)}
    (known : (fields.find? fun field => field.name = key) = some (.of key read get set))
    (unset : get state = none) (restores : Restores read value whole b)
    (fills : Fills fields (set state b) list others last) :
    Fills fields state ((key, value) :: list) (whole && others) last := by
  have notSet : (RecordField.of key read get set).isSet state = false := by
    simp only [RecordField.of, unset, Option.isSome_none]
  exact .step known notSet (restores.map (set state)) fills

theorem nextKey_newLine (first : Bool) (depth : Nat) (rest : List Char) :
    nextKey first (newLine depth ++ '\x7d' :: rest) = .ok none := by
  rw [nextKey, skipSpaces_newLine]
  rfl

theorem nextKey_first (depth : Nat) (rest : List Char) :
    nextKey true (newLine depth ++ '"' :: rest) = .ok (some rest) := by
  rw [nextKey, skipSpaces_newLine]
  rfl

theorem nextKey_comma (depth : Nat) (rest : List Char) :
    nextKey false (',' :: (newLine depth ++ '"' :: rest)) = .ok (some rest) := by
  have skipped : skipSpaces (',' :: (newLine depth ++ '"' :: rest)) =
      ',' :: (newLine depth ++ '"' :: rest) := rfl
  have quote : skipSpaces ('"' :: rest) = '"' :: rest := rfl
  rw [nextKey, skipped]
  simp only [skipSpaces_newLine, quote]
  rfl

def memberText (depth : Nat) (key : String) (value : Value) (rest : List Char) : List Char :=
  key.toList.flatMap escaped ++ '"' :: ':' :: ' ' :: (value.chars depth ++ rest)

theorem members_step (known : (fields.find? fun field => field.name = key) = some field)
    (unset : field.isSet state = false) (restores : Restores (field.read state) value whole next)
    {first : Bool} {depth : Nat} {cs rest : List Char}
    (called : nextKey first cs = .ok (some (memberText depth key value rest))) (ends : Ends rest)
    (shorter : rest.length < cs.length) :
    members fields state first cs =
      if whole then members fields next false rest else .error .wrongShape := by
  rw [members, called]
  simp only [memberText, stringRest_flatMap_escaped, String.ofList_toList, memberValue, known,
    unset, colon_cons, restores.reads_blank depth ends, Bool.false_eq_true, if_false]
  cases whole with
  | false => rfl
  | true => simp only [if_true, shorter]

theorem ends_memberChars (depth : Nat) (list : List (String × Value)) (outer : Nat)
    (cs : List Char) : Ends (memberChars depth list ++ (newLine outer ++ cs)) := by
  cases list with
  | nil =>
    rw [memberChars]
    exact ends_newLine outer cs
  | cons member list =>
    rw [memberChars]
    rintro c ⟨⟩
    exact .inl rfl

theorem Fills.members_memberChars {list : List (String × Value)}
    (fills : Fills fields state list whole last) (depth outer : Nat) (rest : List Char) :
    members fields state false (memberChars depth list ++ (newLine outer ++ '\x7d' :: rest)) =
      if whole then .ok (last, newLine outer ++ '\x7d' :: rest) else .error .wrongShape := by
  induction fills with
  | done =>
    rw [memberChars, List.nil_append, members, nextKey_newLine]
    rfl
  | @step state next last field key value whole others list known unset restores _ ih =>
    have text : memberChars depth ((key, value) :: list) ++ (newLine outer ++ '\x7d' :: rest) =
        ',' :: (newLine depth ++ '"' :: memberText depth key value
          (memberChars depth list ++ (newLine outer ++ '\x7d' :: rest))) := by
      simp only [memberChars, memberText, stringChars, List.cons_append, List.append_assoc,
        List.nil_append]
    rw [text, members_step known unset restores (nextKey_comma depth _) (ends_memberChars _ _ _ _),
      ih]
    · cases whole <;> cases others <;> rfl
    · simp only [memberText, List.length_cons, List.length_append]
      omega

theorem restores_record {α : Type} {start : σ} {complete : σ → Option α} {a : α}
    {key : String} {value : Value} {list : List (String × Value)} {all : Bool}
    (fills : Fills fields start ((key, value) :: list) whole last)
    (completed : complete last = some a) (parts : all = whole) :
    Restores (readRecord fields start complete) (.object ((key, value) :: list)) all a where
  starts _ := ⟨_, _, rfl, by decide, by decide⟩
  reads := by
    intro depth cs rest skipped ends
    subst parts
    cases fills with
    | @step _ next _ field _ _ whole others _ known unset restores fills =>
      have text : (Value.object ((key, value) :: list)).chars depth ++ rest =
          '\x7b' :: (newLine (depth + 1) ++ '"' :: memberText (depth + 1) key value
            (memberChars (depth + 1) list ++ (newLine depth ++ '\x7d' :: rest))) := by
        simp only [Value.chars, memberText, stringChars, List.cons_append, List.append_assoc,
          List.nil_append]
      rw [text] at skipped
      simp only [readRecord, skipped]
      rw [members_step known unset restores (nextKey_first _ _) (ends_memberChars _ _ _ _),
        fills.members_memberChars]
      · cases whole
        · rfl
        · cases others
          · rfl
          · simp only [if_true, completed, Except.map, close_newLine '\x7d' rfl, Bool.and_self]
      · simp only [memberText, List.length_cons, List.length_append]
        omega

end

/-! ### Variants -/

section

variable {α : Type} {bare : String → Option α} {withValue : String → Option (Reader α)}

theorem restores_bare {name : String} {a : α} (known : bare name = some a) :
    Restores (readVariant bare withValue) (.string name) true a where
  starts _ := starts_stringChars name
  reads := by
    intro depth cs rest skipped _
    rw [Value.chars, stringChars_append] at skipped
    simp only [readVariant, skipped, stringRest_flatMap_escaped, String.ofList_toList, known,
      if_true]

theorem restores_tagged {name : String} {read : Reader α} {value : Value} {whole : Bool} {a : α}
    (notBare : bare name = none) (known : withValue name = some read)
    (restores : Restores read value whole a) :
    Restores (readVariant bare withValue) (.object [(name, value)]) whole a where
  starts _ := ⟨_, _, rfl, by decide, by decide⟩
  reads := by
    intro depth cs rest skipped ends
    have text : (Value.object [(name, value)]).chars depth ++ rest =
        '\x7b' :: (newLine (depth + 1) ++ '"' :: memberText (depth + 1) name value
          (newLine depth ++ '\x7d' :: rest)) := by
      simp only [Value.chars, memberChars, memberText, stringChars, List.cons_append,
        List.append_assoc, List.nil_append]
    have called (more : List Char) : readVariantName (newLine (depth + 1) ++
        '"' :: (name.toList.flatMap escaped ++ '"' :: more)) = .ok (name, more) := by
      have quote : skipSpaces ('"' :: (name.toList.flatMap escaped ++ '"' :: more)) =
          '"' :: (name.toList.flatMap escaped ++ '"' :: more) := rfl
      rw [readVariantName, skipSpaces_newLine, quote]
      simp only [stringRest_flatMap_escaped, Except.map, String.ofList_toList]
    rw [text] at skipped
    simp only [readVariant, skipped, memberText, called, notBare, known, colon_cons,
      restores.reads_blank (depth + 1) (ends_newLine _ _)]
    cases whole with
    | false => rfl
    | true => simp only [if_true, Except.map, close_newLine '\x7d' rfl]

end

end Json

end SelectionAlgebra
