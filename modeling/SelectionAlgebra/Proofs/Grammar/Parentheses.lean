import SelectionAlgebra.Proofs.Grammar.Exactness

/-!
The parentheses of a text, apart from what else stands in it: which of them have a partner, and
which one is reported when not all of them have. The offsets that are kept while a text is searched
are those of the parentheses still open, the innermost one first.
-/

namespace SelectionAlgebra.Expr

inductive Balanced : List Char → Prop where
  | nil : Balanced []
  | other {c : Char} {cs : List Char} : c ≠ '(' → c ≠ ')' → Balanced cs → Balanced (c :: cs)
  | pair {inner cs : List Char} :
      Balanced inner → Balanced cs → Balanced ('(' :: (inner ++ ')' :: cs))

def Opens (before : List Char) : Prop :=
  ∃ front inner, before = front ++ '(' :: inner ∧ Balanced inner

def Closes (after : List Char) : Prop :=
  ∃ inner rest, after = inner ++ ')' :: rest ∧ Balanced inner

/-- The second text starts with the parenthesis to report: the first closing one without a partner,
or, where every closing one has its partner, the last opening one without. -/
inductive Unpaired : List Char → List Char → Prop where
  | closing {before after : List Char} :
      ¬ Opens before → (∀ front rest, before = front ++ ')' :: rest → Opens front) →
      Unpaired before (')' :: after)
  | opening {before after : List Char} :
      (∀ front rest, before ++ '(' :: after = front ++ ')' :: rest → Opens front) →
      ¬ Closes after → (∀ front rest, after = front ++ '(' :: rest → Closes rest) →
      Unpaired before ('(' :: after)

theorem Balanced.append {cs ds : List Char} (left : Balanced cs) (right : Balanced ds) :
    Balanced (cs ++ ds) := by
  induction left with
  | nil => exact right
  | other notOpening notClosing _ ih => exact .other notOpening notClosing ih
  | @pair inner cs inside _ _ ih =>
    rw [List.cons_append, List.append_assoc, List.cons_append]
    exact .pair inside ih

theorem Balanced.parens {inner : List Char} (balanced : Balanced inner) :
    Balanced ('(' :: (inner ++ [')'])) :=
  .pair balanced .nil

theorem Opens.append_left {before : List Char} (opens : Opens before) (front : List Char) :
    Opens (front ++ before) := by
  obtain ⟨head, inner, rfl, balanced⟩ := opens
  exact ⟨front ++ head, inner, by rw [List.append_assoc], balanced⟩

theorem Closes.append_right {after : List Char} (closes : Closes after) (tail : List Char) :
    Closes (after ++ tail) := by
  obtain ⟨inner, rest, rfl, balanced⟩ := closes
  exact ⟨inner, rest ++ tail, by rw [List.append_assoc, List.cons_append], balanced⟩

theorem split_append {cs ds front rest : List Char} {c : Char}
    (same : cs ++ ds = front ++ c :: rest) :
    (∃ tail, cs = front ++ c :: tail ∧ rest = tail ++ ds) ∨
      ∃ head, front = cs ++ head ∧ ds = head ++ c :: rest := by
  rcases List.append_eq_append_iff.mp same with ⟨head, inFront, inRight⟩ | ⟨tail, inLeft, inRest⟩
  · exact .inr ⟨head, inFront, inRight⟩
  · rcases List.cons_eq_append_iff.mp inRest with ⟨rfl, rfl⟩ | ⟨head, rfl, last⟩
    · exact .inr ⟨[], by simpa using inLeft.symm, rfl⟩
    · exact .inl ⟨head, inLeft, last⟩

/-! ## Partners -/

theorem Balanced.opens {cs front rest : List Char} (balanced : Balanced cs)
    (split : cs = front ++ ')' :: rest) : Opens front := by
  induction balanced generalizing front rest with
  | nil => simp at split
  | @other c cs _ notClosing _ ih =>
    rcases List.cons_eq_append_iff.mp split with ⟨-, start⟩ | ⟨head, rfl, further⟩
    · cases start
      contradiction
    · exact (ih further).append_left [c]
  | @pair inner cs inside _ ihInner ih =>
    rcases List.cons_eq_append_iff.mp split with ⟨-, start⟩ | ⟨head, rfl, further⟩
    · cases start
    · rcases split_append further with ⟨tail, inInner, -⟩ | ⟨last, rfl, behind⟩
      · exact (ihInner inInner).append_left ['(']
      · rcases List.cons_eq_append_iff.mp behind with ⟨rfl, -⟩ | ⟨front, rfl, beyond⟩
        · exact ⟨[], inner, by simp, inside⟩
        · simpa using (ih beyond).append_left ('(' :: (inner ++ [')']))

theorem Balanced.closes {cs front rest : List Char} (balanced : Balanced cs)
    (split : cs = front ++ '(' :: rest) : Closes rest := by
  induction balanced generalizing front rest with
  | nil => simp at split
  | other notOpening _ _ ih =>
    rcases List.cons_eq_append_iff.mp split with ⟨-, start⟩ | ⟨head, rfl, further⟩
    · cases start
      contradiction
    · exact ih further
  | @pair inner cs inside _ ihInner ih =>
    rcases List.cons_eq_append_iff.mp split with ⟨-, start⟩ | ⟨head, rfl, further⟩
    · cases start
      exact ⟨inner, cs, rfl, inside⟩
    · rcases split_append further with ⟨tail, inInner, rfl⟩ | ⟨last, rfl, behind⟩
      · exact (ihInner inInner).append_right _
      · rcases List.cons_eq_append_iff.mp behind with ⟨-, start⟩ | ⟨front, rfl, beyond⟩
        · cases start
        · exact ih beyond

theorem Balanced.count_eq {cs : List Char} (balanced : Balanced cs) :
    cs.count '(' = cs.count ')' := by
  induction balanced with
  | nil => rfl
  | other notOpening notClosing _ ih =>
    rwa [List.count_cons_of_ne notOpening, List.count_cons_of_ne notClosing]
  | pair _ _ ihInner ih =>
    simp only [List.count_cons, List.count_append, ihInner, ih, beq_iff_eq, Char.reduceEq,
      if_true, if_false]
    omega

theorem Balanced.count_le {cs front : List Char} (balanced : Balanced cs) (begins : front <+: cs) :
    front.count ')' ≤ front.count '(' := by
  induction balanced generalizing front with
  | nil =>
    cases List.prefix_nil.mp begins
    exact Nat.le_refl 0
  | other notOpening notClosing _ ih =>
    rcases List.prefix_cons_iff.mp begins with rfl | ⟨head, rfl, further⟩
    · exact Nat.le_refl 0
    · rw [List.count_cons_of_ne notOpening, List.count_cons_of_ne notClosing]
      exact ih further
  | @pair inner cs inside _ ihInner ih =>
    rcases List.prefix_cons_iff.mp begins with rfl | ⟨head, rfl, rest, further⟩
    · exact Nat.le_refl 0
    · simp only [List.count_cons, beq_iff_eq, Char.reduceEq, if_true, if_false]
      rcases List.append_eq_append_iff.mp further with ⟨tail, within, -⟩ | ⟨tail, rfl, behind⟩
      · have inInner := ihInner ⟨tail, within.symm⟩
        omega
      · have even := inside.count_eq
        rcases List.cons_eq_append_iff.mp behind with ⟨rfl, -⟩ | ⟨last, rfl, beyond⟩
        · simp only [List.append_nil]
          omega
        · have inRest := ih ⟨rest, beyond.symm⟩
          simp only [List.count_append, List.count_cons, beq_iff_eq, Char.reduceEq, if_true,
            if_false]
          omega

theorem Balanced.not_opens {cs : List Char} (balanced : Balanced cs) : ¬ Opens cs := by
  rintro ⟨front, inner, rfl, inside⟩
  have left := balanced.count_le (List.prefix_append front _)
  have whole := balanced.count_eq
  have even := inside.count_eq
  simp only [List.count_append, List.count_cons, beq_iff_eq, Char.reduceEq, if_true,
    if_false] at whole
  omega

theorem Balanced.not_closes {cs : List Char} (balanced : Balanced cs) : ¬ Closes cs := by
  rintro ⟨inner, rest, rfl, inside⟩
  have begins : inner ++ [')'] <+: inner ++ ')' :: rest := ⟨rest, by simp⟩
  have left := balanced.count_le begins
  have even := inside.count_eq
  simp only [List.count_append, List.count_singleton, beq_iff_eq, Char.reduceEq, if_true,
    if_false] at left
  omega

theorem Unpaired.not_balanced {before after : List Char} (unpaired : Unpaired before after) :
    ¬ Balanced (before ++ after) := by
  intro balanced
  cases unpaired with
  | closing unopened _ => exact unopened (balanced.opens rfl)
  | opening _ unclosed _ => exact unclosed (balanced.closes rfl)

/-! ## The search -/

/-- What is known of a text that was searched: the offsets of the parentheses that wait for their
partner, from the innermost one outwards. -/
inductive Pending : List Char → List Nat → Prop where
  | closed {cs : List Char} : Balanced cs → Pending cs []
  | opened {before inner : List Char} {offsets : List Nat} :
      Pending before offsets → Balanced inner →
      Pending (before ++ '(' :: inner) (Text.byteLength before :: offsets)

theorem Pending.append {cs ds : List Char} {offsets : List Nat} (pending : Pending cs offsets)
    (balanced : Balanced ds) : Pending (cs ++ ds) offsets := by
  cases pending with
  | closed before => exact .closed (before.append balanced)
  | opened outside inside =>
    rw [List.append_assoc, List.cons_append]
    exact .opened outside (inside.append balanced)

theorem Pending.push {cs : List Char} {offsets : List Nat} (pending : Pending cs offsets) :
    Pending (cs ++ ['(']) (Text.byteLength cs :: offsets) :=
  .opened pending .nil

theorem Pending.pop {cs : List Char} {offset : Nat} {offsets : List Nat}
    (pending : Pending cs (offset :: offsets)) : Pending (cs ++ [')']) offsets := by
  cases pending with
  | opened outside inside =>
    rw [List.append_assoc, List.cons_append]
    exact outside.append inside.parens

theorem Pending.opens {cs front rest : List Char} {offsets : List Nat}
    (pending : Pending cs offsets) (split : cs = front ++ ')' :: rest) : Opens front := by
  induction pending generalizing front rest with
  | closed balanced => exact balanced.opens split
  | @opened before inner offsets _ inside ih =>
    rcases split_append split with ⟨tail, inBefore, -⟩ | ⟨head, rfl, behind⟩
    · exact ih inBefore
    · rcases List.cons_eq_append_iff.mp behind with ⟨-, start⟩ | ⟨head, rfl, further⟩
      · cases start
      · have opens := (inside.opens further).append_left (before ++ ['('])
        simpa using opens

/-- What the search says of the text, from any point on. -/
theorem unmatched?_spec {before : List Char} {offsets : List Nat} (pending : Pending before offsets)
    (rest : List Char) :
    match unmatched? (Text.byteLength before) offsets rest with
    | none => Balanced (before ++ rest)
    | some offset => ∃ left right, before ++ rest = left ++ right ∧
        offset = Text.byteLength left ∧ Unpaired left right := by
  induction rest generalizing before offsets with
  | nil =>
    cases pending with
    | closed balanced => simpa [unmatched?] using balanced
    | @opened outer inner offsets outside inside =>
      -- what stands behind the innermost open parenthesis is balanced, so no later one is open
      have opens : ∀ front rest, outer ++ '(' :: inner = front ++ ')' :: rest → Opens front :=
        fun _ _ => (Pending.opened outside inside).opens
      have closes : ∀ front rest, inner = front ++ '(' :: rest → Closes rest :=
        fun _ _ => inside.closes
      rw [List.append_nil]
      exact ⟨outer, '(' :: inner, rfl, rfl, .opening opens inside.not_closes closes⟩
  | cons c rest ih =>
    have next : Text.byteLength before + c.utf8Size = Text.byteLength (before ++ [c]) := by
      simp [Text.byteLength_append, Text.byteLength]
    have onward : before ++ c :: rest = before ++ [c] ++ rest := by simp
    by_cases opening : c = '('
    · subst opening
      simp only [unmatched?, if_pos, next, onward]
      exact ih pending.push
    · by_cases closing : c = ')'
      · subst closing
        cases offsets with
        | nil =>
          -- nothing waits, so what stands before is balanced and opens no partner
          have opens : ∀ front rest, before = front ++ ')' :: rest → Opens front :=
            fun _ _ => pending.opens
          cases pending with
          | closed balanced =>
            exact ⟨before, ')' :: rest, rfl, rfl, .closing balanced.not_opens opens⟩
        | cons offset offsets =>
          simp only [unmatched?, next, onward]
          exact ih pending.pop
      · rw [unmatched?_cons opening closing, next, onward]
        exact ih (pending.append (.other opening closing .nil))

theorem unpaired_of_unmatched? {cs : List Char} {offset : Nat}
    (found : unmatched? 0 [] cs = some offset) :
    ∃ before after, cs = before ++ after ∧ offset = Text.byteLength before ∧
      Unpaired before after := by
  have spec := unmatched?_spec (.closed .nil) cs
  simp only [Text.byteLength, found] at spec
  exact spec

theorem unmatched?_eq_none_iff_balanced (cs : List Char) :
    unmatched? 0 [] cs = none ↔ Balanced cs := by
  cases found : unmatched? 0 [] cs with
  | none =>
    have spec := unmatched?_spec (.closed .nil) cs
    simp only [Text.byteLength, found] at spec
    exact iff_of_true rfl spec
  | some offset =>
    obtain ⟨before, after, rfl, -, unpaired⟩ := unpaired_of_unmatched? found
    exact iff_of_false (by simp) unpaired.not_balanced

end SelectionAlgebra.Expr
