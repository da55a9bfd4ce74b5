import SelectionAlgebra.Expr.Printer
import SelectionAlgebra.Proofs.Expr.Names
import SelectionAlgebra.Proofs.Grammar.Exactness

/-!
Expressions and their text. The text of an expression derives that expression again, as long as its
names are names of the grammar, and it opens a known number of parentheses and negations around its
innermost operand. So it is read back exactly up to the bound on nesting.
-/

namespace SelectionAlgebra.Expr

def IsName (n : String) : Prop :=
  n ≠ "" ∧ ∀ c ∈ n.toList, isNameChar c = true

def WellNamed (e : Expr) : Prop :=
  ∀ n, e.Mentions n → IsName n

theorem isName_singleton {c : Char} (nameChar : isNameChar c = true) :
    IsName (String.singleton c) := by
  refine ⟨by simp, ?_⟩
  intro d member
  have only : d = c := by simpa using member
  rwa [only]

instance (n : String) : Decidable (IsName n) :=
  inferInstanceAs (Decidable (n ≠ "" ∧ ∀ c ∈ n.toList, isNameChar c = true))

instance (e : Expr) : Decidable e.WellNamed :=
  decidable_of_iff (∀ n ∈ e.names.entries, IsName n) (by simp only [mem_names, WellNamed])

/-- The greatest number of parentheses and negations around an operand in the text of the
expression. -/
def textNesting : Expr → Nat
  | .name _ => 0
  | .not (.name _) => 1
  | .not e => 2 + e.textNesting
  | .and l r | .or l r | .xor l r => 1 + max l.textNesting r.textNesting

theorem height_le_textNesting (e : Expr) : e.height ≤ e.textNesting + 1 := by
  fun_induction textNesting e <;> simp only [height] <;> omega

/-! ## Texts of phrases -/

/-- The text reads as a phrase with this tree, in front of anything but a character of a name. -/
def Writes (level : Level) (k : Nat) (cs : List Char) (e : Expr) : Prop :=
  ∃ ts, Phrase level k ts e ∧
    ∀ rest, rest.takeWhile isNameChar = [] → Reads (cs ++ rest) ts rest

theorem Writes.single {op : BinaryOp} {k : Nat} {cs : List Char} {e : Expr}
    (operand : Writes op.operand k cs e) : Writes (.chain op) k cs e := by
  obtain ⟨ts, phrase, reads⟩ := operand
  exact ⟨ts, .single phrase, reads⟩

theorem Writes.formula {op : BinaryOp} {k : Nat} {cs : List Char} {e : Expr}
    (chain : Writes (.chain op) k cs e) : Writes (.chain .or) k cs e := by
  have sum (product : Writes (.chain .and) k cs e) : Writes (.chain .xor) k cs e := .single product
  cases op with
  | or => exact chain
  | xor => exact .single chain
  | and => exact .single (sum chain)

theorem Writes.operand {k : Nat} {cs : List Char} {e : Expr} (unary : Writes .unary k cs e)
    (op : BinaryOp) : Writes op.operand k cs e := by
  have product : Writes (.chain .and) k cs e := .single unary
  cases op with
  | and => exact unary
  | xor => exact product
  | or => exact .single product

theorem writes_name {n : String} (isName : IsName n) : Writes .unary 0 n.toList (.name n) := by
  refine ⟨[.name n], .name n, ?_⟩
  intro rest ends
  have run : n.toList ≠ [] := by simpa using isName.1
  have reads := Reads.done.run run isName.2 ((takeWhile_eq_nil_iff rest).mp ends)
  rwa [String.ofList_toList] at reads

theorem Writes.not {k : Nat} {cs : List Char} {e : Expr} (operand : Writes .unary k cs e) :
    Writes .unary (k + 1) ('!' :: cs) e.not := by
  obtain ⟨ts, phrase, reads⟩ := operand
  exact ⟨.bang :: ts, .not phrase, fun rest ends => .sign rfl (reads rest ends)⟩

theorem Writes.parens {k : Nat} {cs : List Char} {e : Expr} (inner : Writes (.chain .or) k cs e) :
    Writes .unary (k + 1) ('(' :: cs ++ [')']) e := by
  obtain ⟨ts, phrase, reads⟩ := inner
  refine ⟨.opening :: (ts ++ [.closing]), .parens phrase, ?_⟩
  intro rest _
  have inside : Reads (cs ++ ')' :: rest) ts (')' :: rest) := reads _ rfl
  have closed : Reads (')' :: rest) [.closing] rest := .sign rfl .done
  simpa using Reads.sign (t := .opening) rfl (inside.trans closed)

theorem Writes.join {op : BinaryOp} {k m : Nat} {cs ds : List Char} {l r : Expr}
    (left : Writes (.chain op) k cs l) (right : Writes op.operand m ds r) :
    Writes (.chain op) (max k m) (cs ++ [' ', op.sign, ' '] ++ ds) (op.join l r) := by
  obtain ⟨ts, leftPhrase, leftReads⟩ := left
  obtain ⟨us, rightPhrase, rightReads⟩ := right
  refine ⟨ts ++ .binary op :: us, .join leftPhrase rightPhrase, ?_⟩
  intro rest ends
  have first : Reads (cs ++ ' ' :: op.sign :: ' ' :: (ds ++ rest)) ts
      (' ' :: op.sign :: ' ' :: (ds ++ rest)) := leftReads _ rfl
  have second : Reads (' ' :: op.sign :: ' ' :: (ds ++ rest)) (.binary op :: us) rest :=
    .space rfl (.sign rfl (.space rfl (rightReads rest ends)))
  simpa using first.trans second

theorem Writes.binary (op : BinaryOp) {k m : Nat} {cs ds : List Char} {l r : Expr}
    (left : Writes .unary k cs l) (right : Writes .unary m ds r) :
    Writes .unary (1 + max k m) ('(' :: cs ++ [' ', op.sign, ' '] ++ ds ++ [')']) (op.join l r) := by
  have joined : Writes (.chain op) (max k m) (cs ++ [' ', op.sign, ' '] ++ ds) (op.join l r) :=
    .join (.single (left.operand op)) (right.operand op)
  rw [Nat.add_comm]
  simpa using joined.formula.parens

theorem writes_chars {e : Expr} (wellNamed : e.WellNamed) :
    Writes .unary e.textNesting e.chars e := by
  induction e with
  | name n => exact writes_name (wellNamed n rfl)
  | not e ih =>
    have operand := ih wellNamed
    cases e with
    | name n => exact operand.not
    | _ =>
      have inner := (operand.operand .or).single.parens
      rw [textNesting, chars, Nat.add_comm]
      · simpa using inner.not
      · rintro n ⟨⟩
      · rintro n ⟨⟩
  | and l r left right =>
    exact .binary .and (left fun n mentioned => wellNamed n (.inl mentioned))
      (right fun n mentioned => wellNamed n (.inr mentioned))
  | or l r left right =>
    exact .binary .or (left fun n mentioned => wellNamed n (.inl mentioned))
      (right fun n mentioned => wellNamed n (.inr mentioned))
  | xor l r left right =>
    exact .binary .xor (left fun n mentioned => wellNamed n (.inl mentioned))
      (right fun n mentioned => wellNamed n (.inr mentioned))

theorem derives_display {e : Expr} (wellNamed : e.WellNamed) :
    Derives e.display e.textNesting e := by
  obtain ⟨ts, phrase, reads⟩ := ((writes_chars wellNamed).operand .or).single
  have whole := reads [] rfl
  rw [List.append_nil] at whole
  refine ⟨ts, ?_, phrase⟩
  rwa [display, String.toList_ofList]

/-! ## Names of phrases -/

theorem Reads.isName {cs rest : List Char} {ts : List Token} (reads : Reads cs ts rest)
    {n : String} (member : .name n ∈ ts) : IsName n := by
  induction reads with
  | done => cases member
  | space _ _ ih => exact ih member
  | sign sign _ ih =>
    rcases List.mem_cons.mp member with rfl | member
    · cases sign
    · exact ih member
  | name run _ ih =>
    rcases List.mem_cons.mp member with same | member
    · cases same
      constructor
      · simpa using run
      · rw [String.toList_ofList]
        exact List.all_eq_true.mp List.all_takeWhile
    · exact ih member

theorem mem_of_mentions {level : Level} {k : Nat} {ts : List Token} {e : Expr}
    (phrase : Phrase level k ts e) {n : String} (mentioned : e.Mentions n) : .name n ∈ ts := by
  induction phrase with
  | name m =>
    cases mentioned
    exact List.mem_singleton_self _
  | not _ ih => exact List.mem_cons_of_mem _ (ih mentioned)
  | parens _ ih => exact List.mem_cons_of_mem _ (List.mem_append_left _ (ih mentioned))
  | single _ ih => exact ih mentioned
  | @join op _ _ ts us l r _ _ left right =>
    have either : l.Mentions n ∨ r.Mentions n := by cases op <;> exact mentioned
    rcases either with mentioned | mentioned
    · exact List.mem_append_left _ (left mentioned)
    · exact List.mem_append_right _ (List.mem_cons_of_mem _ (right mentioned))

theorem wellNamed_of_derives {source : String} {k : Nat} {e : Expr}
    (derived : Derives source k e) : e.WellNamed := by
  obtain ⟨ts, reads, phrase⟩ := derived
  exact fun n mentioned => reads.isName (mem_of_mentions phrase mentioned)

/-! ## Reading back -/

/-- The text of an expression is read as that expression if and only if its names are names of the
grammar and the text is within the bound on nesting. Beyond the bound it is refused as too deep. -/
theorem parse_display_exact (e : Expr) :
    (parse e.display = .ok e ↔ e.WellNamed ∧ e.textNesting ≤ maxNesting) ∧
      (e.WellNamed → maxNesting < e.textNesting →
        ∃ offset, parse e.display = .error (.tooDeep offset)) := by
  have tooDeep : e.WellNamed → maxNesting < e.textNesting →
      ∃ offset, parse e.display = .error (.tooDeep offset) := by
    intro wellNamed deep
    exact parse_tooDeep_of_derives (derives_display wellNamed) fun bounds => by omega
  refine ⟨⟨?_, ?_⟩, tooDeep⟩
  · intro read
    obtain ⟨k, derived⟩ := derives_of_parse read
    have wellNamed := wellNamed_of_derives derived
    refine ⟨wellNamed, Nat.le_of_not_lt fun deep => ?_⟩
    obtain ⟨offset, refused⟩ := tooDeep wellNamed deep
    rw [read] at refused
    cases refused
  · rintro ⟨wellNamed, shallow⟩
    have height := e.height_le_textNesting
    have room : maxNesting + 1 ≤ maxHeight := by decide
    exact parse_of_derives (derives_display wellNamed) shallow (by omega)

/-- Sixty-five negations in a row need no parentheses, but all but the innermost write them. -/
theorem parse_display_exact_negations :
    let e : Expr := Nat.repeat .not 65 (.name "a")
    e.WellNamed ∧ maxNesting < e.textNesting ∧
      ∃ offset, parse e.display = .error (.tooDeep offset) := by
  intro e
  have named : IsName "a" := by
    refine ⟨by decide, ?_⟩
    intro c member
    have only : c = 'a' := by simpa using member
    rw [only]
    decide
  have wellNamed : e.WellNamed := by
    rintro n rfl
    exact named
  have deep : maxNesting < e.textNesting := by decide
  exact ⟨wellNamed, deep, (parse_display_exact e).2 wellNamed deep⟩

end SelectionAlgebra.Expr
