import SelectionAlgebra.Proofs.Grammar.Completeness

/-!
Reading an expression accepts the grammar within the bounds and nothing else. Parentheses are
counted before anything is read, so a derivable text has to pass that count. That a text derives one
tree only follows from the readers themselves, given bounds wide enough for two derivations.
-/

namespace SelectionAlgebra.Expr

/-! ## Parentheses -/

def pairsUp : Nat → List Token → Bool
  | depth, [] => depth == 0
  | depth, .opening :: ts => pairsUp (depth + 1) ts
  | 0, .closing :: _ => false
  | depth + 1, .closing :: ts => pairsUp depth ts
  | depth, _ :: ts => pairsUp depth ts

theorem pairsUp_phrase {level : Level} {k : Nat} {ts : List Token} {e : Expr}
    (phrase : Phrase level k ts e) (depth : Nat) (us : List Token) :
    pairsUp depth (ts ++ us) = pairsUp depth us := by
  induction phrase generalizing depth us with
  | name n => cases depth <;> rfl
  | not _ ih => cases depth <;> exact ih _ us
  | @parens k ts e _ ih =>
    calc pairsUp depth (.opening :: (ts ++ [.closing]) ++ us)
        = pairsUp (depth + 1) (ts ++ .closing :: us) := by simp [pairsUp]
      _ = pairsUp (depth + 1) (.closing :: us) := ih _ _
      _ = pairsUp depth us := rfl
  | single _ ih => exact ih depth us
  | @join op k m ts us' l r _ _ left right =>
    calc pairsUp depth (ts ++ .binary op :: us' ++ us)
        = pairsUp depth (ts ++ .binary op :: (us' ++ us)) := by simp
      _ = pairsUp depth (.binary op :: (us' ++ us)) := left _ _
      _ = pairsUp depth (us' ++ us) := by cases depth <;> rfl
      _ = pairsUp depth us := right _ _

theorem unmatched?_cons {c : Char} (notOpening : c ≠ '(') (notClosing : c ≠ ')') (offset : Nat)
    (opened : List Nat) (cs : List Char) :
    unmatched? offset opened (c :: cs) = unmatched? (offset + c.utf8Size) opened cs := by
  simp [unmatched?, notOpening, notClosing]

theorem not_paren_of_nameChar {c : Char} (nameChar : isNameChar c = true) :
    c ≠ '(' ∧ c ≠ ')' := by
  constructor <;> rintro rfl <;> exact absurd nameChar (by decide)

theorem not_paren_of_space {c : Char} (space : isSpace c = true) : c ≠ '(' ∧ c ≠ ')' := by
  constructor <;> rintro rfl <;> exact absurd space (by decide)

theorem unmatched?_name (offset : Nat) (opened : List Nat) (cs : List Char) :
    ∃ next, unmatched? offset opened cs =
      unmatched? next opened (cs.dropWhile isNameChar) := by
  induction cs generalizing offset with
  | nil => exact ⟨offset, rfl⟩
  | cons c cs ih =>
    cases nameChar : isNameChar c with
    | false => exact ⟨offset, by simp [nameChar]⟩
    | true =>
      obtain ⟨notOpening, notClosing⟩ := not_paren_of_nameChar nameChar
      obtain ⟨next, same⟩ := ih (offset + c.utf8Size)
      refine ⟨next, ?_⟩
      rw [unmatched?_cons notOpening notClosing, same, List.dropWhile_cons_of_pos nameChar]

theorem unmatched?_eq_none_iff {cs : List Char} {ts : List Token} (reads : Reads cs ts [])
    (offset : Nat) (opened : List Nat) :
    unmatched? offset opened cs = none ↔ pairsUp opened.length ts = true := by
  generalize last : ([] : List Char) = rest at reads
  induction reads generalizing offset opened with
  | done =>
    subst last
    cases opened <;> simp [unmatched?, pairsUp]
  | space blank _ ih =>
    obtain ⟨notOpening, notClosing⟩ := not_paren_of_space blank
    rw [unmatched?_cons notOpening notClosing]
    exact ih _ _ last
  | @sign t c cs rest ts sign _ ih =>
    cases t with
    | name n => cases sign
    | opening =>
      cases sign
      exact ih (offset + '('.utf8Size) (offset :: opened) last
    | closing =>
      cases sign
      cases opened with
      | nil => simp [unmatched?, pairsUp]
      | cons o opened => exact ih _ opened last
    | bang =>
      cases sign
      rw [unmatched?_cons (by decide) (by decide)]
      cases opened <;> exact ih _ _ last
    | binary op =>
      cases sign
      rw [unmatched?_cons (by cases op <;> decide) (by cases op <;> decide)]
      cases opened <;> exact ih _ _ last
  | @name cs _ _ _ _ ih =>
    obtain ⟨next, same⟩ := unmatched?_name offset opened cs
    rw [same]
    cases opened <;> exact ih next _ last

theorem unmatched?_of_derives {source : String} {k : Nat} {e : Expr}
    (derived : Derives source k e) : unmatched? 0 [] source.toList = none := by
  obtain ⟨ts, reads, phrase⟩ := derived
  have count : pairsUp 0 ts = true := by
    rw [← List.append_nil ts, pairsUp_phrase phrase]
    rfl
  exact (unmatched?_eq_none_iff reads 0 []).mpr count

/-! ## Reading -/

theorem eq_nil_of_formula {tallest levels : Nat} {cs rest : List Char} {e : Expr}
    (read : formula tallest (unary tallest levels) cs = .ok (e, rest)) (reads : Reads rest [] []) :
    rest = [] := by
  obtain ⟨trimmed, -⟩ := formula_sound (unary_sound levels) read
  exact trimmed.symm.trans reads.nil_inv

theorem parse_of_derives {source : String} {k : Nat} {e : Expr} (derived : Derives source k e)
    (shallow : k ≤ maxNesting) (fits : e.height ≤ maxHeight) : parse source = .ok e := by
  rcases formula_outcome (by decide : 0 < maxHeight) (maxNesting + 1) derived with
    ⟨-, -, rest, read, reads⟩ | ⟨deep, -⟩
  · have atEnd := eq_nil_of_formula read reads
    subst atEnd
    simp only [parse, parseChars, unmatched?_of_derives derived, read]
  · exact absurd ⟨Nat.lt_succ_of_le shallow, fits⟩ deep

theorem parse_tooDeep_of_derives {source : String} {k : Nat} {e : Expr}
    (derived : Derives source k e) (exceeds : ¬ (k ≤ maxNesting ∧ e.height ≤ maxHeight)) :
    ∃ offset, parse source = .error (.tooDeep offset) := by
  rcases formula_outcome (by decide : 0 < maxHeight) (maxNesting + 1) derived with
    ⟨shallow, fits, -⟩ | ⟨-, rest, refused⟩
  · exact absurd ⟨Nat.le_of_lt_succ shallow, fits⟩ exceeds
  · exact ⟨Text.byteLength source.toList - Text.byteLength rest,
      by simp only [parse, parseChars, unmatched?_of_derives derived, refused]⟩

/-- Bounds that admit one derivation of a text admit the other, and then both give the tree that is
read. -/
theorem Derives.agree {source : String} {k m : Nat} {e f : Expr} (left : Derives source k e)
    (right : Derives source m f) {levels : Nat} (room : k < levels) : m < levels ∧ e = f := by
  have positive : 0 < max (max e.height f.height) 1 := by omega
  rcases formula_outcome positive levels left with ⟨-, -, rest, read, -⟩ | ⟨deep, -⟩
  · rcases formula_outcome positive levels right with
      ⟨shallow, -, last, again, -⟩ | ⟨-, last, refused⟩
    · cases read.symm.trans again
      exact ⟨shallow, rfl⟩
    · cases read.symm.trans refused
  · exact absurd (by omega) deep

theorem Derives.unique {source : String} {k m : Nat} {e f : Expr} (left : Derives source k e)
    (right : Derives source m f) : k = m ∧ e = f := by
  obtain ⟨below, same⟩ := left.agree right (Nat.lt_succ_self k)
  obtain ⟨above, -⟩ := right.agree left (Nat.lt_succ_self m)
  exact ⟨by omega, same⟩

/-- Reading an expression is exact. A text derives at most one tree; it is read as that tree if its
operands lie under at most `maxNesting` parentheses and negations and the tree is no taller than
`maxHeight`, and refused as too deep otherwise; a text that derives nothing is refused. -/
theorem parse_exact (source : String) :
    (∀ k m e f, Derives source k e → Derives source m f → k = m ∧ e = f) ∧
      (∀ k e, Derives source k e → k ≤ maxNesting → e.height ≤ maxHeight →
        parse source = .ok e) ∧
      (∀ k e, Derives source k e → ¬ (k ≤ maxNesting ∧ e.height ≤ maxHeight) →
        ∃ offset, parse source = .error (.tooDeep offset)) ∧
      ((¬ ∃ k e, Derives source k e) → ∃ reason, parse source = .error reason) := by
  refine ⟨fun k m e f left right => left.unique right,
    fun k e derived shallow fits => parse_of_derives derived shallow fits,
    fun k e derived exceeds => parse_tooDeep_of_derives derived exceeds, ?_⟩
  intro none
  cases read : parse source with
  | error reason => exact ⟨reason, rfl⟩
  | ok e =>
    obtain ⟨k, derived⟩ := derives_of_parse read
    exact absurd ⟨k, e, derived⟩ none

/-- All three operators, a negation and parentheses in one text. -/
theorem parse_exact_mixed :
    parse " a|b ^c & !(a|c)|b" = .ok
      (.or (.or (.name "a")
          (.xor (.name "b") (.and (.name "c") (.not (.or (.name "a") (.name "c"))))))
        (.name "b")) := by
  refine (parse_exact _).2.1 2 _ ⟨[.name "a", .binary .or, .name "b", .binary .xor, .name "c",
    .binary .and, .bang, .opening, .name "a", .binary .or, .name "c", .closing, .binary .or,
    .name "b"], ?_, ?_⟩ (by decide) (by decide)
  · exact .space rfl <| .name (by decide) <| .sign rfl <| .name (by decide) <| .space rfl <|
      .sign rfl <| .name (by decide) <| .space rfl <| .sign rfl <| .space rfl <| .sign rfl <|
      .sign rfl <| .name (by decide) <| .sign rfl <| .name (by decide) <| .sign rfl <|
      .sign rfl <| .name (by decide) .done
  · have factor (n : String) : Phrase (.chain .and) 0 [.name n] (.name n) := .single (.name n)
    have summand (n : String) : Phrase (.chain .xor) 0 [.name n] (.name n) := .single (factor n)
    have choice (n : String) : Phrase (.chain .or) 0 [.name n] (.name n) := .single (summand n)
    have negated := Phrase.not (.parens (.join (choice "a") (summand "c")))
    have product := Phrase.join (factor "c") negated
    have sum := Phrase.join (summand "b") product
    exact .join (.join (choice "a") sum) (summand "b")

end SelectionAlgebra.Expr
