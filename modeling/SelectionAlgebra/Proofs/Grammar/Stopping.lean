import SelectionAlgebra.Proofs.Grammar.Display
import SelectionAlgebra.Proofs.Grammar.Parentheses

/-!
Where the readers stop. A reader that is stuck has read the beginning of a phrase of its class; one
that finds a text too deep has met so many signs that one of the bounds is used up.
-/

namespace SelectionAlgebra.Expr

/-! ## Beginnings of phrases -/

/-- Some further tokens, the names among which can be written, make a phrase of these ones. -/
def Begins (level : Level) (ts : List Token) : Prop :=
  ∃ us k e, Phrase level k (ts ++ us) e ∧ ∀ n, .name n ∈ us → IsName n

theorem Phrase.begins {level : Level} {k : Nat} {ts : List Token} {e : Expr}
    (phrase : Phrase level k ts e) : Begins level ts :=
  ⟨[], k, e, by rwa [List.append_nil], by simp⟩

theorem Begins.single {op : BinaryOp} {ts : List Token} (begins : Begins op.operand ts) :
    Begins (.chain op) ts := by
  obtain ⟨us, k, e, phrase, named⟩ := begins
  exact ⟨us, k, e, .single phrase, named⟩

theorem Begins.join {op : BinaryOp} {k : Nat} {ts us : List Token} {first : Expr}
    (phrase : Phrase (.chain op) k ts first) (begins : Begins op.operand us) :
    Begins (.chain op) (ts ++ .binary op :: us) := by
  obtain ⟨vs, m, e, operand, named⟩ := begins
  refine ⟨vs, max k m, op.join first e, ?_, named⟩
  rw [List.append_assoc, List.cons_append]
  exact .join phrase operand

theorem Begins.not {ts : List Token} (begins : Begins .unary ts) : Begins .unary (.bang :: ts) := by
  obtain ⟨us, k, e, phrase, named⟩ := begins
  exact ⟨us, k + 1, e.not, .not phrase, named⟩

theorem Begins.parens {ts : List Token} (begins : Begins (.chain .or) ts) :
    Begins .unary (.opening :: ts) := by
  obtain ⟨us, k, e, phrase, named⟩ := begins
  refine ⟨us ++ [.closing], k + 1, e, ?_, ?_⟩
  · simpa using Phrase.parens phrase
  · simpa using named

theorem begins_nil : Begins .unary [] := by
  refine ⟨[.name "a"], 0, .name "a", .name "a", ?_⟩
  intro n member
  cases List.mem_singleton.mp member
  exact isName_singleton (c := 'a') (by decide)

/-! ## Counting signs -/

def isNesting (c : Char) : Bool :=
  c == '(' || c == '!'

def isOperator (c : Char) : Bool :=
  c == '&' || c == '|' || c == '^' || c == '!'

def Token.passes (test : Char → Bool) (t : Token) : Bool :=
  t.sign?.any test

theorem Reads.countP_le {cs rest : List Char} {ts : List Token} (reads : Reads cs ts rest)
    (test : Char → Bool) : ts.countP (Token.passes test) + rest.countP test ≤ cs.countP test := by
  induction reads with
  | done => simp
  | @space c cs _ _ _ _ ih =>
    have fewer : cs.countP test ≤ (c :: cs).countP test :=
      (List.sublist_cons_self c cs).countP_le
    omega
  | @sign t c cs rest ts sign _ ih =>
    have same : Token.passes test t = test c := by simp [Token.passes, sign]
    simp only [List.countP_cons, same]
    omega
  | @name cs rest ts _ _ ih =>
    have fewer : (cs.dropWhile isNameChar).countP test ≤ cs.countP test :=
      (List.dropWhile_sublist isNameChar).countP_le
    have none (n : String) : Token.passes test (.name n) = false := rfl
    simp only [List.countP_cons, none, Bool.false_eq_true, if_false]
    omega

theorem height_le_operators {level : Level} {k : Nat} {ts : List Token} {e : Expr}
    (phrase : Phrase level k ts e) :
    e.height ≤ ts.countP (Token.passes isOperator) + 1 := by
  induction phrase with
  | name n => exact Nat.le_refl 1
  | not _ ih =>
    have counts : Token.passes isOperator .bang = true := rfl
    simp only [height, List.countP_cons, counts, if_true]
    omega
  | parens _ ih =>
    simp only [List.countP_cons, List.countP_append]
    omega
  | single _ ih => exact ih
  | @join op _ _ _ _ _ _ _ _ left right =>
    have counts : Token.passes isOperator (.binary op) = true := by cases op <;> rfl
    simp only [height_join, List.countP_append, List.countP_cons, counts, if_true]
    omega

def Exceeds (tallest levels : Nat) (cs : List Char) : Prop :=
  levels ≤ cs.countP isNesting ∨ tallest ≤ cs.countP isOperator

theorem Exceeds.of_reads {tallest levels inner : Nat} {cs rest : List Char} {ts : List Token}
    (exceeds : Exceeds tallest inner rest) (reads : Reads cs ts rest)
    (room : levels ≤ inner + ts.countP (Token.passes isNesting)) : Exceeds tallest levels cs := by
  have nestings := reads.countP_le isNesting
  have operators := reads.countP_le isOperator
  rcases exceeds with deep | tall
  · exact .inl (by omega)
  · exact .inr (by omega)

theorem exceeds_of_height {tallest levels k : Nat} {level : Level} {cs rest : List Char}
    {ts : List Token} {e : Expr} (tall : ¬ e.height ≤ tallest) (phrase : Phrase level k ts e)
    (reads : Reads cs ts rest) : Exceeds tallest levels cs := by
  have height := height_le_operators phrase
  have operators := reads.countP_le isOperator
  exact .inr (by omega)

/-! ## Readers -/

/-- What is known where reading stopped: `read` holds of the tokens before it, or the text exceeds
the bounds. -/
def Halts (tallest levels : Nat) (read : List Token → Prop) (cs : List Char) : Stop → Prop
  | .stuck rest => ∃ ts, Reads cs ts rest ∧ read ts
  | .tooDeep rest => rest <:+ cs ∧ Exceeds tallest levels cs

theorem Halts.after {tallest levels inner : Nat} {read whole : List Token → Prop}
    {cs rest : List Char} {ts : List Token} {stop : Stop}
    (halts : Halts tallest inner read rest stop) (reads : Reads cs ts rest)
    (longer : ∀ us, read us → whole (ts ++ us))
    (room : levels ≤ inner + ts.countP (Token.passes isNesting)) :
    Halts tallest levels whole cs stop := by
  cases stop with
  | stuck last =>
    obtain ⟨us, further, known⟩ := halts
    exact ⟨ts ++ us, reads.trans further, longer us known⟩
  | tooDeep last =>
    obtain ⟨suffix, exceeds⟩ := halts
    exact ⟨suffix.trans reads.suffix, exceeds.of_reads reads room⟩

def Stops (tallest levels : Nat) (level : Level) (reader : Reader) : Prop :=
  ∀ cs stop, reader cs = .error stop → Halts tallest levels (Begins level) cs stop

theorem chainTail_stops {tallest levels : Nat} {op : BinaryOp} {operand : Reader}
    (sound : Sound op.operand operand) (stops : Stops tallest levels op.operand operand)
    {cs : List Char} {stop : Stop} {k : Nat} {ts : List Token} {first : Expr}
    (stopped : chainTail op.sign operand cs = .error stop)
    (phrase : Phrase (.chain op) k ts first) :
    Halts tallest levels (fun us => Begins (.chain op) (ts ++ us)) cs stop := by
  -- the operands that were read have joined the phrase in front
  fun_induction chainTail op.sign operand cs generalizing stop k ts first with
  | case1 => cases stopped
  | case2 cs afterOp found stop' readOperand =>
    cases stopped
    have sign : Reads cs [.binary op] afterOp := .of_operator rfl found .done
    exact (stops _ _ readOperand).after sign (fun us begins => .join phrase begins) (by omega)
  | case3 cs afterOp found e mid readOperand shorter stop' readMore ih =>
    cases stopped
    obtain ⟨-, m, us, longer, reads⟩ := sound.extend found readOperand phrase
    refine (ih readMore longer).after reads ?_ (by omega)
    intro vs begins
    rwa [← List.append_assoc]
  | case4 => cases stopped
  | case5 => cases stopped

theorem chain_stops {tallest levels : Nat} (op : BinaryOp) {operand : Reader}
    (sound : Sound op.operand operand) (stops : Stops tallest levels op.operand operand) :
    Stops tallest levels (.chain op) (chain tallest op.sign op.join operand) := by
  intro cs stop stopped
  simp only [chain] at stopped
  split at stopped
  · rename_i stop' readFirst
    cases stopped
    exact (stops _ _ readFirst).after .done (fun us begins => begins.single) (by omega)
  · rename_i first afterFirst readFirst
    obtain ⟨trimmed, k, ts, phrase, reads⟩ := sound readFirst
    split at stopped
    · rename_i stop' readTail
      cases stopped
      exact (chainTail_stops sound stops readTail (.single phrase)).after reads (fun us => id)
        (by omega)
    · rename_i others last readTail
      obtain ⟨-, m, us, whole, readsTail⟩ :=
        chainTail_sound sound readTail trimmed (.single phrase)
      split at stopped
      · contradiction
      · rename_i tall
        cases stopped
        exact ⟨reads.suffix, exceeds_of_height tall whole (reads.trans readsTail)⟩

theorem formula_stops {tallest levels : Nat} {operand : Reader} (sound : Sound .unary operand)
    (stops : Stops tallest levels .unary operand) :
    Stops tallest levels (.chain .or) (formula tallest operand) := by
  have product := chain_stops .and sound stops
  have sum := chain_stops .xor (chain_sound .and sound) product
  exact chain_stops .or (chain_sound .xor (chain_sound .and sound)) sum

theorem atom_stops {tallest levels : Nat} {inner : Reader} (sound : Sound (.chain .or) inner)
    (stops : Stops tallest levels (.chain .or) inner) :
    Stops tallest (levels + 1) .unary (atom inner) := by
  intro cs stop stopped
  simp only [atom] at stopped
  split at stopped
  · rename_i afterOpen start
    have opens : Reads cs [.opening] afterOpen := by
      apply Reads.of_skipSpaces
      rw [start]
      exact .sign rfl .done
    split at stopped
    · rename_i stop' readInner
      cases stopped
      exact (stops _ _ readInner).after opens (fun us begins => begins.parens) (Nat.le_refl _)
    · contradiction
    · -- no closing parenthesis follows the expression inside
      rename_i e rest _ readInner
      cases stopped
      obtain ⟨-, k, ts, phrase, reads⟩ := sound readInner
      exact ⟨.opening :: ts, opens.trans reads, phrase.begins.parens⟩
  · split at stopped
    · cases stopped
      exact ⟨[], .of_skipSpaces .done, begins_nil⟩
    · contradiction

theorem unary_stops {tallest : Nat} (levels : Nat) :
    Stops tallest levels .unary (unary tallest levels) := by
  induction levels with
  | zero =>
    intro cs stop stopped
    cases stopped
    exact ⟨List.suffix_refl cs, .inl (Nat.zero_le _)⟩
  | succ levels ih =>
    intro cs stop stopped
    simp only [unary] at stopped
    split at stopped
    · rename_i afterOp found
      have bang : Reads cs [.bang] afterOp := .of_operator rfl found .done
      split at stopped
      · rename_i stop' readInner
        cases stopped
        exact (ih _ _ readInner).after bang (fun us begins => begins.not) (Nat.le_refl _)
      · rename_i inner tail readInner
        split at stopped
        · contradiction
        · rename_i tall
          cases stopped
          obtain ⟨-, k, ts, phrase, reads⟩ := unary_sound levels readInner
          exact ⟨List.suffix_refl cs, exceeds_of_height tall phrase.not (bang.trans reads)⟩
    · have inner := formula_stops (unary_sound levels) ih
      exact atom_stops (formula_sound (unary_sound levels)) inner cs stop stopped

/-- Why a text is refused: its parentheses are not balanced, or reading is stuck behind the
beginning of an expression, or the text exceeds the bounds. -/
theorem parse_eq_error {source : String} {e : ParseError} (refused : parse source = .error e) :
    (∃ offset, unmatched? 0 [] source.toList = some offset ∧ e = .unbalanced offset) ∨
      unmatched? 0 [] source.toList = none ∧
        ((∃ ts rest, Reads source.toList ts rest ∧ Begins (.chain .or) ts ∧
            e = blame source.toList rest) ∨
          ∃ rest, rest <:+ source.toList ∧ Exceeds maxHeight (maxNesting + 1) source.toList ∧
            e = .tooDeep (Text.byteLength source.toList - Text.byteLength rest)) := by
  simp only [parse, parseChars] at refused
  split at refused
  · rename_i offset found
    cases refused
    exact .inl ⟨offset, found, rfl⟩
  · rename_i balanced
    refine .inr ⟨balanced, ?_⟩
    have stops : Stops maxHeight (maxNesting + 1) (.chain .or)
        (formula maxHeight (unary maxHeight (maxNesting + 1))) :=
      formula_stops (unary_sound _) (unary_stops _)
    split at refused
    · contradiction
    · rename_i tree rest _ read
      cases refused
      obtain ⟨-, k, ts, phrase, reads⟩ := formula_sound (unary_sound _) read
      exact .inl ⟨ts, rest, reads, phrase.begins, rfl⟩
    · rename_i rest stopped
      cases refused
      obtain ⟨ts, reads, begins⟩ := stops _ _ stopped
      exact .inl ⟨ts, rest, reads, begins, rfl⟩
    · rename_i rest stopped
      cases refused
      obtain ⟨suffix, exceeds⟩ := stops _ _ stopped
      exact .inr ⟨rest, suffix, exceeds, rfl⟩

end SelectionAlgebra.Expr
