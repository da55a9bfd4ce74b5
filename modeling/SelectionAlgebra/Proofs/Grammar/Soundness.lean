import SelectionAlgebra.Proofs.Grammar.Basic

/-!
What the readers accept is in the grammar. Each reader is sound when the readers that it is made of
are; the bounds on nesting and height play no part.
-/

namespace SelectionAlgebra.Expr

/-- What the reader accepts is a phrase of the class, and it leaves no spaces before the rest. -/
def Sound (level : Level) (reader : Reader) : Prop :=
  ∀ {cs : List Char} {e : Expr} {rest : List Char}, reader cs = .ok (e, rest) →
    skipSpaces rest = rest ∧ ∃ k ts, Phrase level k ts e ∧ Reads cs ts rest

theorem operator?_eq_some {c : Char} {cs afterOp : List Char}
    (found : operator? c cs = some afterOp) :
    ∃ tail, skipSpaces cs = c :: tail ∧ afterOp = skipSpaces tail := by
  unfold operator? at found
  split at found
  · rename_i d tail start
    split at found
    · rename_i same
      exact ⟨tail, same ▸ start, (Option.some.inj found).symm⟩
    · contradiction
  · contradiction

theorem Reads.of_operator {t : Token} {c : Char} {cs afterOp rest : List Char} {ts : List Token}
    (sign : t.sign? = some c) (found : operator? c cs = some afterOp)
    (reads : Reads afterOp ts rest) : Reads cs (t :: ts) rest := by
  obtain ⟨tail, start, rfl⟩ := operator?_eq_some found
  apply Reads.of_skipSpaces
  rw [start]
  exact .sign sign (.of_skipSpaces reads)

theorem skipSpaces_length_le (cs : List Char) : (skipSpaces cs).length ≤ cs.length :=
  (List.dropWhile_sublist isSpace).length_le

theorem operator?_length_lt {c : Char} {cs afterOp : List Char}
    (found : operator? c cs = some afterOp) : afterOp.length < cs.length := by
  obtain ⟨tail, start, rfl⟩ := operator?_eq_some found
  have whole := skipSpaces_length_le cs
  have part := skipSpaces_length_le tail
  rw [start, List.length_cons] at whole
  omega

theorem Sound.extend {op : BinaryOp} {operand : Reader} (sound : Sound op.operand operand)
    {cs afterOp rest : List Char} {e first : Expr} {k : Nat} {ts : List Token}
    (found : operator? op.sign cs = some afterOp) (read : operand afterOp = .ok (e, rest))
    (phrase : Phrase (.chain op) k ts first) :
    skipSpaces rest = rest ∧
      ∃ m us, Phrase (.chain op) m (ts ++ us) (op.join first e) ∧ Reads cs us rest := by
  obtain ⟨trimmed, m, us, part, reads⟩ := sound read
  exact ⟨trimmed, max k m, .binary op :: us, .join phrase part, .of_operator rfl found reads⟩

theorem chainTail_sound {op : BinaryOp} {operand : Reader} (sound : Sound op.operand operand)
    {cs rest : List Char} {others : List Expr} {k : Nat} {ts : List Token} {first : Expr}
    (read : chainTail op.sign operand cs = .ok (others, rest)) (trimmed : skipSpaces cs = cs)
    (phrase : Phrase (.chain op) k ts first) :
    skipSpaces rest = rest ∧
      ∃ m us, Phrase (.chain op) m (ts ++ us) (others.foldl op.join first) ∧ Reads cs us rest := by
  fun_induction chainTail op.sign operand cs generalizing others rest k ts first with
  | case1 cs absent =>
    cases read
    exact ⟨trimmed, k, [], by simpa using phrase, .done⟩
  | case2 => cases read
  | case3 => cases read
  | case4 cs afterOp found e mid readOperand shorter more last readMore ih =>
    cases read
    obtain ⟨midTrimmed, m, us, longer, reads⟩ := sound.extend found readOperand phrase
    obtain ⟨restTrimmed, n, vs, whole, readsMore⟩ := ih readMore midTrimmed longer
    refine ⟨restTrimmed, n, us ++ vs, ?_, reads.trans readsMore⟩
    simpa only [List.append_assoc, List.foldl_cons] using whole
  | case5 cs afterOp found e last readOperand =>
    cases read
    exact sound.extend found readOperand phrase

theorem chain_sound {tallest : Nat} (op : BinaryOp) {operand : Reader}
    (sound : Sound op.operand operand) :
    Sound (.chain op) (chain tallest op.sign op.join operand) := by
  intro cs e rest read
  simp only [chain] at read
  split at read
  · contradiction
  · rename_i first afterFirst readFirst
    obtain ⟨trimmed, k, ts, phrase, reads⟩ := sound readFirst
    split at read
    · contradiction
    · rename_i others last readTail
      split at read
      · cases read
        obtain ⟨restTrimmed, m, us, whole, readsTail⟩ :=
          chainTail_sound sound readTail trimmed (.single phrase)
        exact ⟨restTrimmed, m, ts ++ us, whole, reads.trans readsTail⟩
      · contradiction

theorem formula_sound {tallest : Nat} {operand : Reader} (sound : Sound .unary operand) :
    Sound (.chain .or) (formula tallest operand) :=
  chain_sound .or (chain_sound .xor (chain_sound .and sound))

theorem atom_sound {inner : Reader} (sound : Sound (.chain .or) inner) :
    Sound .unary (atom inner) := by
  intro cs e rest read
  simp only [atom] at read
  split at read
  · rename_i afterOpen start
    split at read
    · contradiction
    · rename_i e' tail readInner
      cases read
      obtain ⟨-, k, ts, phrase, reads⟩ := sound readInner
      have closes : Reads (')' :: tail) [.closing] (skipSpaces tail) :=
        .sign rfl (.of_skipSpaces .done)
      have opens : Reads (skipSpaces cs) (.opening :: (ts ++ [.closing])) (skipSpaces tail) := by
        rw [start]
        exact .sign rfl (reads.trans closes)
      exact ⟨skipSpaces_skipSpaces tail, k + 1, _, .parens phrase, .of_skipSpaces opens⟩
    · contradiction
  · split at read
    · contradiction
    · rename_i run isRun
      cases read
      have name : Reads (skipSpaces cs)
          [.name (String.ofList ((skipSpaces cs).takeWhile isNameChar))] _ :=
        .name isRun (.of_skipSpaces .done)
      exact ⟨skipSpaces_skipSpaces _, 0, _, .name _, .of_skipSpaces name⟩

theorem unary_sound {tallest : Nat} (levels : Nat) : Sound .unary (unary tallest levels) := by
  induction levels with
  | zero => intro cs e rest read; cases read
  | succ levels ih =>
    intro cs e rest read
    simp only [unary] at read
    split at read
    · rename_i afterOp found
      split at read
      · contradiction
      · rename_i inner tail readInner
        split at read
        · cases read
          obtain ⟨trimmed, k, ts, phrase, reads⟩ := ih readInner
          exact ⟨trimmed, k + 1, _, .not phrase, .of_operator rfl found reads⟩
        · contradiction
    · exact atom_sound (formula_sound ih) read

theorem derives_of_parse {source : String} {e : Expr} (read : parse source = .ok e) :
    ∃ k, Derives source k e := by
  simp only [parse, parseChars] at read
  split at read
  · contradiction
  · split at read
    · rename_i whole
      cases read
      obtain ⟨-, k, ts, phrase, reads⟩ := formula_sound (unary_sound _) whole
      exact ⟨k, ts, reads, phrase⟩
    · contradiction
    · contradiction
    · contradiction

end SelectionAlgebra.Expr
