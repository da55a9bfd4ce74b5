import SelectionAlgebra.Proofs.Grammar.Soundness

/-!
What the grammar derives is read, up to the bounds: a phrase within them is read as its tree, and
any other one is refused for being too deep. Both are said of a phrase with tokens behind it, since
that is how the readers meet one. A chain is followed operand by operand, because its own tree grows
from the left while the reader goes on to the right.
-/

namespace SelectionAlgebra.Expr

def Level.strength : Level → Nat
  | chain op => op.strength
  | unary => 3

/-- A phrase of the class ends before these tokens: none of its own operators comes next. -/
def Level.EndsBefore (level : Level) (us : List Token) : Prop :=
  ∀ op vs, us = .binary op :: vs → op.strength < level.strength

def Level.reader (tallest : Nat) (innermost : Reader) : Level → Reader
  | unary => innermost
  | chain .and => Expr.chain tallest '&' .and innermost
  | chain .xor => Expr.chain tallest '^' .xor (Expr.chain tallest '&' .and innermost)
  | chain .or => formula tallest innermost

theorem reader_chain (tallest : Nat) (innermost : Reader) (op : BinaryOp) :
    (Level.chain op).reader tallest innermost =
      chain tallest op.sign op.join (op.operand.reader tallest innermost) := by
  cases op <;> rfl

theorem reader_sound {tallest : Nat} {innermost : Reader} (sound : Sound .unary innermost) :
    ∀ level : Level, Sound level (level.reader tallest innermost)
  | .unary => sound
  | .chain .and => chain_sound .and sound
  | .chain .xor => chain_sound .xor (chain_sound .and sound)
  | .chain .or => formula_sound sound

theorem endsBefore_binary (op : BinaryOp) (us : List Token) :
    op.operand.EndsBefore (.binary op :: us) := by
  intro other vs same
  cases same
  cases op <;> decide

theorem endsBefore_operand {op : BinaryOp} {us : List Token}
    (ends : (Level.chain op).EndsBefore us) : op.operand.EndsBefore us := by
  intro other vs same
  have weaker := ends other vs same
  cases op <;> simp only [BinaryOp.operand, Level.strength, BinaryOp.strength] at weaker ⊢ <;> omega

theorem endsBefore_closing (level : Level) (us : List Token) :
    level.EndsBefore (.closing :: us) := by
  intro op vs same
  cases same

theorem endsBefore_nil (level : Level) : level.EndsBefore [] := by
  intro op vs same
  cases same

/-- How a phrase with tokens behind it is read: as its tree, or refused for its depth. -/
def Outcome (tallest levels k : Nat) (e : Expr) (us : List Token)
    (result : Except Stop (Expr × List Char)) : Prop :=
  (k < levels ∧ e.height ≤ tallest ∧ ∃ rest, result = .ok (e, rest) ∧ Reads rest us []) ∨
    (¬ (k < levels ∧ e.height ≤ tallest) ∧ ∃ rest, result = .error (.tooDeep rest))

/-! ## Operators -/

theorem operator?_of_reads {t : Token} {c : Char} {cs : List Char} {ts : List Token}
    (sign : t.sign? = some c) (reads : Reads cs (t :: ts) []) :
    ∃ afterOp, operator? c cs = some afterOp ∧ Reads afterOp ts [] := by
  obtain ⟨tail, start, readsTail⟩ := reads.sign_inv sign
  refine ⟨skipSpaces tail, ?_, readsTail.skipSpaces⟩
  simp [operator?, start]

theorem operator?_eq_none {t : Token} {c : Char} {cs : List Char} {us : List Token}
    (sign : t.sign? = some c) (other : us.head? ≠ some t) (reads : Reads cs us []) :
    operator? c cs = none := by
  cases us with
  | nil => simp [operator?, reads.nil_inv]
  | cons u us =>
    cases next : u.sign? with
    | some d =>
      obtain ⟨tail, start, -⟩ := reads.sign_inv next
      have different : d ≠ c := by
        intro same
        subst same
        exact other (congrArg some (sign_injective next sign))
      simp [operator?, start, different]
    | none =>
      cases u with
      | name n =>
        obtain ⟨run, -, -⟩ := reads.name_inv
        cases start : skipSpaces cs with
        | nil => simp [operator?, start]
        | cons d tail =>
          have different : d ≠ c := by
            intro same
            subst same
            simp [start, not_nameChar_of_sign sign] at run
          simp [operator?, start, different]
      | _ => cases next

/-! ## Chains -/

def chainFrom (op : BinaryOp) (operand : Reader) (first : Expr) : Reader := fun cs =>
  match chainTail op.sign operand cs with
  | .error stop => .error stop
  | .ok (others, rest) => .ok (others.foldl op.join first, rest)

/-- A chain from its first operand on, without the check of its height. -/
def wholeChain (op : BinaryOp) (operand : Reader) : Reader := fun cs =>
  match operand cs with
  | .error stop => .error stop
  | .ok (first, afterFirst) => chainFrom op operand first afterFirst

theorem chainFrom_none {op : BinaryOp} {operand : Reader} {first : Expr} {cs : List Char}
    (absent : operator? op.sign cs = none) : chainFrom op operand first cs = .ok (first, cs) := by
  unfold chainFrom chainTail
  simp [absent]

theorem chainFrom_error {op : BinaryOp} {operand : Reader} {first : Expr} {cs afterOp : List Char}
    {stop : Stop} (found : operator? op.sign cs = some afterOp)
    (stopped : operand afterOp = .error stop) : chainFrom op operand first cs = .error stop := by
  unfold chainFrom chainTail
  simp [found, stopped]

theorem chainFrom_some {op : BinaryOp} {operand : Reader} {first e : Expr}
    {cs afterOp rest : List Char} (found : operator? op.sign cs = some afterOp)
    (read : operand afterOp = .ok (e, rest)) (shorter : rest.length < cs.length) :
    chainFrom op operand first cs = chainFrom op operand (op.join first e) rest := by
  unfold chainFrom
  rw [chainTail]
  simp only [found, read, if_pos shorter]
  cases chainTail op.sign operand rest <;> rfl

theorem chain_of_wholeChain_error {tallest : Nat} {op : BinaryOp} {operand : Reader}
    {cs : List Char} {stop : Stop} (stopped : wholeChain op operand cs = .error stop) :
    chain tallest op.sign op.join operand cs = .error stop := by
  simp only [wholeChain, chainFrom, chain] at stopped ⊢
  split at stopped
  · rename_i first
    simpa [first] using stopped
  · rename_i first
    split at stopped
    · rename_i others
      simpa [first, others] using stopped
    · contradiction

theorem chain_of_wholeChain_ok (tallest : Nat) {op : BinaryOp} {operand : Reader}
    {cs rest : List Char} {e : Expr} (read : wholeChain op operand cs = .ok (e, rest)) :
    (e.height ≤ tallest → chain tallest op.sign op.join operand cs = .ok (e, rest)) ∧
      (¬ e.height ≤ tallest →
        ∃ last, chain tallest op.sign op.join operand cs = .error (.tooDeep last)) := by
  simp only [wholeChain, chainFrom, chain] at read ⊢
  cases first : operand cs with
  | error stop => rw [first] at read; cases read
  | ok operandRead =>
    obtain ⟨start, afterFirst⟩ := operandRead
    simp only [first] at read ⊢
    cases others : chainTail op.sign operand afterFirst with
    | error stop => rw [others] at read; cases read
    | ok tailRead =>
      obtain ⟨operands, last⟩ := tailRead
      simp only [others] at read ⊢
      cases read
      exact ⟨fun fits => if_pos fits, fun tooTall => ⟨_, if_neg tooTall⟩⟩

def ChainOutcome (tallest levels k : Nat) (op : BinaryOp) (operand : Reader) (e : Expr)
    (us : List Token) (cs : List Char) : Prop :=
  (k < levels ∧
      ∃ rest, wholeChain op operand cs = chainFrom op operand e rest ∧ Reads rest us []) ∨
    (¬ (k < levels ∧ e.height ≤ tallest) ∧
      ∃ rest, wholeChain op operand cs = .error (.tooDeep rest))

theorem ChainOutcome.outcome {tallest levels k : Nat} {op : BinaryOp} {operand : Reader} {e : Expr}
    {us : List Token} {cs : List Char} (ends : (Level.chain op).EndsBefore us)
    (begun : ChainOutcome tallest levels k op operand e us cs) :
    Outcome tallest levels k e us (chain tallest op.sign op.join operand cs) := by
  rcases begun with ⟨shallow, rest, whole, reads⟩ | ⟨deep, rest, refused⟩
  · have other : us.head? ≠ some (.binary op) := by
      intro next
      obtain ⟨vs, same⟩ := List.head?_eq_some_iff.mp next
      exact Nat.lt_irrefl _ (ends op vs same)
    have absent : operator? op.sign rest = none := operator?_eq_none rfl other reads
    rw [chainFrom_none absent] at whole
    obtain ⟨accepts, refuses⟩ := chain_of_wholeChain_ok tallest whole
    by_cases fits : e.height ≤ tallest
    · exact .inl ⟨shallow, fits, rest, accepts fits, reads⟩
    · exact .inr ⟨fun bounds => fits bounds.2, refuses fits⟩
  · exact .inr ⟨deep, rest, chain_of_wholeChain_error refused⟩

theorem height_join (op : BinaryOp) (l r : Expr) :
    (op.join l r).height = max l.height r.height + 1 := by
  cases op <;> rfl

/-! ## Phrases -/

/-- A phrase is read rightly by the reader of its class, whatever the room for nesting. -/
def ReadRightly (tallest : Nat) : Level → Nat → List Token → Expr → Prop
  | .unary, k, ts, e =>
    ∀ levels us cs, Reads cs (ts ++ us) [] →
      Outcome tallest levels k e us (unary tallest levels cs)
  | .chain op, k, ts, e =>
    ∀ levels us cs, op.operand.EndsBefore us → Reads cs (ts ++ us) [] →
      ChainOutcome tallest levels k op (op.operand.reader tallest (unary tallest levels)) e us cs

theorem ReadRightly.outcome {tallest k : Nat} {level : Level} {ts us : List Token}
    {e : Expr} {cs : List Char} (right : ReadRightly tallest level k ts e) (levels : Nat)
    (ends : level.EndsBefore us) (reads : Reads cs (ts ++ us) []) :
    Outcome tallest levels k e us (level.reader tallest (unary tallest levels) cs) := by
  cases level with
  | unary => exact right levels us cs reads
  | chain op =>
    rw [reader_chain]
    exact (right levels us cs (endsBefore_operand ends) reads).outcome ends

theorem readRightly_name {tallest : Nat} (positive : 0 < tallest) (n : String) :
    ReadRightly tallest .unary 0 [.name n] (.name n) := by
  intro levels us cs reads
  cases levels with
  | zero => exact .inr ⟨fun bounds => Nat.lt_irrefl 0 bounds.1, cs, rfl⟩
  | succ levels =>
    obtain ⟨run, same, behind⟩ := reads.name_inv
    have absent : operator? '!' cs = none :=
      operator?_eq_none (t := .bang) rfl (by simp) reads
    refine .inl ⟨Nat.succ_pos levels, positive, _, ?_, behind.skipSpaces⟩
    simp only [unary, absent, atom]
    split
    · -- a name does not begin with a parenthesis
      rename_i afterOpen start
      have noName : isNameChar '(' = false := not_nameChar_of_sign (t := .opening) rfl
      simp [start, noName] at run
    · split
      · contradiction
      · rw [same]

theorem readRightly_not {tallest k : Nat} {ts : List Token} {e : Expr}
    (right : ReadRightly tallest .unary k ts e) :
    ReadRightly tallest .unary (k + 1) (.bang :: ts) e.not := by
  intro levels us cs reads
  cases levels with
  | zero => exact .inr ⟨fun bounds => Nat.not_lt_zero _ bounds.1, cs, rfl⟩
  | succ levels =>
    obtain ⟨afterOp, found, behind⟩ := operator?_of_reads (t := .bang) rfl reads
    have height : e.not.height = e.height + 1 := rfl
    simp only [unary, found]
    rcases right levels us afterOp behind with
      ⟨shallow, fits, rest, read, readsRest⟩ | ⟨deep, rest, refused⟩
    · simp only [read]
      by_cases higher : e.not.height ≤ tallest
      · exact .inl ⟨Nat.succ_lt_succ shallow, higher, rest, if_pos higher, readsRest⟩
      · exact .inr ⟨fun bounds => higher bounds.2, cs, if_neg higher⟩
    · refine .inr ⟨fun bounds => deep ?_, rest, by simp only [refused]⟩
      omega

theorem readRightly_parens {tallest k : Nat} {ts : List Token} {e : Expr}
    (right : ReadRightly tallest (.chain .or) k ts e) :
    ReadRightly tallest .unary (k + 1) (.opening :: (ts ++ [.closing])) e := by
  intro levels us cs reads
  cases levels with
  | zero => exact .inr ⟨fun bounds => Nat.not_lt_zero _ bounds.1, cs, rfl⟩
  | succ levels =>
    have absent : operator? '!' cs = none :=
      operator?_eq_none (t := .bang) rfl (by simp) reads
    rw [List.cons_append, List.append_assoc] at reads
    obtain ⟨afterOpen, start, inside⟩ := reads.sign_inv (t := .opening) rfl
    simp only [unary, absent, atom, start]
    rcases right.outcome levels (endsBefore_closing _ us) inside with
      ⟨shallow, fits, rest, read, readsRest⟩ | ⟨deep, rest, refused⟩
    · obtain ⟨trimmed, -⟩ := reader_sound (unary_sound levels) (.chain .or) read
      obtain ⟨tail, close, behind⟩ := readsRest.sign_inv (t := .closing) rfl
      rw [trimmed] at close
      subst close
      simp only [Level.reader] at read
      simp only [read]
      exact .inl ⟨Nat.succ_lt_succ shallow, fits, _, rfl, behind.skipSpaces⟩
    · simp only [Level.reader] at refused
      simp only [refused]
      exact .inr ⟨fun bounds => deep ⟨Nat.lt_of_succ_lt_succ bounds.1, bounds.2⟩, rest, rfl⟩

theorem readRightly_single {tallest k : Nat} {op : BinaryOp} {ts : List Token} {e : Expr}
    (right : ReadRightly tallest op.operand k ts e) :
    ReadRightly tallest (.chain op) k ts e := by
  intro levels us cs ends reads
  rcases right.outcome levels ends reads with
    ⟨shallow, fits, rest, read, readsRest⟩ | ⟨deep, rest, refused⟩
  · exact .inl ⟨shallow, rest, by simp only [wholeChain, read], readsRest⟩
  · exact .inr ⟨deep, rest, by simp only [wholeChain, refused]⟩

theorem readRightly_join {tallest k m : Nat} {op : BinaryOp} {ts us : List Token} {l r : Expr}
    (left : ReadRightly tallest (.chain op) k ts l)
    (right : ReadRightly tallest op.operand m us r) :
    ReadRightly tallest (.chain op) (max k m) (ts ++ .binary op :: us) (op.join l r) := by
  intro levels vs cs ends reads
  have height := height_join op l r
  rw [List.append_assoc] at reads
  rcases left levels _ cs (endsBefore_binary op _) reads with
    ⟨shallow, mid, begun, readsMid⟩ | ⟨deep, rest, refused⟩
  · obtain ⟨afterOp, found, behind⟩ := operator?_of_reads (t := .binary op) rfl readsMid
    rcases right.outcome levels ends behind with
      ⟨shallowRight, fits, rest, read, readsRest⟩ | ⟨deep, rest, refused⟩
    · obtain ⟨-, _, _, -, consumed⟩ := reader_sound (unary_sound levels) op.operand read
      have shorter : rest.length < mid.length :=
        Nat.lt_of_le_of_lt consumed.length_le (operator?_length_lt found)
      exact .inl ⟨Nat.max_lt.mpr ⟨shallow, shallowRight⟩, rest,
        begun.trans (chainFrom_some found read shorter), readsRest⟩
    · refine .inr ⟨fun bounds => deep ?_, rest, begun.trans (chainFrom_error found refused)⟩
      omega
  · refine .inr ⟨fun bounds => deep ?_, rest, refused⟩
    omega

theorem readRightly_of_phrase {tallest k : Nat} (positive : 0 < tallest) {level : Level}
    {ts : List Token} {e : Expr} (phrase : Phrase level k ts e) :
    ReadRightly tallest level k ts e := by
  induction phrase with
  | name n => exact readRightly_name positive n
  | not _ ih => exact readRightly_not ih
  | parens _ ih => exact readRightly_parens ih
  | single _ ih => exact readRightly_single ih
  | join _ _ left right => exact readRightly_join left right

/-- A derivation is read as its tree or refused, as its nesting and height are within the bounds or
not. -/
theorem formula_outcome {tallest k : Nat} (positive : 0 < tallest) (levels : Nat) {source : String}
    {e : Expr} (derived : Derives source k e) :
    Outcome tallest levels k e [] (formula tallest (unary tallest levels) source.toList) := by
  obtain ⟨ts, reads, phrase⟩ := derived
  rw [← List.append_nil ts] at reads
  exact (readRightly_of_phrase positive phrase).outcome levels (endsBefore_nil _) reads

end SelectionAlgebra.Expr
