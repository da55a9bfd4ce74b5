import SelectionAlgebra.Expr.Parser

/-!
The grammar of expressions, apart from any reader. A text is first read as tokens, between which
spaces may stand; a name is a maximal run of name characters. Phrases are lists of tokens, each with
its tree and with the greatest number of parentheses and negations around one of its operands.
-/

namespace SelectionAlgebra.Expr

inductive BinaryOp where
  | or
  | xor
  | and
deriving DecidableEq

namespace BinaryOp

def sign : BinaryOp → Char
  | or => '|'
  | xor => '^'
  | and => '&'

def join : BinaryOp → Expr → Expr → Expr
  | or => .or
  | xor => .xor
  | and => .and

def strength : BinaryOp → Nat
  | or => 0
  | xor => 1
  | and => 2

end BinaryOp

inductive Level where
  | chain (op : BinaryOp)
  | unary

def BinaryOp.operand : BinaryOp → Level
  | or => .chain .xor
  | xor => .chain .and
  | and => .unary

inductive Token where
  | name (name : String)
  | opening
  | closing
  | bang
  | binary (op : BinaryOp)
deriving DecidableEq

def Token.sign? : Token → Option Char
  | name _ => none
  | opening => some '('
  | closing => some ')'
  | bang => some '!'
  | binary op => some op.sign

/-- The first text reads as the tokens, up to where the second one begins. -/
inductive Reads : List Char → List Token → List Char → Prop where
  | done {cs : List Char} : Reads cs [] cs
  | space {c : Char} {cs rest : List Char} {ts : List Token} :
      isSpace c = true → Reads cs ts rest → Reads (c :: cs) ts rest
  | sign {t : Token} {c : Char} {cs rest : List Char} {ts : List Token} :
      t.sign? = some c → Reads cs ts rest → Reads (c :: cs) (t :: ts) rest
  | name {cs rest : List Char} {ts : List Token} :
      cs.takeWhile isNameChar ≠ [] → Reads (cs.dropWhile isNameChar) ts rest →
      Reads cs (.name (String.ofList (cs.takeWhile isNameChar)) :: ts) rest

/-- Phrases of a class, with the nesting of their operands and with their trees. A chain takes in
its operands from the left. -/
inductive Phrase : Level → Nat → List Token → Expr → Prop where
  | name (n : String) : Phrase .unary 0 [.name n] (.name n)
  | not {k : Nat} {ts : List Token} {e : Expr} :
      Phrase .unary k ts e → Phrase .unary (k + 1) (.bang :: ts) (.not e)
  | parens {k : Nat} {ts : List Token} {e : Expr} :
      Phrase (.chain .or) k ts e → Phrase .unary (k + 1) (.opening :: (ts ++ [.closing])) e
  | single {op : BinaryOp} {k : Nat} {ts : List Token} {e : Expr} :
      Phrase op.operand k ts e → Phrase (.chain op) k ts e
  | join {op : BinaryOp} {k m : Nat} {ts us : List Token} {l r : Expr} :
      Phrase (.chain op) k ts l → Phrase op.operand m us r →
      Phrase (.chain op) (max k m) (ts ++ .binary op :: us) (op.join l r)

/-- The text derives a tree, with operands under at most so many parentheses and negations. -/
def Derives (source : String) (nesting : Nat) (e : Expr) : Prop :=
  ∃ ts, Reads source.toList ts [] ∧ Phrase (.chain .or) nesting ts e

/-! ## Characters -/

theorem not_space_of_sign {t : Token} {c : Char} (sign : t.sign? = some c) :
    isSpace c = false := by
  cases t with
  | name n => cases sign
  | binary op => cases op <;> cases sign <;> rfl
  | _ => cases sign; rfl

theorem not_nameChar_of_sign {t : Token} {c : Char} (sign : t.sign? = some c) :
    isNameChar c = false := by
  cases t with
  | name n => cases sign
  | binary op => cases op <;> cases sign <;> decide
  | _ => cases sign; decide

theorem not_nameChar_of_space {c : Char} (space : isSpace c = true) : isNameChar c = false := by
  simp only [isSpace, Bool.or_eq_true, beq_iff_eq] at space
  rcases space with ((rfl | rfl) | rfl) | rfl <;> decide

theorem sign_injective {t u : Token} {c : Char} (left : t.sign? = some c)
    (right : u.sign? = some c) : t = u := by
  have same : t.sign? = u.sign? := left.trans right.symm
  rcases t with _ | _ | _ | _ | (_ | _ | _) <;> rcases u with _ | _ | _ | _ | (_ | _ | _) <;>
    first | rfl | exact absurd same (by decide) | (cases left; done) | cases right

/-! ## Reading tokens -/

theorem Reads.trans {cs mid rest : List Char} {ts us : List Token} (first : Reads cs ts mid)
    (second : Reads mid us rest) : Reads cs (ts ++ us) rest := by
  induction first with
  | done => exact second
  | space blank _ ih => exact .space blank (ih second)
  | sign sign _ ih => exact .sign sign (ih second)
  | name run _ ih => exact .name run (ih second)

theorem Reads.suffix {cs rest : List Char} {ts : List Token} (reads : Reads cs ts rest) :
    rest <:+ cs := by
  induction reads with
  | done => exact List.suffix_refl _
  | space _ _ ih => exact ih.trans (List.suffix_cons _ _)
  | sign _ _ ih => exact ih.trans (List.suffix_cons _ _)
  | name _ _ ih => exact ih.trans (List.dropWhile_suffix isNameChar)

theorem Reads.length_le {cs rest : List Char} {ts : List Token} (reads : Reads cs ts rest) :
    rest.length ≤ cs.length :=
  reads.suffix.length_le

theorem Reads.of_skipSpaces {cs rest : List Char} {ts : List Token}
    (reads : Reads (skipSpaces cs) ts rest) : Reads cs ts rest := by
  induction cs with
  | nil => exact reads
  | cons c cs ih =>
    simp only [skipSpaces, List.dropWhile_cons] at reads ih
    split at reads
    · rename_i blank
      exact .space blank (ih reads)
    · exact reads

theorem skipSpaces_cons_of_space {c : Char} {cs : List Char} (blank : isSpace c = true) :
    skipSpaces (c :: cs) = skipSpaces cs := by
  simp [skipSpaces, blank]

theorem skipSpaces_cons_of_not_space {c : Char} {cs : List Char} (solid : isSpace c = false) :
    skipSpaces (c :: cs) = c :: cs := by
  simp [skipSpaces, solid]

theorem skipSpaces_skipSpaces (cs : List Char) : skipSpaces (skipSpaces cs) = skipSpaces cs := by
  induction cs with
  | nil => rfl
  | cons c cs ih =>
    cases blank : isSpace c with
    | true => rw [skipSpaces_cons_of_space blank, ih]
    | false => rw [skipSpaces_cons_of_not_space blank, skipSpaces_cons_of_not_space blank]

theorem skipSpaces_of_run {cs : List Char} (run : cs.takeWhile isNameChar ≠ []) :
    skipSpaces cs = cs := by
  cases cs with
  | nil => rfl
  | cons c cs =>
    have nameChar : isNameChar c = true := by
      cases h : isNameChar c with
      | true => rfl
      | false => simp [h] at run
    have solid : isSpace c = false := by
      cases blank : isSpace c with
      | false => rfl
      | true => rw [not_nameChar_of_space blank] at nameChar; cases nameChar
    exact skipSpaces_cons_of_not_space solid

theorem Reads.skipSpaces {cs : List Char} {ts : List Token} (reads : Reads cs ts []) :
    Reads (skipSpaces cs) ts [] := by
  generalize last : ([] : List Char) = rest at reads
  induction reads with
  | done => subst last; exact .done
  | space blank _ ih => rw [skipSpaces_cons_of_space blank]; exact ih last
  | sign sign reads _ =>
    subst last
    rw [skipSpaces_cons_of_not_space (not_space_of_sign sign)]
    exact .sign sign reads
  | name run reads _ =>
    subst last
    rw [skipSpaces_of_run run]
    exact .name run reads

theorem Reads.nil_inv {cs : List Char} (reads : Reads cs [] []) : Expr.skipSpaces cs = [] := by
  generalize none : ([] : List Token) = ts, last : ([] : List Char) = rest at reads
  induction reads with
  | done => subst last; rfl
  | space blank _ ih => rw [skipSpaces_cons_of_space blank]; exact ih none last
  | sign => cases none
  | name => cases none

theorem Reads.sign_inv {cs : List Char} {t : Token} {c : Char} {ts : List Token}
    (sign : t.sign? = some c) (reads : Reads cs (t :: ts) []) :
    ∃ rest, Expr.skipSpaces cs = c :: rest ∧ Reads rest ts [] := by
  generalize tokens : t :: ts = all, last : ([] : List Char) = rest at reads
  induction reads with
  | done => cases tokens
  | space blank _ ih => rw [skipSpaces_cons_of_space blank]; exact ih tokens last
  | @sign u d cs rest us other reads _ =>
    subst last
    cases tokens
    cases Option.some.inj (sign.symm.trans other)
    exact ⟨cs, skipSpaces_cons_of_not_space (not_space_of_sign sign), reads⟩
  | name => cases tokens; cases sign

theorem Reads.name_inv {cs : List Char} {n : String} {ts : List Token}
    (reads : Reads cs (.name n :: ts) []) :
    (Expr.skipSpaces cs).takeWhile isNameChar ≠ [] ∧
      n = String.ofList ((Expr.skipSpaces cs).takeWhile isNameChar) ∧
      Reads ((Expr.skipSpaces cs).dropWhile isNameChar) ts [] := by
  generalize tokens : Token.name n :: ts = all, last : ([] : List Char) = rest at reads
  induction reads with
  | done => cases tokens
  | space blank _ ih => rw [skipSpaces_cons_of_space blank]; exact ih tokens last
  | sign sign => cases tokens; cases sign
  | name run reads _ =>
    subst last
    cases tokens
    rw [skipSpaces_of_run run]
    exact ⟨run, rfl, reads⟩

/-! ## Names in a text -/

theorem takeWhile_eq_nil_iff (cs : List Char) :
    cs.takeWhile isNameChar = [] ↔ cs.head?.any isNameChar = false := by
  cases cs with
  | nil => exact iff_of_true rfl rfl
  | cons c cs => cases nameChar : isNameChar c <;> simp [nameChar]

theorem head_dropWhile (cs : List Char) :
    (cs.dropWhile isNameChar).head?.any isNameChar = false := by
  have head := List.head?_dropWhile_not isNameChar cs
  cases start : (cs.dropWhile isNameChar).head? with
  | none => rfl
  | some c => simpa [start] using head

theorem Reads.run {name cs rest : List Char} {ts : List Token} (nonempty : name ≠ [])
    (named : ∀ c ∈ name, isNameChar c = true) (ends : cs.head?.any isNameChar = false)
    (reads : Reads cs ts rest) : Reads (name ++ cs) (.name (String.ofList name) :: ts) rest := by
  have next := (takeWhile_eq_nil_iff cs).mpr ends
  have taken : (name ++ cs).takeWhile isNameChar = name := by
    rw [List.takeWhile_append_of_pos named, next, List.append_nil]
  have dropped : (name ++ cs).dropWhile isNameChar = cs := by
    have whole : cs.takeWhile isNameChar ++ cs.dropWhile isNameChar = cs :=
      List.takeWhile_append_dropWhile
    rw [next, List.nil_append] at whole
    rw [List.dropWhile_append_of_pos named, whole]
  have further : Reads (name ++ cs)
      (.name (String.ofList ((name ++ cs).takeWhile isNameChar)) :: ts) rest :=
    .name (by rwa [taken]) (by rwa [dropped])
  rwa [taken] at further

/-- What is read stays so in front of anything but a character of a name. -/
theorem Reads.append {cs rest : List Char} {ts : List Token} (reads : Reads cs ts rest)
    {more : List Char} (ends : more.head?.any isNameChar = false) :
    Reads (cs ++ more) ts (rest ++ more) := by
  induction reads with
  | done => exact .done
  | space blank _ ih => exact .space blank ih
  | sign sign _ ih => exact .sign sign ih
  | @name cs rest ts run _ ih =>
    have named : ∀ c ∈ cs.takeWhile isNameChar, isNameChar c = true :=
      List.all_eq_true.mp List.all_takeWhile
    have next : (cs.dropWhile isNameChar ++ more).head?.any isNameChar = false := by
      have head := head_dropWhile cs
      cases start : cs.dropWhile isNameChar with
      | nil => exact ends
      | cons c tail => rwa [start] at head
    have reads := ih.run run named next
    rwa [← List.append_assoc, List.takeWhile_append_dropWhile] at reads

theorem getLast_cons {c : Char} (other : isNameChar c = false) (cs : List Char) :
    (c :: cs).getLast?.any isNameChar = cs.getLast?.any isNameChar := by
  cases cs with
  | nil => simp [other]
  | cons d cs => rw [List.getLast?_cons_cons]

/-- The text that is read, apart from the rest. Where it ends in a name, that name is complete. -/
theorem Reads.split {cs rest : List Char} {ts : List Token} (reads : Reads cs ts rest) :
    ∃ taken, cs = taken ++ rest ∧ Reads taken ts [] ∧
      (taken.getLast?.any isNameChar = true → rest.head?.any isNameChar = false) := by
  induction reads with
  | done => exact ⟨[], rfl, .done, by simp⟩
  | @space c cs rest ts blank _ ih =>
    obtain ⟨taken, rfl, reads, complete⟩ := ih
    refine ⟨c :: taken, rfl, .space blank reads, ?_⟩
    rwa [getLast_cons (not_nameChar_of_space blank)]
  | @sign t c cs rest ts sign _ ih =>
    obtain ⟨taken, rfl, reads, complete⟩ := ih
    refine ⟨c :: taken, rfl, .sign sign reads, ?_⟩
    rwa [getLast_cons (not_nameChar_of_sign sign)]
  | @name cs rest ts run _ ih =>
    obtain ⟨taken, same, reads, complete⟩ := ih
    have named : ∀ c ∈ cs.takeWhile isNameChar, isNameChar c = true :=
      List.all_eq_true.mp List.all_takeWhile
    have next := head_dropWhile cs
    have whole : cs = cs.takeWhile isNameChar ++ taken ++ rest := by
      rw [List.append_assoc, ← same, List.takeWhile_append_dropWhile]
    rw [same] at next
    refine ⟨cs.takeWhile isNameChar ++ taken, whole, ?_, ?_⟩
    · refine reads.run run named ?_
      cases taken with
      | nil => rfl
      | cons c taken => exact next
    · cases taken with
      | nil => exact fun _ => next
      | cons c taken =>
        intro ends
        apply complete
        simpa [List.getLast?_append, List.getLast?_cons] using ends

end SelectionAlgebra.Expr
