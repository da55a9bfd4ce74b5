import SelectionAlgebra.Proofs.Grammar.Faults

/-!
What stands before an error can still become an expression. The readers stop behind the beginning of
a phrase, and tokens that complete it can be written there. What is blamed lies further on, behind
blanks of every kind, while the grammar has only four of them.
-/

namespace SelectionAlgebra

def ParseError.misplaced : ParseError → Bool
  | missingOperand _ | invalidToken _ _ => true
  | unbalanced _ | tooDeep _ => false

namespace Expr

/-- Some text behind this one makes it derive an expression, whatever the nesting. -/
def Viable (cs : List Char) : Prop :=
  ∃ more k e, Derives (String.ofList (cs ++ more)) k e

/-! ## Writing tokens -/

def Token.spelling : Token → List Char
  | name n => n.toList
  | opening => ['(']
  | closing => [')']
  | bang => ['!']
  | binary op => [op.sign]

def spell (ts : List Token) : List Char :=
  ts.flatMap fun t => ' ' :: t.spelling

theorem head_spell (ts : List Token) : (spell ts).head?.any isNameChar = false := by
  cases ts with
  | nil => rfl
  | cons t ts =>
    change isNameChar ' ' = false
    decide

theorem reads_spell {ts : List Token} (named : ∀ n, .name n ∈ ts → IsName n) :
    Reads (spell ts) ts [] := by
  induction ts with
  | nil => exact .done
  | cons t ts ih =>
    have rest := ih fun n member => named n (List.mem_cons_of_mem _ member)
    apply Reads.space rfl
    cases t with
    | name n =>
      obtain ⟨nonempty, nameChars⟩ := named n List.mem_cons_self
      have reads := rest.run (by simpa using nonempty) nameChars (head_spell ts)
      rwa [String.ofList_toList] at reads
    | binary op => exact .sign rfl rest
    | _ => exact .sign rfl rest

/-! ## Going on -/

theorem viable_of_reads {cs : List Char} {ts : List Token} (reads : Reads cs ts [])
    (begins : Begins (.chain .or) ts) : Viable cs := by
  obtain ⟨us, k, e, phrase, named⟩ := begins
  refine ⟨spell us, k, e, ts ++ us, ?_, phrase⟩
  rw [String.toList_ofList]
  exact (reads.append (head_spell us)).trans (reads_spell named)

theorem Reads.append_spaces {cs : List Char} {ts : List Token} (reads : Reads cs ts [])
    {spaces : List Char} (space : ∀ c ∈ spaces, isSpace c = true) : Reads (cs ++ spaces) ts [] := by
  have only : Reads spaces [] [] := by
    induction spaces with
    | nil => exact .done
    | cons c spaces ih =>
      obtain ⟨first, others⟩ := List.forall_mem_cons.mp space
      exact .space first (ih others)
  have ends : spaces.head?.any isNameChar = false := by
    cases spaces with
    | nil => rfl
    | cons c spaces => exact not_nameChar_of_space (space c List.mem_cons_self)
  have whole := (reads.append ends).trans only
  rwa [List.append_nil] at whole

/-! ## Characters of the grammar -/

theorem Reads.of_mem {cs rest : List Char} {ts : List Token} (reads : Reads cs ts rest) {c : Char}
    (member : c ∈ cs) :
    isSpace c = true ∨ isNameChar c = true ∨ (∃ t : Token, t.sign? = some c) ∨ c ∈ rest := by
  induction reads with
  | done => exact .inr (.inr (.inr member))
  | space blank _ ih =>
    rcases List.mem_cons.mp member with rfl | member
    · exact .inl blank
    · exact ih member
  | @sign t _ _ _ _ sign _ ih =>
    rcases List.mem_cons.mp member with rfl | member
    · exact .inr (.inr (.inl ⟨t, sign⟩))
    · exact ih member
  | @name cs _ _ _ _ ih =>
    have whole : cs.takeWhile isNameChar ++ cs.dropWhile isNameChar = cs :=
      List.takeWhile_append_dropWhile
    rw [← whole] at member
    rcases List.mem_append.mp member with inName | member
    · exact .inr (.inl (List.all_eq_true.mp List.all_takeWhile c inName))
    · exact ih member

theorem not_blank_of_sign {t : Token} {c : Char} (sign : t.sign? = some c) :
    Text.isBlank c = false := by
  cases t with
  | name n => cases sign
  | binary op => cases op <;> cases sign <;> decide
  | _ => cases sign; decide

theorem isSpace_of_derives {source : String} {k : Nat} {e : Expr} (derived : Derives source k e)
    {c : Char} (member : c ∈ source.toList) (blank : Text.isBlank c = true) : isSpace c = true := by
  obtain ⟨ts, reads, -⟩ := derived
  rcases reads.of_mem member with space | nameChar | ⟨t, sign⟩ | none
  · exact space
  · rw [not_nameChar_of_blank blank] at nameChar
    cases nameChar
  · rw [not_blank_of_sign sign] at blank
    cases blank
  · cases none

/-! ## Errors -/

theorem viable_append_blanks {cs blanks : List Char} {ts : List Token} (reads : Reads cs ts [])
    (begins : Begins (.chain .or) ts) (blank : ∀ c ∈ blanks, Text.isBlank c = true) :
    Viable (cs ++ blanks) ↔ ∀ c ∈ blanks, isSpace c = true := by
  constructor
  · rintro ⟨more, k, e, derived⟩ c member
    refine isSpace_of_derives derived ?_ (blank c member)
    rw [String.toList_ofList]
    exact List.mem_append_left _ (List.mem_append_right _ member)
  · intro spaces
    exact viable_of_reads (reads.append_spaces spaces) begins

/-- Between the offset of an error and a text that can still become an expression there are only
blanks. So what stands before the offset can become one, too, unless a blank among them is none of
the spaces of the grammar. -/
theorem parse_error_viable {source : String} {e : ParseError} (refused : parse source = .error e)
    (misplaced : e.misplaced = true) :
    ∃ taken blanks after, source.toList = taken ++ blanks ++ after ∧
      e.offset = Text.byteLength (taken ++ blanks) ∧ (∀ c ∈ blanks, Text.isBlank c = true) ∧
      Viable taken ∧ (Viable (taken ++ blanks) ↔ ∀ c ∈ blanks, isSpace c = true) := by
  rcases parse_eq_error refused with
    ⟨offset, -, rfl⟩ | ⟨-, ⟨ts, rest, reads, begins, rfl⟩ | ⟨rest, -, -, rfl⟩⟩
  · cases misplaced
  · obtain ⟨taken, split, readsTaken, complete⟩ := reads.split
    obtain ⟨blanks, after, rfl, blank, fault⟩ := blame_fault complete
    rw [← split] at fault
    refine ⟨taken, blanks, after, by rw [split, List.append_assoc], fault.offset_eq, blank,
      viable_of_reads readsTaken begins, viable_append_blanks readsTaken begins blank⟩
  · cases misplaced

/-- A name where an operator has to stand, behind a space of the grammar. -/
theorem parse_error_viable_space :
    parse "a b" = .error (.invalidToken "b" 2) ∧
      ∃ taken blanks after, "a b".toList = taken ++ blanks ++ after ∧
        2 = Text.byteLength (taken ++ blanks) ∧ (∀ c ∈ blanks, Text.isBlank c = true) ∧
        Viable taken ∧ (Viable (taken ++ blanks) ↔ ∀ c ∈ blanks, isSpace c = true) := by
  have refused : parse "a b" = .error (.invalidToken "b" 2) := by decide +kernel
  exact ⟨refused, parse_error_viable refused rfl⟩

/-- A no-break space is a blank, but the grammar has no such space: the name behind it is blamed,
which could stand there, although nothing that begins with what is before it is an expression. -/
theorem not_viable_behind_noBreakSpace :
    Balanced "a & \u00a0b".toList ∧ parse "a & \u00a0b" = .error (.invalidToken "b" 6) ∧
      "a & \u00a0b".toList = "a & \u00a0".toList ++ ['b'] ∧
      Text.byteLength "a & \u00a0".toList = 6 ∧ ¬ Viable "a & \u00a0".toList := by
  refine ⟨(unmatched?_eq_none_iff_balanced _).mp (by decide), by decide +kernel, by decide,
    by decide, ?_⟩
  rintro ⟨more, k, e, derived⟩
  have member : '\u00a0' ∈ (String.ofList ("a & \u00a0".toList ++ more)).toList := by simp
  have space : isSpace '\u00a0' = true := isSpace_of_derives derived member (by decide)
  exact absurd space (by decide)

end Expr

end SelectionAlgebra
