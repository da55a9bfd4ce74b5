import Mathlib.Tactic.IntervalCases
import SelectionAlgebra.Json.Scanner
import SelectionAlgebra.Json.Value
import SelectionAlgebra.Proofs.Failure

/-!
Strings and numbers that are read as they were written. A string is read back character by
character. A number that is read to the end of its text is read in the same way when something
follows that is no part of a number.
-/

namespace SelectionAlgebra.Json

/-! ## Strings -/

section

variable {strictness : Strictness}

theorem stringRest_plain {c : Char} (noQuote : c ≠ '"') (noEscape : c ≠ '\\')
    (visible : 32 ≤ c.toNat) (more : List Char) :
    stringRest strictness (c :: more) =
      (stringRest strictness more).map fun read => (c :: read.1, read.2) := by
  rw [stringRest, if_neg noQuote, if_neg (Nat.not_lt.mpr visible), if_neg noEscape]
  simp only [Nat.le_refl, if_true]
  cases stringRest strictness more <;> rfl

theorem stringRest_escape {body : List Char} {c : Char} {more : List Char}
    (names : escape strictness (body ++ more) = .ok (c, more)) :
    stringRest strictness ('\\' :: body ++ more) =
      (stringRest strictness more).map fun read => (c :: read.1, read.2) := by
  have shorter : more.length ≤ (body ++ more).length := by simp
  rw [List.cons_append, stringRest, if_neg (by decide), if_neg (by decide), if_pos rfl, names]
  simp only [shorter, if_true]
  cases stringRest strictness more <;> rfl

theorem escape_control {n : Nat} (control : n < 32) (more : List Char) :
    escape .characters
        ('u' :: (if n < 16 then ['0', '0', '0'] else ['0', '0']) ++ Nat.toDigits 16 n ++ more) =
      .ok (Char.ofNat n, more) := by
  interval_cases n <;> rfl

theorem stringRest_escaped (c : Char) (more : List Char) :
    stringRest .characters (escaped c ++ more) =
      (stringRest .characters more).map fun read => (c :: read.1, read.2) := by
  unfold escaped
  -- seven characters have an escape of their own, other control characters are written by code
  split
  · exact stringRest_escape rfl
  · exact stringRest_escape rfl
  · exact stringRest_escape rfl
  · exact stringRest_escape rfl
  · exact stringRest_escape rfl
  · exact stringRest_escape rfl
  · exact stringRest_escape rfl
  · rename_i noQuote noEscape _ _ _ _ _
    by_cases control : c.toNat < 32
    · have named := escape_control control more
      rw [Char.ofNat_toNat] at named
      by_cases short : c.toNat < 16
      · rw [if_pos short] at named ⊢
        exact stringRest_escape named
      · rw [if_neg short] at named
        rw [if_neg short, if_pos control]
        exact stringRest_escape named
    · rw [if_neg (fun short => control (Nat.lt_trans short (by decide))), if_neg control]
      exact stringRest_plain noQuote noEscape (Nat.not_lt.mp control) more

theorem stringRest_flatMap_escaped (cs rest : List Char) :
    stringRest .characters (cs.flatMap escaped ++ '"' :: rest) = .ok (cs, rest) := by
  induction cs with
  | nil => rw [List.flatMap_nil, List.nil_append, stringRest, if_pos rfl]
  | cons c cs ih =>
    rw [List.flatMap_cons, List.append_assoc, stringRest_escaped, ih]
    rfl

end

/-! ## What follows a value -/

/-- The text is at an end, or goes on with another item or another line. -/
def Ends (rest : List Char) : Prop :=
  ∀ c ∈ rest.head?, c = ',' ∨ c = '\n'

theorem Ends.cases {rest : List Char} (ends : Ends rest) :
    rest = [] ∨ (∃ more, rest = ',' :: more) ∨ ∃ more, rest = '\n' :: more := by
  cases rest with
  | nil => exact .inl rfl
  | cons c more =>
    rcases ends c rfl with rfl | rfl
    · exact .inr (.inl ⟨more, rfl⟩)
    · exact .inr (.inr ⟨more, rfl⟩)

/-! ## Numbers -/

theorem exponentRest_bare {c : Char} (plus : c ≠ '+') (minus : c ≠ '-') (n : Nat) (e : Int)
    (cs : List Char) : exponentRest n e (c :: cs) = exponentDigits n e false (c :: cs) := by
  unfold exponentRest
  split
  · rename_i same
    cases same
    exact absurd rfl plus
  · rename_i same
    cases same
    exact absurd rfl minus
  · rfl

theorem afterWhole_of_no_point {n dropped : Nat} {cs : List Char}
    (noPoint : cs.head?.all (· != '.') = true) :
    afterWhole n dropped cs =
      if dropped = 0 && cs.head?.all fun c => c != 'e' && c != 'E' then .ok (.inl n, cs)
      else (exponentOrEnd n dropped cs).map fun read => (.inr read.1, read.2) := by
  unfold afterWhole
  split
  · cases noPoint
  · rfl

theorem unsignedNumber_cons (c : Char) (rest : List Char) :
    unsignedNumber (c :: rest) =
      if isDigit c && !(c == '0' && rest.head?.any isDigit) then
        afterWhole (appendDigits 0 (c :: rest)).1
          ((appendDigits 0 (c :: rest)).2.2.takeWhile isDigit).length
          ((appendDigits 0 (c :: rest)).2.2.dropWhile isDigit)
      else .error .notJson :=
  rfl

theorem number_minus (cs : List Char) :
    number ('-' :: cs) = (unsignedNumber cs).map fun read => (Number.negated read.1, read.2) :=
  rfl

theorem number_of_ne_minus {c : Char} (plain : c ≠ '-') (cs : List Char) :
    number (c :: cs) =
      (unsignedNumber (c :: cs)).map fun read => (Number.plain read.1, read.2) := by
  unfold number
  split
  · rename_i same
    cases same
    exact absurd rfl plain
  · rfl

section

variable {rest : List Char} (ends : Ends rest)
include ends

theorem Ends.all_head?_append {p : Char → Bool} (comma : p ',' = true) (line : p '\n' = true)
    (cs : List Char) : (cs ++ rest).head?.all p = cs.head?.all p := by
  cases cs with
  | nil => rcases ends.cases with rfl | ⟨more, rfl⟩ | ⟨more, rfl⟩ <;> simp [comma, line]
  | cons c cs => rfl

theorem Ends.takeWhile_append (cs : List Char) :
    (cs ++ rest).takeWhile isDigit = cs.takeWhile isDigit := by
  induction cs with
  | nil => rcases ends.cases with rfl | ⟨more, rfl⟩ | ⟨more, rfl⟩ <;> rfl
  | cons c cs ih => simp only [List.cons_append, List.takeWhile_cons, ih]

theorem Ends.dropWhile_append (cs : List Char) :
    (cs ++ rest).dropWhile isDigit = cs.dropWhile isDigit ++ rest := by
  induction cs with
  | nil => rcases ends.cases with rfl | ⟨more, rfl⟩ | ⟨more, rfl⟩ <;> rfl
  | cons c cs ih =>
    simp only [List.cons_append, List.dropWhile_cons, ih]
    split <;> rfl

theorem Ends.appendDigits_append (n : Nat) (cs : List Char) :
    appendDigits n (cs ++ rest) =
      ((appendDigits n cs).1, (appendDigits n cs).2.1, (appendDigits n cs).2.2 ++ rest) := by
  induction cs generalizing n with
  | nil => rcases ends.cases with rfl | ⟨more, rfl⟩ | ⟨more, rfl⟩ <;> rfl
  | cons c cs ih =>
    rw [List.cons_append, appendDigits, appendDigits]
    split
    · simp only [ih]
    · rfl

theorem Ends.exponentDigits_append {n : Nat} {e : Int} {down : Bool} {cs after : List Char}
    {x : Double} (accepted : exponentDigits n e down cs = .ok (x, after)) :
    exponentDigits n e down (cs ++ rest) = .ok (x, after ++ rest) := by
  cases cs with
  | nil => cases accepted
  | cons c cs =>
    rw [exponentDigits] at accepted
    rw [List.cons_append, exponentDigits, ← List.cons_append]
    split at accepted
    · rename_i digit
      obtain ⟨y, same, done⟩ := map_eq_ok_iff.mp accepted
      cases done
      simp only [if_pos digit, ends.takeWhile_append, ends.dropWhile_append, same, Except.map]
    · cases accepted

theorem Ends.exponentRest_append {n : Nat} {e : Int} {cs after : List Char} {x : Double}
    (accepted : exponentRest n e cs = .ok (x, after)) :
    exponentRest n e (cs ++ rest) = .ok (x, after ++ rest) := by
  cases cs with
  | nil => cases accepted
  | cons c cs =>
    by_cases plus : c = '+'
    · subst plus
      exact ends.exponentDigits_append accepted
    · by_cases minus : c = '-'
      · subst minus
        exact ends.exponentDigits_append accepted
      · rw [exponentRest_bare plus minus] at accepted
        rw [List.cons_append, exponentRest_bare plus minus, ← List.cons_append]
        exact ends.exponentDigits_append accepted

theorem Ends.exponentOrEnd_append {n : Nat} {e : Int} {cs after : List Char} {x : Double}
    (accepted : exponentOrEnd n e cs = .ok (x, after)) :
    exponentOrEnd n e (cs ++ rest) = .ok (x, after ++ rest) := by
  cases cs with
  | nil =>
    obtain ⟨y, same, done⟩ := map_eq_ok_iff.mp accepted
    cases done
    rcases ends.cases with rfl | ⟨more, rfl⟩ | ⟨more, rfl⟩ <;>
      simp [exponentOrEnd, same, Except.map]
  | cons c cs =>
    rw [List.cons_append, exponentOrEnd]
    rw [exponentOrEnd] at accepted
    split at accepted
    · rename_i letter
      rw [if_pos letter]
      exact ends.exponentRest_append accepted
    · rename_i other
      rw [if_neg other]
      obtain ⟨y, same, done⟩ := map_eq_ok_iff.mp accepted
      cases done
      rw [same]
      rfl

theorem Ends.decimalsRest_append {n : Nat} {e : Int} {cs after : List Char} {x : Double}
    (accepted : decimalsRest n e cs = .ok (x, after)) :
    decimalsRest n e (cs ++ rest) = .ok (x, after ++ rest) := by
  cases cs with
  | nil => cases accepted
  | cons c cs =>
    rw [List.cons_append, decimalsRest]
    rw [decimalsRest] at accepted
    split at accepted
    · rename_i digit
      rw [if_pos digit, ← List.cons_append]
      simp only [ends.appendDigits_append, ends.dropWhile_append]
      exact ends.exponentOrEnd_append accepted
    · cases accepted

theorem Ends.afterWhole_append {n dropped : Nat} {cs after : List Char} {value : Nat ⊕ Double}
    (accepted : afterWhole n dropped cs = .ok (value, after)) :
    afterWhole n dropped (cs ++ rest) = .ok (value, after ++ rest) := by
  by_cases noPoint : cs.head?.all (· != '.') = true
  · have noPointToo : (cs ++ rest).head?.all (· != '.') = true :=
      (ends.all_head?_append rfl rfl cs).trans noPoint
    rw [afterWhole_of_no_point noPoint] at accepted
    rw [afterWhole_of_no_point noPointToo, ends.all_head?_append rfl rfl]
    split at accepted
    · rename_i whole
      cases accepted
      rw [if_pos whole]
    · rename_i notWhole
      obtain ⟨read, same, done⟩ := map_eq_ok_iff.mp accepted
      cases done
      rw [if_neg notWhole, ends.exponentOrEnd_append same]
      rfl
  · obtain ⟨c, cs, rfl, rfl⟩ : ∃ c more, cs = c :: more ∧ c = '.' := by
      cases cs <;> simp_all
    obtain ⟨read, same, done⟩ := map_eq_ok_iff.mp accepted
    cases done
    rw [List.cons_append, afterWhole, ends.decimalsRest_append same]
    rfl

theorem Ends.any_head?_append (cs : List Char) :
    (cs ++ rest).head?.any isDigit = cs.head?.any isDigit := by
  cases cs with
  | nil => rcases ends.cases with rfl | ⟨more, rfl⟩ | ⟨more, rfl⟩ <;> rfl
  | cons c cs => rfl

theorem Ends.unsignedNumber_append {cs after : List Char} {value : Nat ⊕ Double}
    (accepted : unsignedNumber cs = .ok (value, after)) :
    unsignedNumber (cs ++ rest) = .ok (value, after ++ rest) := by
  cases cs with
  | nil => cases accepted
  | cons c cs =>
    rw [unsignedNumber_cons] at accepted
    rw [List.cons_append, unsignedNumber_cons, ends.any_head?_append]
    split at accepted
    · rename_i starts
      rw [if_pos starts, ← List.cons_append]
      simp only [ends.appendDigits_append, ends.takeWhile_append, ends.dropWhile_append]
      exact ends.afterWhole_append accepted
    · cases accepted

theorem Ends.number_append {cs after : List Char} {n : Number}
    (accepted : number cs = .ok (n, after)) : number (cs ++ rest) = .ok (n, after ++ rest) := by
  cases cs with
  | nil => cases accepted
  | cons c cs =>
    by_cases minus : c = '-'
    · subst minus
      rw [number_minus] at accepted
      obtain ⟨read, same, done⟩ := map_eq_ok_iff.mp accepted
      cases done
      rw [List.cons_append, number_minus, ends.unsignedNumber_append same]
      rfl
    · rw [number_of_ne_minus minus] at accepted
      obtain ⟨read, same, done⟩ := map_eq_ok_iff.mp accepted
      cases done
      rw [List.cons_append, number_of_ne_minus minus, ← List.cons_append,
        ends.unsignedNumber_append same]
      rfl

end

/-! ## Whole numbers -/

theorem le_ofDigitChars (digits : List Char) (n : Nat) : n ≤ Nat.ofDigitChars 10 digits n := by
  rw [Nat.ofDigitChars_eq_ofDigitChars_zero]
  exact Nat.le_trans (Nat.le_mul_of_pos_left n (Nat.pow_pos (by decide))) (Nat.le_add_right ..)

theorem appendDigits_of_digits {digits : List Char} (only : ∀ c ∈ digits, isDigit c = true)
    {n : Nat} (fits : Nat.ofDigitChars 10 digits n < UInt64.size) :
    appendDigits n digits = (Nat.ofDigitChars 10 digits n, digits.length, []) := by
  induction digits generalizing n with
  | nil => rfl
  | cons c digits ih =>
    obtain ⟨first, others⟩ := List.forall_mem_cons.mp only
    have step : Nat.ofDigitChars 10 (c :: digits) n =
        Nat.ofDigitChars 10 digits (10 * n + digitValue c) := Nat.ofDigitChars_cons
    rw [step] at fits ⊢
    have room := Nat.lt_of_le_of_lt (le_ofDigitChars digits (10 * n + digitValue c)) fits
    simp only [appendDigits, first, room, decide_true, Bool.and_self, if_true, ih others fits,
      List.length_cons]

theorem eq_zero_of_head?_toDigits {n : Nat} (zero : (Nat.toDigits 10 n).head? = some '0') :
    n = 0 := by
  induction n using Nat.strongRecOn with
  | ind n ih =>
    rw [Nat.toDigits_eq_if (by decide)] at zero
    split at zero
    · exact Nat.digitChar_eq_zero.mp (Option.some.inj zero)
    · rw [List.head?_append_of_ne_nil _ Nat.toDigits_ne_nil] at zero
      have tenth := ih (n / 10) (by omega) zero
      omega

theorem isDigit_of_mem_toDigits {n : Nat} {c : Char} (member : c ∈ Nat.toDigits 10 n) :
    isDigit c = true :=
  Nat.isDigit_of_mem_toDigits (by decide) (by decide) member

theorem unsignedNumber_toDigits {n : Nat} (fits : n < UInt64.size) :
    unsignedNumber (Nat.toDigits 10 n) = .ok (.inl n, []) := by
  have only : ∀ c ∈ Nat.toDigits 10 n, isDigit c = true := fun _ => isDigit_of_mem_toDigits
  have read := appendDigits_of_digits only (n := 0) (by rwa [Nat.ofDigitChars_ten_toDigits])
  rw [Nat.ofDigitChars_ten_toDigits] at read
  cases digits : Nat.toDigits 10 n with
  | nil => exact absurd digits Nat.toDigits_ne_nil
  | cons c more =>
    rw [digits] at only read
    have first : isDigit c = true := only c List.mem_cons_self
    have single : (c == '0' && more.head?.any isDigit) = false := by
      by_cases zero : c = '0'
      · have none : n = 0 := eq_zero_of_head?_toDigits (by rw [digits, zero]; rfl)
        subst none
        cases digits
        rfl
      · simp [zero]
    rw [unsignedNumber_cons, first, single, read]
    rfl

def Number.ofInt : Int → Number
  | .ofNat n => .natural n
  | .negSucc n => .negative (.negSucc n)

theorem toList_toString_ofNat (n : Nat) :
    (toString (n : Int)).toList = Nat.toDigits 10 n := by
  rw [Int.toString_eq_repr]
  exact (congrArg String.toList Nat.repr_eq_ofList_toDigits).trans String.toList_ofList

theorem toList_toString_negSucc (n : Nat) :
    (toString (Int.negSucc n)).toList = '-' :: Nat.toDigits 10 (n + 1) := by
  rw [Int.toString_eq_repr]
  have digits : (n + 1).repr.toList = Nat.toDigits 10 (n + 1) :=
    (congrArg String.toList Nat.repr_eq_ofList_toDigits).trans String.toList_ofList
  rw [← digits]
  exact String.toList_append

theorem number_toString {n : Int} (least : Int64.minValue.toInt ≤ n)
    (greatest : n < (UInt64.size : Nat)) : number (toString n).toList = .ok (.ofInt n, []) := by
  cases n with
  | ofNat n =>
    have read := unsignedNumber_toDigits (n := n) (by simpa using greatest)
    rw [Int.ofNat_eq_natCast, toList_toString_ofNat]
    cases digits : Nat.toDigits 10 n with
    | nil => exact absurd digits Nat.toDigits_ne_nil
    | cons c more =>
      have first : c ≠ '-' := by
        rintro rfl
        have digit : isDigit '-' = true :=
          isDigit_of_mem_toDigits (n := n) (by rw [digits]; exact List.mem_cons_self)
        cases digit
      rw [number_of_ne_minus first, ← digits, read]
      rfl
  | negSucc n =>
    -- further down the number would be read as a double
    rw [Int64.toInt_minValue] at least
    have fits : n + 1 < UInt64.size := by
      have size : UInt64.size = 2 ^ 64 := rfl
      omega
    have inside : ¬ (n + 1 = 0 ∨ -((n + 1 : Nat) : Int) < Int64.minValue.toInt) := by
      rw [Int64.toInt_minValue]
      omega
    have negated : Number.negated (.inl (n + 1)) = .ofInt (.negSucc n) := by
      rw [Number.negated, if_neg inside]
      rfl
    rw [toList_toString_negSucc, number_minus, unsignedNumber_toDigits fits, ← negated]
    rfl

end SelectionAlgebra.Json
