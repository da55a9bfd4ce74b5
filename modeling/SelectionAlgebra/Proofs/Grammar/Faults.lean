import Mathlib.Data.List.Basic
import SelectionAlgebra.Proofs.Grammar.Stopping

/-!
What a refusal points at. A text is cut where the error lies; what stands on both sides of the cut
tells which errors may lie there.
-/

namespace SelectionAlgebra

namespace Text

def apart (left right : List CodeRange) : Bool :=
  left.all fun r => right.all fun s => decide (r.2 < s.1) || decide (s.2 < r.1)

theorem not_inTable_of_apart {left right : List CodeRange} (separate : apart left right = true)
    {c : Char} (inLeft : inTable left c = true) : inTable right c = false := by
  apply Bool.eq_false_iff.mpr
  intro inRight
  obtain ⟨r, memberLeft, within⟩ := List.any_eq_true.mp inLeft
  obtain ⟨s, memberRight, around⟩ := List.any_eq_true.mp inRight
  have disjoint := List.all_eq_true.mp (List.all_eq_true.mp separate r memberLeft) s memberRight
  simp only [CodeRange.contains, Bool.and_eq_true, Bool.or_eq_true, decide_eq_true_eq] at *
  omega

theorem not_alphanumeric_of_blank {c : Char} (blank : isBlank c = true) :
    isAlphanumeric c = false := by
  unfold isAlphanumeric
  split
  · rename_i ascii
    have small : ∀ n < 128, isBlank (Char.ofNat n) = true → (Char.ofNat n).isAlphanum = false := by
      decide +kernel
    have same := Char.ofNat_toNat c
    have other := small c.toNat ascii (by rwa [same])
    rwa [same] at other
  · have separate : apart blankTable alphanumericTable = true := by decide +kernel
    exact not_inTable_of_apart separate blank

end Text

namespace Expr

theorem not_nameChar_of_blank {c : Char} (blank : Text.isBlank c = true) :
    isNameChar c = false := by
  have notAlphanumeric := Text.not_alphanumeric_of_blank blank
  have different (d : Char) (solid : Text.isBlank d = false) : c ≠ d := by
    rintro rfl
    rw [blank] at solid
    cases solid
  simp [isNameChar, notAlphanumeric, different '_' (by decide), different '.' (by decide),
    different ':' (by decide), different '-' (by decide)]

/-! ## Faults -/

def endsOperand (c : Char) : Bool :=
  c == '&' || c == '|' || c == '^' || c == ')'

/-- The error that lies between two texts, at the offset at which they meet. -/
inductive Fault : List Char → List Char → ParseError → Prop where
  | unbalanced {before after : List Char} :
      Unpaired before after → Fault before after (.unbalanced (Text.byteLength before))
  | atEnd {before : List Char} : Fault before [] (.missingOperand (Text.byteLength before))
  | operand {before after : List Char} {c : Char} :
      endsOperand c = true → Fault before (c :: after) (.missingOperand (Text.byteLength before))
  | name {before run after : List Char} :
      run ≠ [] → (∀ c ∈ run, isNameChar c = true) →
      before.getLast?.any isNameChar = false → after.head?.any isNameChar = false →
      Fault before (run ++ after) (.invalidToken (String.ofList run) (Text.byteLength before))
  | stray {before after : List Char} {c : Char} :
      isNameChar c = false → Text.isBlank c = false → endsOperand c = false →
      Fault before (c :: after) (.invalidToken (String.singleton c) (Text.byteLength before))
  | tooDeep {before after : List Char} :
      maxNesting < (before ++ after).countP isNesting ∨
        maxHeight ≤ (before ++ after).countP isOperator →
      Fault before after (.tooDeep (Text.byteLength before))

theorem Fault.offset_eq {before after : List Char} {e : ParseError} (fault : Fault before after e) :
    e.offset = Text.byteLength before := by
  cases fault <;> rfl

theorem getLast_append_blanks {taken blanks after : List Char}
    (blank : ∀ c ∈ blanks, Text.isBlank c = true)
    (complete : taken.getLast?.any isNameChar = true →
      (blanks ++ after).head?.any isNameChar = false)
    (starts : after.head?.any isNameChar = true) :
    (taken ++ blanks).getLast?.any isNameChar = false := by
  cases last : blanks.getLast? with
  | none =>
    cases List.getLast?_eq_none_iff.mp last
    rw [List.append_nil]
    apply Bool.eq_false_iff.mpr
    intro ends
    exact Bool.false_ne_true ((complete ends).symm.trans starts)
  | some c =>
    have other := not_nameChar_of_blank (blank c (List.mem_of_getLast? last))
    simp [List.getLast?_append, last, other]

theorem fault_of_first {before : List Char} {c : Char} (tail : List Char)
    (solid : Text.isBlank c = false)
    (starts : isNameChar c = true → before.getLast?.any isNameChar = false) :
    Fault before (c :: tail)
      (if endsOperand c then .missingOperand (Text.byteLength before)
        else if isNameChar c then
          .invalidToken (String.ofList ((c :: tail).takeWhile isNameChar)) (Text.byteLength before)
        else .invalidToken (String.singleton c) (Text.byteLength before)) := by
  split
  · rename_i ends
    exact .operand ends
  · rename_i operand
    split
    · rename_i nameChar
      have run : (c :: tail).takeWhile isNameChar ≠ [] := by simp [nameChar]
      have named : ∀ d ∈ (c :: tail).takeWhile isNameChar, isNameChar d = true :=
        List.all_eq_true.mp List.all_takeWhile
      have fault := Fault.name run named (starts nameChar) (head_dropWhile (c :: tail))
      rwa [List.takeWhile_append_dropWhile] at fault
    · rename_i other
      exact .stray (by simpa using other) solid (by simpa using operand)

theorem blame_fault {taken rest : List Char}
    (complete : taken.getLast?.any isNameChar = true → rest.head?.any isNameChar = false) :
    ∃ blanks after, rest = blanks ++ after ∧ (∀ c ∈ blanks, Text.isBlank c = true) ∧
      Fault (taken ++ blanks) after (blame (taken ++ rest) rest) := by
  have whole : rest = rest.takeWhile Text.isBlank ++ Text.trimStart rest :=
    List.takeWhile_append_dropWhile.symm
  have blank : ∀ c ∈ rest.takeWhile Text.isBlank, Text.isBlank c = true :=
    List.all_eq_true.mp List.all_takeWhile
  have solid := List.head?_dropWhile_not Text.isBlank rest
  generalize rest.takeWhile Text.isBlank = blanks at whole blank
  refine ⟨blanks, Text.trimStart rest, whole, blank, ?_⟩
  have offset : Text.byteLength (taken ++ rest) - Text.byteLength (Text.trimStart rest) =
      Text.byteLength (taken ++ blanks) := by
    have length := congrArg Text.byteLength whole
    simp only [Text.byteLength_append] at length ⊢
    omega
  simp only [blame, offset]
  cases start : Text.trimStart rest with
  | nil => exact .atEnd
  | cons c tail =>
    rw [start] at whole
    rw [whole] at complete
    simp only [Text.trimStart] at start
    rw [start] at solid
    exact fault_of_first tail solid fun nameChar => getLast_append_blanks blank complete nameChar

theorem fault_of_parse {source : String} {e : ParseError} (refused : parse source = .error e) :
    ∃ before after, source.toList = before ++ after ∧ Fault before after e := by
  rcases parse_eq_error refused with
    ⟨offset, found, rfl⟩ | ⟨-, ⟨ts, rest, reads, -, rfl⟩ | ⟨rest, ⟨taken, split⟩, exceeds, rfl⟩⟩
  · obtain ⟨before, after, split, rfl, unpaired⟩ := unpaired_of_unmatched? found
    exact ⟨before, after, split, .unbalanced unpaired⟩
  · obtain ⟨taken, split, -, complete⟩ := reads.split
    obtain ⟨blanks, after, rfl, -, fault⟩ := blame_fault complete
    exact ⟨taken ++ blanks, after, by rw [split, List.append_assoc], by rwa [split]⟩
  · have offset : Text.byteLength source.toList - Text.byteLength rest = Text.byteLength taken := by
      rw [← split, Text.byteLength_append]
      omega
    rw [offset]
    refine ⟨taken, rest, split.symm, .tooDeep ?_⟩
    rw [split]
    exact exceeds

/-! ## Offsets -/

theorem utf8ByteSize_ofList (cs : List Char) :
    (String.ofList cs).utf8ByteSize = Text.byteLength cs := by
  induction cs with
  | nil => rfl
  | cons c cs ih =>
    have first : String.ofList ([c] ++ cs) = String.ofList [c] ++ String.ofList cs :=
      String.ofList_append
    rw [List.singleton_append] at first
    rw [first, String.utf8ByteSize_append, ih]
    simp [Text.byteLength]

theorem isValid_byteLength {source : String} {before after : List Char}
    (split : source.toList = before ++ after) :
    Text.byteLength before ≤ source.utf8ByteSize ∧
      String.Pos.Raw.IsValid source ⟨Text.byteLength before⟩ := by
  have parts : source = String.ofList before ++ String.ofList after := by
    rw [← String.ofList_append, ← split, String.ofList_toList]
  have size := utf8ByteSize_ofList before
  constructor
  · rw [parts, String.utf8ByteSize_append, size]
    exact Nat.le_add_right _ _
  · apply String.Pos.Raw.isValid_iff_exists_append.mpr
    refine ⟨_, _, parts, ?_⟩
    rw [← size]
    rfl

/-- That parentheses are not balanced is reported exactly where they are not. Whatever is reported,
the offset lies within the text and between two of its characters, and the error tells truly what
stands there. -/
theorem parse_error_exact (source : String) :
    ((∃ offset, parse source = .error (.unbalanced offset)) ↔ ¬ Balanced source.toList) ∧
      ∀ e, parse source = .error e →
        e.offset ≤ source.utf8ByteSize ∧ String.Pos.Raw.IsValid source ⟨e.offset⟩ ∧
          ∃ before after, source.toList = before ++ after ∧ Fault before after e := by
  refine ⟨⟨?_, ?_⟩, ?_⟩
  · rintro ⟨offset, refused⟩
    obtain ⟨before, after, split, fault⟩ := fault_of_parse refused
    cases fault with
    | unbalanced unpaired =>
      rw [split]
      exact unpaired.not_balanced
  · intro unbalanced
    cases found : unmatched? 0 [] source.toList with
    | none => exact absurd ((unmatched?_eq_none_iff_balanced _).mp found) unbalanced
    | some offset => exact ⟨offset, by simp only [parse, parseChars, found]⟩
  · intro e refused
    obtain ⟨before, after, split, fault⟩ := fault_of_parse refused
    obtain ⟨within, valid⟩ := isValid_byteLength split
    rw [fault.offset_eq]
    exact ⟨within, valid, before, after, split, fault⟩

/-- A sign that is none of the grammar, behind a letter of two bytes. -/
theorem parse_error_exact_stray :
    parse "é & $b" = .error (.invalidToken "$" 5) ∧
      ∃ before after, "é & $b".toList = before ++ after ∧
        Fault before after (.invalidToken "$" 5) := by
  have refused : parse "é & $b" = .error (.invalidToken "$" 5) := by decide +kernel
  obtain ⟨-, -, located⟩ := (parse_error_exact "é & $b").2 _ refused
  exact ⟨refused, located⟩

end Expr

end SelectionAlgebra
