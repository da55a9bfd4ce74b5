import Mathlib.Data.List.Basic
import SelectionAlgebra.Proofs.Grammar.Display

/-!
The names of an expression in its text. Every maximal run of name characters is read as one name,
and every name that is read is such a run; the names that are read are the leaves of the tree.
-/

namespace SelectionAlgebra

namespace Expr

/-- A maximal run of name characters in a text: none of them stands right before it or after it. -/
structure IsRun (cs run : List Char) : Prop where
  nonempty : run ≠ []
  named : ∀ c ∈ run, isNameChar c = true
  stands : ∃ before after, cs = before ++ run ++ after ∧
    before.getLast?.any isNameChar = false ∧ after.head?.any isNameChar = false

theorem IsRun.head {run : List Char} (nonempty : run ≠ [])
    (named : ∀ c ∈ run, isNameChar c = true) (rest : List Char) :
    (run ++ rest).head?.any isNameChar = true := by
  obtain ⟨c, tail, rfl⟩ := List.exists_cons_of_ne_nil nonempty
  exact named c List.mem_cons_self

theorem IsRun.last {run : List Char} (nonempty : run ≠ [])
    (named : ∀ c ∈ run, isNameChar c = true) : run.getLast?.any isNameChar = true := by
  rw [List.getLast?_eq_some_getLast nonempty]
  exact named _ (List.getLast_mem nonempty)

theorem not_isRun_nil (run : List Char) : ¬ IsRun [] run := by
  rintro ⟨nonempty, -, before, after, split, -⟩
  have empty : run = [] := by simp_all
  exact nonempty empty

theorem isRun_cons_iff {c : Char} (other : isNameChar c = false) (cs run : List Char) :
    IsRun (c :: cs) run ↔ IsRun cs run := by
  constructor
  · rintro ⟨nonempty, named, before, after, split, starts, ends⟩
    cases before with
    | nil =>
      have head := IsRun.head nonempty named after
      rw [List.nil_append] at split
      rw [← split, List.head?_cons, Option.any_some, other] at head
      cases head
    | cons d before =>
      obtain ⟨rfl, rfl⟩ := List.cons.inj split
      exact ⟨nonempty, named, before, after, rfl, getLast_cons other before ▸ starts, ends⟩
  · rintro ⟨nonempty, named, before, after, rfl, starts, ends⟩
    exact ⟨nonempty, named, c :: before, after, rfl, (getLast_cons other before).trans starts, ends⟩

/-- The runs of a text that begins with one are that run and those of the rest. -/
theorem isRun_append_iff {first rest : List Char} (nonempty : first ≠ [])
    (named : ∀ c ∈ first, isNameChar c = true) (ends : rest.head?.any isNameChar = false)
    (run : List Char) : IsRun (first ++ rest) run ↔ run = first ∨ IsRun rest run := by
  constructor
  · rintro ⟨solid, namedToo, before, after, split, starts, endsToo⟩
    rw [List.append_assoc] at split
    rcases List.append_eq_append_iff.mp split with ⟨skipped, rfl, rest_eq⟩ | ⟨tail, rfl, whole⟩
    · -- the run begins behind the first one, and not right behind it
      cases skipped with
      | nil =>
        rw [List.append_nil, IsRun.last nonempty named] at starts
        cases starts
      | cons c skipped =>
        refine .inr ⟨solid, namedToo, c :: skipped, after, ?_, ?_, endsToo⟩
        · rw [rest_eq, List.append_assoc]
        · rw [← starts, List.getLast?_append, List.getLast?_cons, Option.some_or]
    · -- the run begins within the first one, so it begins and ends with it
      cases before with
      | cons c before =>
        have last := IsRun.last (List.cons_ne_nil c before) fun d member =>
          named d (List.mem_append_left _ member)
        rw [starts] at last
        cases last
      | nil =>
        rw [List.nil_append] at named ⊢
        have taken := (takeWhile_eq_nil_iff _).mpr ends
        have takenToo := (takeWhile_eq_nil_iff _).mpr endsToo
        have same := congrArg (List.takeWhile isNameChar) whole
        rw [List.takeWhile_append_of_pos namedToo, List.takeWhile_append_of_pos named, taken,
          takenToo, List.append_nil, List.append_nil] at same
        exact .inl same
  · rintro (rfl | ⟨solid, namedToo, before, after, rfl, starts, endsToo⟩)
    · exact ⟨nonempty, named, [], rest, by simp, rfl, ends⟩
    · refine ⟨solid, namedToo, first ++ before, after, by simp, ?_, endsToo⟩
      cases before with
      | nil =>
        have head := IsRun.head solid namedToo after
        rw [List.nil_append] at ends
        rw [head] at ends
        cases ends
      | cons c before =>
        rw [← starts, List.getLast?_append, List.getLast?_cons, Option.some_or]

theorem Reads.mem_iff_isRun {cs : List Char} {ts : List Token} (reads : Reads cs ts [])
    (n : String) : .name n ∈ ts ↔ IsRun cs n.toList := by
  generalize last : ([] : List Char) = rest at reads
  induction reads with
  | done =>
    subst last
    exact iff_of_false List.not_mem_nil (not_isRun_nil _)
  | space blank _ ih => rw [isRun_cons_iff (not_nameChar_of_space blank), ih last]
  | @sign t c cs rest ts sign _ ih =>
    have different : Token.name n ≠ t := by
      rintro rfl
      cases sign
    rw [isRun_cons_iff (not_nameChar_of_sign sign), ← ih last, List.mem_cons,
      or_iff_right different]
  | @name cs rest ts run _ ih =>
    have named : ∀ c ∈ cs.takeWhile isNameChar, isNameChar c = true :=
      List.all_eq_true.mp List.all_takeWhile
    have runs := isRun_append_iff run named (head_dropWhile cs) n.toList
    rw [List.takeWhile_append_dropWhile] at runs
    rw [runs, ← ih last, List.mem_cons, Token.name.injEq]
    exact or_congr_left ⟨fun same => by rw [same, String.toList_ofList],
      fun same => by rw [← same, String.ofList_toList]⟩

theorem Phrase.mem_iff_mentions {level : Level} {k : Nat} {ts : List Token} {e : Expr}
    (phrase : Phrase level k ts e) (n : String) : .name n ∈ ts ↔ e.Mentions n := by
  refine ⟨?_, mem_of_mentions phrase⟩
  induction phrase with
  | name m => simp [Mentions]
  | not _ ih => simpa [Mentions] using ih
  | parens _ ih => simpa using ih
  | single _ ih => exact ih
  | @join op _ _ ts us l r _ _ left right =>
    intro member
    have either : l.Mentions n ∨ r.Mentions n := by
      rcases List.mem_append.mp member with member | member
      · exact .inl (left member)
      · exact .inr (right (by simpa using member))
    cases op <;> exact either

theorem isRun_iff_mentions {source : String} {k : Nat} {e : Expr} (derived : Derives source k e)
    (n : String) : IsRun source.toList n.toList ↔ e.Mentions n := by
  obtain ⟨ts, reads, phrase⟩ := derived
  rw [← reads.mem_iff_isRun, phrase.mem_iff_mentions]

end Expr

theorem derives_of_compile {source : String} {compiled : Compiled} {e : Expr}
    (accepted : compile source = .ok compiled) (tree : compiled.meaning = .tree e) :
    ∃ k, Expr.Derives source k e := by
  unfold compile at accepted
  split at accepted
  · cases accepted
    cases tree
  · cases read : Expr.parse source with
    | error reason => rw [read] at accepted; cases accepted
    | ok f =>
      rw [read] at accepted
      cases accepted
      cases tree
      exact Expr.derives_of_parse read

/-- The names of a compiled expression come in strictly ascending order. They are the maximal runs
of name characters in its text, and they are the leaves of its tree; so values for these names are
all that its evaluation depends on. -/
theorem Compiled.names_exact (source : String) (compiled : Compiled) (e : Expr)
    (accepted : compile source = .ok compiled) (tree : compiled.meaning = .tree e) :
    compiled.names.entries.Pairwise (· < ·) ∧
      (∀ n, n ∈ compiled.names.entries ↔ Expr.IsRun source.toList n.toList) ∧
      (∀ n, n ∈ compiled.names.entries ↔ e.Mentions n) ∧
      ∀ leaf other : String → Bool, (∀ n ∈ compiled.names.entries, leaf n = other n) →
        e.holds leaf = e.holds other := by
  obtain ⟨k, derived⟩ := derives_of_compile accepted tree
  have leaves (n : String) : n ∈ compiled.names.entries ↔ e.Mentions n := by
    rw [mem_names_of_compile accepted, tree]
    rfl
  refine ⟨compiled.names.ascending, ?_, leaves, ?_⟩
  · intro n
    rw [leaves, Expr.isRun_iff_mentions derived]
  · intro leaf other agree
    exact Expr.holds_congr fun n mentioned => agree n ((leaves n).mpr mentioned)

/-- A name that comes twice, and one that ends in a digit, right before an operator. -/
theorem Compiled.names_exact_twice :
    let source := "b & (a.1|!b)"
    compile source = .ok (.ofMeaning source
        (.tree (.and (.name "b") (.or (.name "a.1") (.not (.name "b")))))) ∧
      ∀ n, n ∈ ["a.1", "b"] ↔ Expr.IsRun source.toList n.toList := by
  intro source
  have accepted : compile source = .ok (.ofMeaning source
      (.tree (.and (.name "b") (.or (.name "a.1") (.not (.name "b")))))) := by decide +kernel
  have names : (Compiled.ofMeaning source
      (.tree (.and (.name "b") (.or (.name "a.1") (.not (.name "b")))))).names.entries =
      ["a.1", "b"] := by decide
  have exact := Compiled.names_exact source _ _ accepted rfl
  rw [names] at exact
  exact ⟨accepted, exact.2.1⟩

end SelectionAlgebra
