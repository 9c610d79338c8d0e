import Mathlib.Data.List.TakeWhile
import SignedLink.Proofs.Text.Decimal
import SignedLink.Proofs.Text.Search
import SignedLink.Validation
import SignedLink.Value.Written
/-!
# SignedLink — rows of digits as integers

A row of ASCII digits is read as its number, both by the reader of values and
by the validator. They differ in the zeros at the front: the reader counts them
towards the limit of a numeral, and the validator drops them first.

* `significant`: the digits that the validator looks at.
* `Numeral.read_digits`: how the reader reads digits.
* `Checked.integerText_digits`: how the validator reads them.
* `Checked.integer_decimal`: a numeral that was written is read back.
-/

namespace SignedLink

variable {cs : List Char}

/-- What is a row of digits: some digits, and nothing else. -/
structure Text.IsDigits (cs : List Char) : Prop where
  nonempty : cs ≠ []
  digits : ∀ c ∈ cs, Text.isAsciiDigit c = true

/-! ## Digits and what may surround them -/

namespace Text

/-- Digits are in no class of characters that has none of them. -/
theorem IsDigits.trimBy_eq (is : IsDigits cs) {p : Char → Bool}
    (noDigit : ∀ c, isAsciiDigit c = true → p c = false) : trimBy p cs = cs :=
  trimBy_eq_self (fun c mem => noDigit c (is.digits c (List.mem_of_mem_head? mem)))
    (fun c mem => noDigit c (is.digits c (List.mem_of_getLast? mem)))

theorem not_isBlank_of_isAsciiDigit {c : Char} (digit : isAsciiDigit c = true) :
    isBlank c = false := by
  simp only [isAsciiDigit, Bool.and_eq_true, decide_eq_true_eq] at digit
  rw [isBlank, List.any_eq_false]
  intro range mem
  have outside : blankRanges.all (fun r => decide (r.2 < 48) || decide (57 < r.1)) = true := by
    decide
  have apart := List.all_eq_true.mp outside range mem
  simp only [Bool.or_eq_true, decide_eq_true_eq] at apart
  simp only [Bool.and_eq_true, decide_eq_true_eq, not_and]
  omega

/-- The digits without the zeros at the front; of zeros alone one is left. -/
def significant (cs : List Char) : List Char :=
  match cs.dropWhile (· == '0') with
  | [] => ['0']
  | digits => digits

theorem significant_zero_cons (cs : List Char) : significant ('0' :: cs) = significant cs := by
  rw [significant, List.dropWhile_cons_of_pos (by decide), ← significant]

theorem significant_of_ne {c : Char} (nonzero : c ≠ '0') (cs : List Char) :
    significant (c :: cs) = c :: cs := by
  rw [significant, List.dropWhile_cons_of_neg (by simpa using nonzero)]

/-- Zeros at the front do not count. -/
theorem natOfDigits_significant (cs : List Char) :
    natOfDigits (significant cs) = natOfDigits cs := by
  have step (rest : List Char) : natOfDigits ('0' :: rest) = natOfDigits rest := rfl
  induction cs with
  | nil => rfl
  | cons c cs ih =>
    by_cases zero : c = '0'
    · rw [zero, step, ← ih, significant_zero_cons]
    · rw [significant_of_ne zero]

theorem isDigits_significant (digits : ∀ c ∈ cs, isAsciiDigit c = true) :
    IsDigits (significant cs) := by
  unfold significant
  split
  · exact ⟨List.cons_ne_nil _ _, List.forall_mem_singleton.mpr rfl⟩
  · next nonempty => exact ⟨nonempty, fun c mem => digits c ((List.dropWhile_suffix _).mem mem)⟩

theorem length_significant_le (nonempty : cs ≠ []) : (significant cs).length ≤ cs.length := by
  unfold significant
  split
  · exact List.length_pos_iff.mpr nonempty
  · exact (List.dropWhile_suffix _).length_le

/-- A single zero is the only row that still begins with one. -/
theorem significant_eq_zero_cons {rest : List Char} (same : significant cs = '0' :: rest) :
    rest = [] := by
  induction cs with
  | nil => exact (List.cons.inj same).2.symm
  | cons c cs ih =>
    by_cases zero : c = '0'
    · rw [zero, significant_zero_cons] at same
      exact ih same
    · rw [significant_of_ne zero] at same
      exact absurd (List.cons.inj same).1 zero

theorem significant_toDigits (n : Nat) : significant (Nat.toDigits 10 n) = Nat.toDigits 10 n := by
  obtain ⟨c, rest, split⟩ : ∃ c cs, Nat.toDigits 10 n = c :: cs :=
    List.exists_cons_of_ne_nil Nat.toDigits_ne_nil
  rw [split]
  by_cases zero : c = '0'
  · subst zero
    rw [(toDigits_eq_zero_cons split).2]
    rfl
  · exact significant_of_ne zero rest

theorem isDigits_toDigits (n : Nat) : IsDigits (Nat.toDigits 10 n) :=
  ⟨Nat.toDigits_ne_nil, fun _ => isAsciiDigit_of_mem_toDigits⟩

end Text

/-! ## The reader of values -/

namespace Numeral

theorem moreDigits_digits (digits : ∀ c ∈ cs, Text.isAsciiDigit c = true) :
    moreDigits Text.digitValue? cs = (cs.map fun c => c.toNat - 48, []) := by
  induction cs with
  | nil => rfl
  | cons c cs ih =>
    obtain ⟨digit, others⟩ := List.forall_mem_cons.mp digits
    have noJoint : c ≠ '_' := Text.ne_of_isAsciiDigit digit (by decide)
    rw [moreDigits]
    · simp only [Text.digitValue?_ascii digit, ih others, List.map_cons]
    · rintro d more joint -
      exact noJoint joint

/-- The reader takes a row of digits for its number, if it is not too long. -/
theorem read_digits (shown : String) (is : Text.IsDigits cs) :
    read shown cs =
      if Fault.numeralLimit < cs.length then .error (.longNumeral cs.length)
      else .ok (Text.natOfDigits cs) := by
  have trimmed : Text.trimBy isPadding cs = cs := by
    refine is.trimBy_eq fun c digit => ?_
    have blank := Text.not_isBlank_of_isAsciiDigit digit
    simp only [Text.isAsciiDigit, Bool.and_eq_true, decide_eq_true_eq] at digit
    have noSpace : Text.isPlainSpace c = false := by
      have : c ≠ ' ' := by
        rintro rfl
        exact absurd digit (by decide)
      simp [Text.isPlainSpace, this]
      omega
    rw [isPadding, noSpace, blank]
    rfl
  obtain ⟨c, more, rfl⟩ := List.exists_cons_of_ne_nil is.nonempty
  obtain ⟨digit, others⟩ := List.forall_mem_cons.mp is.digits
  have unsigned : takeSign (c :: more) = (false, c :: more) := by
    have minus : c ≠ '-' := Text.ne_of_isAsciiDigit digit (by decide)
    have plus : c ≠ '+' := Text.ne_of_isAsciiDigit digit (by decide)
    simp [takeSign, minus, plus]
  have run : digitRun? Text.digitValue? (c :: more) =
      some ((c :: more).map fun c => c.toNat - 48, []) := by
    simp only [digitRun?, Text.digitValue?_ascii digit, moreDigits_digits others, Option.map_some,
      List.map_cons]
  have number : ofDigits ((c :: more).map fun c => c.toNat - 48) =
      Text.natOfDigits (c :: more) := by
    rw [ofDigits, List.foldl_map, Text.natOfDigits]
  rw [read, trimmed, unsigned]
  dsimp only
  rw [run]
  simp only [List.head?_nil, List.length_map, List.isEmpty_nil, if_true, number, signed,
    Bool.false_eq_true, if_false]
  rfl

end Numeral

/-! ## The validator -/

namespace Checked

theorem afterZero_digits (digits : ∀ c ∈ cs, Text.isAsciiDigit c = true) :
    afterZero '0' cs = some (Text.significant cs) := by
  induction cs with
  | nil => rfl
  | cons c cs ih =>
    obtain ⟨digit, others⟩ := List.forall_mem_cons.mp digits
    by_cases zero : c = '0'
    · subst zero
      rw [Text.significant_zero_cons, ← ih others]
      rfl
    · have noJoint : c ≠ '_' := Text.ne_of_isAsciiDigit digit (by decide)
      have noPoint : c ≠ '.' := Text.ne_of_isAsciiDigit digit (by decide)
      rw [Text.significant_of_ne zero, afterZero]
      simp [zero, noJoint, noPoint, digit]

theorem withoutZeros?_digits (is : Text.IsDigits cs) :
    withoutZeros? cs = some (Text.significant cs) := by
  obtain ⟨c, rest, rfl⟩ := List.exists_cons_of_ne_nil is.nonempty
  obtain ⟨digit, others⟩ := List.forall_mem_cons.mp is.digits
  by_cases zero : c = '0'
  · subst zero
    rw [Text.significant_zero_cons, ← afterZero_digits others]
    rfl
  · rw [Text.significant_of_ne zero, withoutZeros?]
    · simp [digit]
    · intro same
      exact absurd same zero

/-- Digits without zeros at the front are what the validator looks at in the end. -/
theorem strictInteger_digits (is : Text.IsDigits cs)
    (plain : ∀ rest, cs = '0' :: rest → rest = []) :
    strictInteger cs =
      if Fault.numeralLimit < cs.length then .error .integerSize
      else .ok (Text.natOfDigits cs) := by
  have whole : cs.takeWhile Text.isAsciiDigit = cs :=
    List.takeWhile_eq_self_iff.mpr is.digits
  have unsigned : (cs.head? == some '-') = false := by
    rw [beq_eq_false_iff_ne]
    intro sign
    exact absurd (is.digits _ (List.mem_of_mem_head? sign)) (by decide)
  have canonical : (cs.isEmpty || (cs.head? == some '0' && cs.length != 1)) = false := by
    obtain ⟨c, rest, rfl⟩ := List.exists_cons_of_ne_nil is.nonempty
    by_cases zero : c = '0'
    · subst zero
      rw [plain rest rfl]
      rfl
    · simp [zero]
  have number : Numeral.ofDigits (cs.map fun c => c.toNat - 48) = Text.natOfDigits cs := by
    rw [Numeral.ofDigits, List.foldl_map, Text.natOfDigits]
  simp only [strictInteger, unsigned, Bool.false_eq_true, if_false, whole, canonical, number,
    bne_self_eq_false, Nat.add_zero, Numeral.signed]

/-- The validator takes a row of digits for its number, if there are not too many of them behind the
zeros at the front. -/
theorem integerText_digits (is : Text.IsDigits cs) :
    integerText cs =
      if Fault.numeralLimit < (Text.significant cs).length then .error .integerSize
      else .ok (Text.natOfDigits cs) := by
  have kept := Text.isDigits_significant is.digits
  have trimmed : Text.trimBy Text.isWhiteSpace cs = cs := by
    refine is.trimBy_eq fun c digit => ?_
    rw [Text.isWhiteSpace, Text.not_isBlank_of_isAsciiDigit digit]
    rfl
  have absent {c : Char} (noDigit : Text.isAsciiDigit c = false) {ds : List Char}
      (are : Text.IsDigits ds) : c ∉ ds := by
    intro mem
    rw [are.digits c mem] at noDigit
    cases noDigit
  have sign {c : Char} (noDigit : Text.isAsciiDigit c = false) : cs.head? ≠ some c :=
    fun head => absent noDigit is (List.mem_of_mem_head? head)
  have unsigned : [some '-', some '+'].contains cs.head? = false := by
    simp [sign (c := '-') (by decide), sign (c := '+') (by decide)]
  have noPair : ['+', '-'].isPrefixOf cs = false := by
    rw [Bool.eq_false_iff]
    intro begins
    obtain ⟨rest, rfl⟩ := List.isPrefixOf_iff_prefix.mp begins
    exact sign (c := '+') (by decide) rfl
  have noFraction : withoutFraction (Text.significant cs) = Text.significant cs := by
    have whole := Text.takeWhile_of_not_mem (absent (c := '.') (by decide) kept)
    simp [withoutFraction, whole]
  have noJoints : withoutUnderscores (Text.significant cs) = Text.significant cs := by
    have free : '_' ∉ Text.significant cs := absent (by decide) kept
    have nonempty : (Text.significant cs).isEmpty = false := by simpa using kept.nonempty
    rw [withoutUnderscores, List.splitOn_eq_singleton free]
    simp only [List.any_cons, List.any_nil, nonempty, Bool.or_false, Bool.false_eq_true, if_false]
    exact List.filter_eq_self.mpr (Text.forall_bne_of_not_mem free)
  have positive : (cs.head? == some '-') = false := by
    simpa using sign (c := '-') (by decide)
  rw [integerText, trimmed]
  simp only [unsigned, noPair, Bool.false_eq_true, if_false, withoutZeros?_digits is, noFraction,
    noJoints, positive]
  rw [strictInteger_digits kept fun rest => Text.significant_eq_zero_cons,
    Text.natOfDigits_significant]

theorem natural_digits {s : String} (is : Text.IsDigits s.toList) :
    natural (.text s) =
      if Fault.numeralLimit < (Text.significant s.toList).length then .error .integerSize
      else .ok (Text.natOfDigits s.toList) := by
  have nonneg : ¬ (Text.natOfDigits s.toList : Int) < 0 :=
    Int.not_lt.mpr (Int.natCast_nonneg _)
  rw [natural, integer, integerText_digits is]
  by_cases long : Fault.numeralLimit < (Text.significant s.toList).length
  · rw [if_pos long]
  · rw [if_neg long]
    exact if_neg nonneg

/-- The numeral of a number is read back. -/
theorem integer_decimal {n : Int} (nonneg : 0 ≤ n)
    (writable : (Value.integer n).isWritable = true) :
    integer (.text (.ofList (Text.decimal n))) = .ok n := by
  obtain ⟨m, rfl⟩ := Int.eq_ofNat_of_zero_le nonneg
  rw [Value.isWritable, decide_eq_true_eq] at writable
  have short : (Nat.toDigits 10 m).length ≤ Fault.numeralLimit := writable
  rw [integer, String.toList_ofList]
  show integerText (Nat.toDigits 10 m) = _
  rw [integerText_digits (Text.isDigits_toDigits m), Text.significant_toDigits,
    Text.natOfDigits_toDigits, if_neg (Nat.not_lt.mpr short)]

end Checked

end SignedLink
