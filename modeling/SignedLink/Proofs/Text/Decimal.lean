import SignedLink.Text.Digit
import SignedLink.Text.Hex
/-!
# SignedLink — decimal numerals

What the characters of a decimal numeral are, and that a numeral is read back
as its number. Only zero is written with a zero in front, so a numeral is as
readers of canonical numerals want it.

* `natOfDigits_toDigits`: the digits of a number spell it.
* `mem_decimal`: a numeral holds digits and a sign only.
* `decimal_eq_append`: a numeral is a sign or none, and then digits.
* `decimal_injective`: different integers have different numerals.
* `toDigits_eq_zero_cons`: only zero is written with a zero in front.
-/

namespace SignedLink.Text

theorem isAsciiDigit_of_mem_toDigits {n : Nat} {c : Char} (h : c ∈ Nat.toDigits 10 n) :
    isAsciiDigit c = true := by
  have digit := Nat.isDigit_of_mem_toDigits (by decide) (by decide) h
  simpa [Char.isDigit, isAsciiDigit, Char.le_def, UInt32.le_iff_toNat_le] using digit

/-- A digit is no character that is not one. -/
theorem ne_of_isAsciiDigit {d c : Char} (digit : isAsciiDigit d = true)
    (noDigit : isAsciiDigit c = false) : d ≠ c := by
  rintro rfl
  rw [digit] at noDigit
  cases noDigit

theorem natOfDigits_toDigits (n : Nat) : natOfDigits (Nat.toDigits 10 n) = n :=
  Nat.ofDigitChars_ten_toDigits

theorem mem_decimal {n : Int} {c : Char} (h : c ∈ decimal n) :
    c = '-' ∨ isAsciiDigit c = true := by
  cases n with
  | ofNat n => exact .inr (isAsciiDigit_of_mem_toDigits h)
  | negSucc n =>
    rcases List.mem_cons.mp h with sign | digit
    · exact .inl sign
    · exact .inr (isAsciiDigit_of_mem_toDigits digit)

theorem not_mem_decimal {c : Char} (noSign : c ≠ '-') (noDigit : isAsciiDigit c = false)
    (n : Int) : c ∉ decimal n := by
  intro mem
  rcases mem_decimal mem with sign | digit
  · exact noSign sign
  · rw [noDigit] at digit
    cases digit

/-- A numeral is a minus sign or none, and then the digits of the magnitude. -/
theorem decimal_eq_append (n : Int) :
    ∃ first digits, Nat.toDigits 10 n.natAbs = first :: digits ∧ isAsciiDigit first = true ∧
      decimal n = (if decide (n < 0) then ['-'] else []) ++ first :: digits := by
  obtain ⟨first, digits, split⟩ : ∃ c cs, Nat.toDigits 10 n.natAbs = c :: cs :=
    List.exists_cons_of_ne_nil Nat.toDigits_ne_nil
  have digit : isAsciiDigit first = true :=
    isAsciiDigit_of_mem_toDigits (n := n.natAbs) (split ▸ List.mem_cons_self)
  refine ⟨first, digits, split, digit, ?_⟩
  rw [← split]
  cases n with
  | ofNat n =>
    have positive : ¬ Int.ofNat n < 0 := by simp
    rw [decide_eq_false positive]
    rfl
  | negSucc n =>
    rw [decide_eq_true (Int.negSucc_lt_zero n)]
    rfl

theorem decimal_injective {a b : Int} (h : decimal a = decimal b) : a = b := by
  have signless {n m : Nat} : decimal (.ofNat n) ≠ decimal (.negSucc m) := by
    intro same
    have sign : '-' ∈ Nat.toDigits 10 n := by
      rw [show Nat.toDigits 10 n = decimal (.ofNat n) from rfl, same]
      exact List.mem_cons_self
    exact absurd (isAsciiDigit_of_mem_toDigits sign) (by decide)
  cases a with
  | ofNat n =>
    cases b with
    | ofNat m =>
      have values := congrArg natOfDigits h
      rw [decimal, decimal, natOfDigits_toDigits, natOfDigits_toDigits] at values
      rw [values]
    | negSucc m => exact absurd h signless
  | negSucc n =>
    cases b with
    | ofNat m => exact absurd h.symm signless
    | negSucc m =>
      have values := congrArg natOfDigits (List.cons.inj h).2
      rw [natOfDigits_toDigits, natOfDigits_toDigits] at values
      rw [Nat.succ.inj values]

/-- Only zero is written with a zero in front. -/
theorem toDigits_eq_zero_cons {n : Nat} {rest : List Char}
    (h : Nat.toDigits 10 n = '0' :: rest) : n = 0 ∧ rest = [] := by
  induction n using Nat.strongRecOn generalizing rest with
  | ind n ih =>
    by_cases small : n < 10
    · rw [Nat.toDigits_of_lt_base small] at h
      obtain ⟨digit, rfl⟩ := List.cons.inj h
      have digits : ∀ n < 10, n.digitChar = '0' → n = 0 := by decide
      exact ⟨digits n small digit, rfl⟩
    · -- the front digits spell the positive number `n / 10`
      rw [Nat.toDigits_of_base_le (by decide) (by omega)] at h
      obtain ⟨front, more, split⟩ : ∃ c cs, Nat.toDigits 10 (n / 10) = c :: cs :=
        List.exists_cons_of_ne_nil Nat.toDigits_ne_nil
      rw [split, List.cons_append] at h
      rw [(List.cons.inj h).1] at split
      have zero := (ih (n / 10) (by omega) split).1
      omega

end SignedLink.Text
