/-!
# SignedLink — hexadecimal and decimal digits of numbers

Lower-case hexadecimal without a sign, padded with zeros where a width is
asked for, and decimal numerals of integers.

* `hexValue?_hexDigit`: a digit reads back as its value.
* `visible_of_mem_hexPadded`: the digits of a number are visible ASCII.
-/

namespace SignedLink.Text

/-- The lower-case digit of a value below sixteen. -/
def hexDigit (n : Nat) : Char :=
  "0123456789abcdef".toList.getD n '0'

/-- The value of a hexadecimal digit of either case. -/
def hexValue? (c : Char) : Option Nat :=
  let n := c.toNat
  if 48 ≤ n ∧ n ≤ 57 then some (n - 48)
  else if 97 ≤ n ∧ n ≤ 102 then some (n - 87)
  else if 65 ≤ n ∧ n ≤ 70 then some (n - 55)
  else none

/-- The last `width` hexadecimal digits of the number. -/
def hexPadded : (width : Nat) → (n : Nat) → List Char
  | 0, _ => []
  | width + 1, n => hexPadded width (n / 16) ++ [hexDigit (n % 16)]

/-- The number of hexadecimal digits, at least one. -/
def hexWidth (n : Nat) : Nat :=
  n.log2 / 4 + 1

/-- The hexadecimal numeral without leading zeros; zero is `0`. -/
def hex (n : Nat) : List Char :=
  hexPadded (hexWidth n) n

/-- The decimal numeral, with a leading `-` below zero. -/
def decimal : Int → List Char
  | .ofNat n => Nat.toDigits 10 n
  | .negSucc n => '-' :: Nat.toDigits 10 (n + 1)

/-- The decimal numeral, padded on the left with zeros to the width. -/
def decimalPadded (width n : Nat) : List Char :=
  let digits := Nat.toDigits 10 n
  List.replicate (width - digits.length) '0' ++ digits

/-! ## Elementary facts -/

/-- A digit reads back as its value. -/
theorem hexValue?_hexDigit : ∀ n < 16, hexValue? (hexDigit n) = some n := by
  decide

/-- The digits of a number are visible ASCII. -/
theorem visible_of_mem_hexPadded {width n : Nat} {c : Char} (h : c ∈ hexPadded width n) :
    32 < c.toNat ∧ c.toNat < 127 := by
  induction width generalizing n with
  | zero => cases h
  | succ width ih =>
    rw [hexPadded, List.mem_append, List.mem_singleton] at h
    rcases h with h | rfl
    · exact ih h
    · exact (by decide : ∀ d < 16, 32 < (hexDigit d).toNat ∧ (hexDigit d).toNat < 127) _
        (Nat.mod_lt _ (by decide))

@[simp] theorem length_hexPadded (width n : Nat) : (hexPadded width n).length = width := by
  induction width generalizing n with
  | zero => rfl
  | succ width ih => simp [hexPadded, ih]

end SignedLink.Text
