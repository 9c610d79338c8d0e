import Mathlib.Algebra.Order.Field.Power
import Mathlib.Tactic.Linarith
import Mathlib.Tactic.Positivity
import Mathlib.Tactic.Ring
import SignedLink.Number.Shortest
/-!
# SignedLink — what rounds to a binary number

Numbers are made from fractions and from decimals, and both are rounded. Which
fractions make a given number is an interval around it: half a unit on each
side, and a quarter below a power of two, where the units change. The bounds
themselves belong to the interval of an even significand only.

The interval is stated in rational numbers, so that how the fraction is given
plays no part.

* `RoundsTo`: the interval of a number.
* `ofRatio_of_roundsTo`, `ofDecimal_of_roundsTo`: what lies in it makes the number.
* `isProper_ofRatio`: a fraction makes a number in its normal form.
-/

namespace SignedLink.Binary64

/-! ## Numbers in their normal form -/

/-- A positive number in its normal form: 53 bits, or fewer at the least exponent. -/
structure Fits (m : Nat) (e : Int) : Prop where
  pos : 0 < m
  below : m < significandBound
  least : leastExponent ≤ e
  greatest : e ≤ greatestExponent
  normal : 2 ^ 52 ≤ m ∨ e = leastExponent

/-- How far the interval of a number reaches below it, in units of its last place. -/
def gap (m : Nat) (e : Int) : ℚ :=
  if m = 2 ^ 52 ∧ leastExponent < e then 1 / 4 else 1 / 2

theorem gap_le (m : Nat) (e : Int) : gap m e ≤ 1 / 2 := by
  unfold gap
  split <;> norm_num

/-- The interval of a number. -/
structure RoundsTo (m : Nat) (e : Int) (q : ℚ) : Prop where
  lower : (m - gap m e) * 2 ^ e ≤ q
  upper : q ≤ (m + 1 / 2) * 2 ^ e
  inner : m % 2 = 1 → (m - gap m e) * 2 ^ e < q ∧ q < (m + 1 / 2) * 2 ^ e

theorem two_zpow_pos (e : Int) : (0 : ℚ) < 2 ^ e := zpow_pos (by norm_num) e

namespace RoundsTo

variable {m : Nat} {e : Int} {q : ℚ}

theorem bound_le (rounds : RoundsTo m e q) (fits : Fits m e) : (2 : ℚ) ^ (-1075 : Int) ≤ q := by
  have half : (1 / 2 : ℚ) ≤ m - gap m e := by
    have : (1 : ℚ) ≤ m := by exact_mod_cast fits.pos
    have := gap_le m e
    linarith
  calc (2 : ℚ) ^ (-1075 : Int) = 1 / 2 * 2 ^ leastExponent := by
        rw [show (-1075 : Int) = -1 + leastExponent by decide, zpow_add₀ (by norm_num)]
        norm_num
    _ ≤ (m - gap m e) * 2 ^ e := by
      have := fits.least
      gcongr
      norm_num
    _ ≤ q := rounds.lower

theorem lt_bound (rounds : RoundsTo m e q) (fits : Fits m e) : q < 2 ^ (1024 : Int) := by
  have below : (m : ℚ) + 1 / 2 < 2 ^ 53 := by
    have : m + 1 ≤ 2 ^ 53 := fits.below
    have : (m : ℚ) + 1 ≤ 2 ^ 53 := by exact_mod_cast this
    linarith
  calc q ≤ (m + 1 / 2) * 2 ^ e := rounds.upper
    _ < 2 ^ 53 * 2 ^ e := mul_lt_mul_of_pos_right below (two_zpow_pos e)
    _ ≤ 2 ^ 53 * 2 ^ greatestExponent := by
      have := fits.greatest
      gcongr
      norm_num
    _ = 2 ^ (1024 : Int) := by
      rw [show (1024 : Int) = 53 + greatestExponent by decide, zpow_add₀ (by norm_num)]
      norm_num

theorem pos (rounds : RoundsTo m e q) (fits : Fits m e) : 0 < q :=
  lt_of_lt_of_le (two_zpow_pos _) (rounds.bound_le fits)

end RoundsTo

/-! ## Fractions in units of a power of two -/

theorem inUnits_den_pos (num : Nat) {den : Nat} (pos : 0 < den) (e : Int) :
    0 < (inUnits num den e).2 := by
  unfold inUnits
  split
  · exact Nat.mul_pos pos (Nat.two_pow_pos _)
  · exact pos

theorem inUnits_eq (num den : Nat) (e : Int) :
    ((inUnits num den e).1 : ℚ) / (inUnits num den e).2 = (num : ℚ) / den / 2 ^ e := by
  unfold inUnits
  split
  · next nonneg =>
    obtain ⟨n, rfl⟩ := Int.eq_ofNat_of_zero_le nonneg
    simp only [Int.toNat_natCast, Nat.cast_mul, Nat.cast_pow, Nat.cast_ofNat, zpow_natCast]
    rw [div_div]
  · next negative =>
    obtain ⟨n, rfl⟩ : ∃ n : Nat, e = -(n : Int) := ⟨(-e).toNat, by omega⟩
    simp only [neg_neg, Int.toNat_natCast, Nat.cast_mul, Nat.cast_pow, Nat.cast_ofNat, zpow_neg,
      zpow_natCast]
    rw [div_inv_eq_mul, mul_div_right_comm]

/-! ## The nearest whole number -/

theorem roundedQuotient_eq {num den m : Nat} (pos : 0 < den)
    (lower : 2 * m * den ≤ 2 * num + den) (upper : 2 * num ≤ (2 * m + 1) * den)
    (inner : m % 2 = 1 → 2 * m * den < 2 * num + den ∧ 2 * num < (2 * m + 1) * den) :
    roundedQuotient num den = m := by
  have whole := Nat.div_add_mod num den
  have small := Nat.mod_lt num pos
  unfold roundedQuotient
  dsimp only
  generalize num / den = q at *
  generalize num % den = r at *
  subst whole
  -- the quotient is the number or the one below it
  have above : q ≤ m := by
    by_contra less
    have : (2 * m + 1) * den < 2 * q * den := Nat.mul_lt_mul_of_pos_right (by omega) pos
    grind
  have near : m ≤ q + 1 := by
    by_contra more
    have : (2 * q + 4) * den ≤ 2 * m * den := Nat.mul_le_mul_right den (by omega)
    grind
  obtain rfl | rfl : m = q ∨ m = q + 1 := by omega
  · have : 2 * r ≤ den := by grind
    split
    · rfl
    · have := inner
      grind
  · have : den ≤ 2 * r := by grind
    have := inner
    grind

theorem roundedQuotient_of_near {num den m : Nat} (pos : 0 < den)
    (lower : (m : ℚ) - 1 / 2 ≤ num / den) (upper : (num : ℚ) / den ≤ m + 1 / 2)
    (inner : m % 2 = 1 → (m : ℚ) - 1 / 2 < num / den ∧ (num : ℚ) / den < m + 1 / 2) :
    roundedQuotient num den = m := by
  have posQ : (0 : ℚ) < den := by exact_mod_cast pos
  rw [le_div_iff₀ posQ] at lower
  rw [div_le_iff₀ posQ] at upper
  rw [lt_div_iff₀ posQ, div_lt_iff₀ posQ] at inner
  refine roundedQuotient_eq pos ?_ ?_ fun odd => ⟨?_, ?_⟩
  · have : (2 * m * den : ℚ) ≤ 2 * num + den := by linarith
    exact_mod_cast this
  · have : (2 * num : ℚ) ≤ (2 * m + 1) * den := by linarith
    exact_mod_cast this
  · have : (2 * m * den : ℚ) < 2 * num + den := by linarith [(inner odd).1]
    exact_mod_cast this
  · have : (2 * num : ℚ) < (2 * m + 1) * den := by linarith [(inner odd).2]
    exact_mod_cast this

theorem le_roundedQuotient {num den m : Nat} (pos : 0 < den) (low : m * den ≤ num) :
    m ≤ roundedQuotient num den := by
  have := (Nat.le_div_iff_mul_le pos).mpr low
  unfold roundedQuotient
  dsimp only
  split
  · exact this
  · split <;> omega

theorem roundedQuotient_le {num den m : Nat} (pos : 0 < den) (high : num ≤ m * den) :
    roundedQuotient num den ≤ m := by
  rcases Nat.lt_or_ge num (m * den) with less | more
  · have := (Nat.div_lt_iff_lt_mul pos).mpr less
    unfold roundedQuotient
    dsimp only
    split
    · omega
    · split <;> omega
  · rw [le_antisymm high more, roundedQuotient_mul m pos]

/-! ## The units in which a fraction is counted -/

theorem two_zpow_log2_le {n : Nat} (pos : 0 < n) : (2 : ℚ) ^ (n.log2 : Int) ≤ n := by
  rw [zpow_natCast]
  exact_mod_cast Nat.log2_self_le pos.ne'

theorem lt_two_zpow_log2 (n : Nat) : (n : ℚ) < 2 ^ (n.log2 : Int) * 2 := by
  have := Nat.lt_log2_self (n := n)
  rw [Nat.pow_succ] at this
  rw [zpow_natCast]
  exact_mod_cast this

/-- The number of digits of a fraction, or one less, counted in twos. -/
theorem estimate_bounds {num den : Nat} (numPos : 0 < num) (pos : 0 < den) :
    (2 : ℚ) ^ 52 * 2 ^ ((num.log2 : Int) - den.log2 - 53) < num / den ∧
      (num : ℚ) / den < 2 ^ 54 * 2 ^ ((num.log2 : Int) - den.log2 - 53) := by
  have posQ : (0 : ℚ) < den := by exact_mod_cast pos
  have numLow := two_zpow_log2_le numPos
  have numHigh := lt_two_zpow_log2 num
  have denLow := two_zpow_log2_le pos
  have denHigh := lt_two_zpow_log2 den
  have p := two_zpow_pos ((num.log2 : Int) - den.log2 - 53)
  have split : (2 : ℚ) ^ (num.log2 : Int) =
      2 ^ 53 * 2 ^ ((num.log2 : Int) - den.log2 - 53) * 2 ^ (den.log2 : Int) := by
    rw [← zpow_natCast (2 : ℚ) 53, ← zpow_add₀ (by norm_num), ← zpow_add₀ (by norm_num)]
    congr 1
    push_cast
    omega
  generalize (2 : ℚ) ^ ((num.log2 : Int) - den.log2 - 53) = unit at *
  constructor
  · rw [lt_div_iff₀ posQ]
    calc (2 : ℚ) ^ 52 * unit * den < 2 ^ 52 * unit * (2 ^ (den.log2 : Int) * 2) := by gcongr
      _ = 2 ^ (num.log2 : Int) := by rw [split]; ring
      _ ≤ num := numLow
  · rw [div_lt_iff₀ posQ]
    calc (num : ℚ) < 2 ^ (num.log2 : Int) * 2 := numHigh
      _ = 2 ^ 54 * unit * 2 ^ (den.log2 : Int) := by rw [split]; ring
      _ ≤ 2 ^ 54 * unit * den := by gcongr

/-- A fraction is counted in units of which it has 53 digits, or in the least ones. -/
theorem exists_unitExponent {num den : Nat} (numPos : 0 < num) (pos : 0 < den) :
    ∃ e : Int, (2 : ℚ) ^ 52 * 2 ^ e ≤ (num : ℚ) / den ∧ (num : ℚ) / den < 2 ^ 53 * 2 ^ e ∧
      unitExponent num den = max e leastExponent := by
  obtain ⟨low, high⟩ := estimate_bounds numPos pos
  unfold unitExponent
  dsimp only
  generalize (num.log2 : Int) - (den.log2 : Int) - 53 = estimate at *
  have p := two_zpow_pos estimate
  -- the whole part of the fraction has 53 digits or one more
  have floor : (inUnits num den estimate).1 / (inUnits num den estimate).2 < significandBound ↔
      (num : ℚ) / den < 2 ^ 53 * 2 ^ estimate := by
    rw [Nat.div_lt_iff_lt_mul (inUnits_den_pos num pos estimate), ← div_lt_iff₀ p, ← inUnits_eq,
      div_lt_iff₀ (by exact_mod_cast inUnits_den_pos num pos estimate), significandBound]
    exact_mod_cast Iff.rfl
  by_cases below : (num : ℚ) / den < 2 ^ 53 * 2 ^ estimate
  · exact ⟨estimate, low.le, below, by rw [if_pos (floor.mpr below)]⟩
  · refine ⟨estimate + 1, ?_, ?_, by rw [if_neg (mt floor.mp below)]⟩
    · rw [zpow_add₀ (by norm_num), zpow_one]
      linarith
    · rw [zpow_add₀ (by norm_num), zpow_one]
      linarith

/-- The ranges of two exponents have no number in common. -/
theorem exponent_le {q : ℚ} {a b : Int} (low : (2 : ℚ) ^ 52 * 2 ^ a ≤ q)
    (high : q < 2 ^ 53 * 2 ^ b) : a ≤ b := by
  have : (2 : ℚ) ^ a < 2 ^ (b + 1) := by
    rw [zpow_add₀ (by norm_num), zpow_one]
    linarith
  have := (zpow_lt_zpow_iff_right₀ (by norm_num)).mp this
  omega

theorem unitExponent_of_normal {num den : Nat} (pos : 0 < den) {e : Int}
    (least : leastExponent ≤ e) (low : (2 : ℚ) ^ 52 * 2 ^ e ≤ num / den)
    (high : (num : ℚ) / den < 2 ^ 53 * 2 ^ e) : unitExponent num den = e := by
  have numPos : 0 < num := by
    rcases Nat.eq_zero_or_pos num with rfl | numPos
    · have := two_zpow_pos e
      norm_num at low
      linarith
    · exact numPos
  obtain ⟨other, otherLow, otherHigh, unit⟩ := exists_unitExponent numPos pos
  have := exponent_le low otherHigh
  have := exponent_le otherLow high
  omega

theorem unitExponent_of_small {num den : Nat} (numPos : 0 < num) (pos : 0 < den)
    (high : (num : ℚ) / den < 2 ^ 53 * 2 ^ leastExponent) :
    unitExponent num den = leastExponent := by
  obtain ⟨e, low, -, unit⟩ := exists_unitExponent numPos pos
  have := exponent_le low high
  omega

theorem roundedQuotient_inUnits {num den m : Nat} {e : Int} (pos : 0 < den)
    (lower : (m - 1 / 2 : ℚ) * 2 ^ e ≤ num / den) (upper : (num : ℚ) / den ≤ (m + 1 / 2) * 2 ^ e)
    (inner : m % 2 = 1 →
      (m - 1 / 2 : ℚ) * 2 ^ e < num / den ∧ (num : ℚ) / den < (m + 1 / 2) * 2 ^ e) :
    roundedQuotient (inUnits num den e).1 (inUnits num den e).2 = m := by
  have p := two_zpow_pos e
  refine roundedQuotient_of_near (inUnits_den_pos num pos e) ?_ ?_ ?_ <;> rw [inUnits_eq]
  · rwa [le_div_iff₀ p]
  · rwa [div_le_iff₀ p]
  · rwa [lt_div_iff₀ p, div_lt_iff₀ p]

/-! ## Fractions -/

theorem ofRatio_of_units {num den m : Nat} {e : Int} (negative : Bool) (numPos : 0 < num)
    (unit : unitExponent num den = e)
    (rounded : roundedQuotient (inUnits num den e).1 (inUnits num den e).2 = m) :
    ofRatio negative num den =
      if m < significandBound then
        if greatestExponent < e then .infinite negative else .finite negative m e
      else if greatestExponent < e + 1 then .infinite negative
      else .finite negative (m / 2) (e + 1) := by
  unfold ofRatio
  rw [if_neg (by simpa using numPos.ne')]
  dsimp only
  rw [unit, rounded]

/-- A fraction less than a quarter below a power of two is counted in units of half the size, and is
rounded up to the power. -/
theorem ofRatio_below_power {num den : Nat} {e : Int} (least : leastExponent < e)
    (greatest : e ≤ greatestExponent) (numPos : 0 < num) (pos : 0 < den)
    (lower : ((2 : ℚ) ^ 52 - 1 / 4) * 2 ^ e ≤ num / den) (low : (num : ℚ) / den < 2 ^ 52 * 2 ^ e)
    (negative : Bool) : ofRatio negative num den = .finite negative (2 ^ 52) e := by
  have half : (2 : ℚ) ^ e = 2 * 2 ^ (e - 1) := by
    rw [zpow_sub₀ (by norm_num), zpow_one]
    ring
  rw [half] at lower low
  have p := two_zpow_pos (e - 1)
  have unit : unitExponent num den = e - 1 := by
    refine unitExponent_of_normal pos (by omega) ?_ ?_ <;> linarith
  have rounded : roundedQuotient (inUnits num den (e - 1)).1 (inUnits num den (e - 1)).2 =
      2 ^ 53 := by
    refine roundedQuotient_inUnits pos ?_ ?_ fun odd => absurd odd (by norm_num)
    · push_cast
      linarith
    · push_cast
      linarith
  rw [ofRatio_of_units negative numPos unit rounded, if_neg (by decide), if_neg (by omega)]
  congr 1
  omega

/-- Whatever rounds to a number makes that number. -/
theorem ofRatio_of_roundsTo {num den m : Nat} {e : Int} (fits : Fits m e) (pos : 0 < den)
    (rounds : RoundsTo m e (num / den)) (negative : Bool) :
    ofRatio negative num den = .finite negative m e := by
  have p := two_zpow_pos e
  have below := fits.below
  have m53 : (m : ℚ) + 1 ≤ 2 ^ 53 := by
    have : m + 1 ≤ 2 ^ 53 := below
    exact_mod_cast this
  have positive := rounds.pos fits
  obtain ⟨lower, upper, inner⟩ := rounds
  have numPos : 0 < num := by
    rcases Nat.eq_zero_or_pos num with rfl | numPos
    · simp at positive
    · exact numPos
  have high : (num : ℚ) / den < 2 ^ 53 * 2 ^ e := lt_of_le_of_lt upper (by gcongr; linarith)
  by_cases low : (2 : ℚ) ^ 52 * 2 ^ e ≤ num / den ∨ e = leastExponent
  · -- the ratio is counted in the units of the number
    have unit : unitExponent num den = e := by
      rcases low with low | rfl
      · exact unitExponent_of_normal pos fits.least low high
      · exact unitExponent_of_small numPos pos high
    have half : (m - 1 / 2 : ℚ) * 2 ^ e ≤ (m - gap m e) * 2 ^ e := by
      have := gap_le m e
      gcongr
    have rounded := roundedQuotient_inUnits pos (half.trans lower) upper fun odd =>
      ⟨lt_of_le_of_lt half (inner odd).1, (inner odd).2⟩
    rw [ofRatio_of_units negative numPos unit rounded, if_pos fits.below,
      if_neg (not_lt.mpr fits.greatest)]
  · -- the ratio lies below the number, which is a power of two then
    obtain ⟨low, normal⟩ := not_or.mp low
    have least : leastExponent < e := by
      have := fits.least
      omega
    obtain rfl : m = 2 ^ 52 := by
      refine le_antisymm ?_ (fits.normal.resolve_right normal)
      have : (m - 1 / 2 : ℚ) * 2 ^ e < 2 ^ 52 * 2 ^ e := by
        have := gap_le m e
        calc (m - 1 / 2 : ℚ) * 2 ^ e ≤ (m - gap m e) * 2 ^ e := by gcongr
          _ ≤ num / den := lower
          _ < 2 ^ 52 * 2 ^ e := not_le.mp low
      have : (m : ℚ) - 1 / 2 < 2 ^ 52 := lt_of_mul_lt_mul_right this p.le
      have : (m : ℚ) < 2 ^ 52 + 1 := by linarith
      have : m < 2 ^ 52 + 1 := by exact_mod_cast this
      omega
    have quarter : gap (2 ^ 52) e = 1 / 4 := if_pos ⟨rfl, least⟩
    rw [quarter] at lower
    push_cast at lower
    exact ofRatio_below_power least fits.greatest numPos pos lower (not_le.mp low) negative

/-! ## Decimals -/

theorem two_zpow_lt_ten_zpow : (2 : ℚ) ^ (1075 : Int) < 10 ^ (401 : Int) := by
  have : 2 ^ 1075 < 10 ^ 401 := by decide +kernel
  exact_mod_cast this

/-- A decimal that rounds to a number makes that number; no cutoff is met. -/
theorem ofDecimal_of_roundsTo {digits m : Nat} {exponent e : Int} (fits : Fits m e)
    (rounds : RoundsTo m e (digits * 10 ^ exponent)) (negative : Bool) :
    ofDecimal negative digits exponent = .finite negative m e := by
  have ten : (0 : ℚ) < 10 ^ exponent := zpow_pos (by norm_num) exponent
  have positive := rounds.pos fits
  have nonzero : digits ≠ 0 := by
    rintro rfl
    simp at positive
  have one : (1 : ℚ) ≤ digits := by exact_mod_cast Nat.one_le_iff_ne_zero.mpr nonzero
  have notLarge : ¬ 400 < exponent := by
    intro large
    have high := rounds.lt_bound fits
    have : (10 : ℚ) ^ (401 : Int) < 2 ^ (1075 : Int) := by
      calc (10 : ℚ) ^ (401 : Int) ≤ 10 ^ exponent := zpow_le_zpow_right₀ (by norm_num) (by omega)
        _ ≤ digits * 10 ^ exponent := le_mul_of_one_le_left ten.le one
        _ < 2 ^ (1024 : Int) := high
        _ ≤ 2 ^ (1075 : Int) := zpow_le_zpow_right₀ (by norm_num) (by norm_num)
    exact absurd this (not_lt.mpr two_zpow_lt_ten_zpow.le)
  have notSmall : ¬ exponent + (digits.log2 / 3 + 1 : Nat) < -400 := by
    intro small
    -- three bits make less than one digit
    have below : (digits : ℚ) ≤ 10 ^ ((digits.log2 / 3 + 1 : Nat) : Int) := by
      rw [zpow_natCast]
      have bits : digits < 2 ^ (3 * (digits.log2 / 3 + 1)) :=
        Nat.lt_of_lt_of_le Nat.lt_log2_self (Nat.pow_le_pow_right (by decide) (by omega))
      have : digits ≤ 10 ^ (digits.log2 / 3 + 1) := by
        rw [Nat.pow_mul] at bits
        exact bits.le.trans (Nat.pow_le_pow_left (by decide) _)
      exact_mod_cast this
    have : (digits : ℚ) * 10 ^ exponent ≤ 10 ^ (-401 : Int) := by
      calc (digits : ℚ) * 10 ^ exponent
          ≤ 10 ^ ((digits.log2 / 3 + 1 : Nat) : Int) * 10 ^ exponent := by gcongr
        _ = 10 ^ (((digits.log2 / 3 + 1 : Nat) : Int) + exponent) :=
          (zpow_add₀ (by norm_num) _ _).symm
        _ ≤ 10 ^ (-401 : Int) := zpow_le_zpow_right₀ (by norm_num) (by omega)
    have : (2 : ℚ) ^ (-1075 : Int) ≤ 10 ^ (-401 : Int) := (rounds.bound_le fits).trans this
    rw [zpow_neg, zpow_neg, inv_le_inv₀ (by positivity) (by positivity)] at this
    exact absurd this (not_le.mpr two_zpow_lt_ten_zpow)
  unfold ofDecimal
  rw [if_neg (by simpa using nonzero), if_neg notLarge, if_neg notSmall]
  split
  · next whole =>
    obtain ⟨n, rfl⟩ := Int.eq_ofNat_of_zero_le whole
    refine ofRatio_of_roundsTo fits Nat.one_pos ?_ negative
    simpa using rounds
  · next fractional =>
    obtain ⟨n, rfl⟩ : ∃ n : Nat, exponent = -(n : Int) := ⟨(-exponent).toNat, by omega⟩
    refine ofRatio_of_roundsTo fits (Nat.pow_pos (by decide)) ?_ negative
    rw [zpow_neg, zpow_natCast, ← div_eq_mul_inv] at rounds
    simpa using rounds

/-! ## What a fraction makes -/

/-- Numbers in their normal form, with zero, the infinities and what is no number. -/
inductive IsProper : Binary64 → Prop
  | nan : IsProper .nan
  | infinite (negative : Bool) : IsProper (.infinite negative)
  | zero (negative : Bool) : IsProper (.finite negative 0 leastExponent)
  | finite (negative : Bool) {m : Nat} {e : Int} (fits : Fits m e) : IsProper (.finite negative m e)

/-- A fraction makes a number in its normal form. -/
theorem isProper_ofRatio (negative : Bool) (num : Nat) {den : Nat} (pos : 0 < den) :
    IsProper (ofRatio negative num den) := by
  rcases Nat.eq_zero_or_pos num with rfl | numPos
  · exact .zero negative
  obtain ⟨e, low, high, unit⟩ := exists_unitExponent numPos pos
  rw [ofRatio_of_units negative numPos unit rfl]
  have least : leastExponent ≤ max e leastExponent := le_max_right e leastExponent
  have positive := inUnits_den_pos num pos (max e leastExponent)
  have scaled := inUnits_eq num den (max e leastExponent)
  generalize inUnits num den (max e leastExponent) = units at *
  obtain ⟨a, b⟩ := units
  dsimp only at positive scaled ⊢
  have posQ : (0 : ℚ) < b := by exact_mod_cast positive
  have p := two_zpow_pos (max e leastExponent)
  have upper : roundedQuotient a b ≤ 2 ^ 53 := by
    refine roundedQuotient_le positive ?_
    have : (a : ℚ) ≤ 2 ^ 53 * b := by
      rw [← div_le_iff₀ posQ, scaled, div_le_iff₀ p]
      refine high.le.trans ?_
      gcongr
      · norm_num
      · exact le_max_left e leastExponent
    exact_mod_cast this
  have normal : 2 ^ 52 ≤ roundedQuotient a b ∨ max e leastExponent = leastExponent := by
    by_cases top : leastExponent ≤ e
    · refine .inl (le_roundedQuotient positive ?_)
      have : (2 : ℚ) ^ 52 * b ≤ a := by
        rw [← le_div_iff₀ posQ, scaled, le_div_iff₀ p, max_eq_left top]
        exact low
      exact_mod_cast this
    · exact .inr (max_eq_right (by omega))
  generalize roundedQuotient a b = m at *
  generalize max e leastExponent = f at *
  split
  · next below =>
    split
    · exact .infinite negative
    · rcases Nat.eq_zero_or_pos m with rfl | unitsPos
      · rw [normal.resolve_left (by norm_num)]
        exact .zero negative
      · exact .finite negative ⟨unitsPos, below, least, by omega, normal⟩
  · next above =>
    split
    · exact .infinite negative
    · -- one more than the greatest significand is a power of two again
      have : m = 2 ^ 53 := le_antisymm upper (Nat.le_of_not_lt above)
      subst this
      exact .finite negative ⟨by decide, by decide, by omega, by omega, .inl (by decide)⟩

end SignedLink.Binary64
