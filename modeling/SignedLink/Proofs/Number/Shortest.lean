import Mathlib.Tactic.NormNum
import SignedLink.Proofs.Number.Rounding
/-!
# SignedLink — the shortest decimal of a number rounds to it

The decimal is looked for on one grid after the other and only taken if exact
arithmetic finds it in the interval of the number. So it rounds to the number
as soon as there is one at all, and that is so on the grid of seventeen digits:
its steps are smaller than the interval, even where the interval is narrowest.

The search starts at an estimate of the leading digit. The estimate may be too
small, which makes the grids finer; it is never too large.

* `holds_iff`: the comparison over one scale is that of the rational numbers.
* `ten_zpow_leading_le`: the leading digit is not looked for above the number.
* `roundsTo_shortest`: the shortest decimal rounds to its number.
-/

namespace SignedLink.Shortest

open Binary64

/-- The rational number that a decimal is. -/
def Decimal.value (d : Decimal) : ℚ :=
  d.digits * 10 ^ d.exponent

/-! ## Comparisons over one scale -/

theorem scaled_eq (d : Decimal) (units : Nat) (unit : Int) :
    ∃ scale : ℚ, 0 < scale ∧ ((scaled d units unit).1 : ℚ) = d.value * scale ∧
      ((scaled d units unit).2 : ℚ) = units * 2 ^ unit * scale := by
  -- a power with a negative exponent stands on the other side of the comparison
  have split (base : ℚ) (nonzero : base ≠ 0) (e : Int) :
      (if 0 ≤ e then base ^ e.toNat else 1) =
        base ^ e * (if 0 ≤ -e then base ^ (-e).toNat else 1) := by
    rcases Int.lt_trichotomy e 0 with negative | rfl | positive
    · obtain ⟨n, rfl⟩ : ∃ n : Nat, e = -(n : Int) := ⟨(-e).toNat, by omega⟩
      rw [if_neg (by omega), if_pos (by omega), neg_neg, Int.toNat_natCast, zpow_neg, zpow_natCast,
        inv_mul_cancel₀ (pow_ne_zero n nonzero)]
    · simp
    · obtain ⟨n, rfl⟩ := Int.eq_ofNat_of_zero_le positive.le
      rw [if_pos (by omega), if_neg (by omega), Int.toNat_natCast, zpow_natCast, mul_one]
  refine ⟨(if 0 ≤ -unit then 2 ^ (-unit).toNat else 1) *
    (if 0 ≤ -d.exponent then 10 ^ (-d.exponent).toNat else 1), ?_, ?_, ?_⟩
  · positivity
  · have ten := split 10 (by norm_num) d.exponent
    simp only [scaled, Decimal.value]
    push_cast
    rw [ten]
    ring
  · have two := split 2 (by norm_num) unit
    simp only [scaled]
    push_cast
    rw [two]
    ring

variable {i : Interval} {d : Decimal} {units : Nat} {unit : Int}

theorem scaled_le_iff : (scaled d units unit).1 ≤ (scaled d units unit).2 ↔
    d.value ≤ units * 2 ^ unit := by
  obtain ⟨scale, pos, left, right⟩ := scaled_eq d units unit
  rw [← Nat.cast_le (α := ℚ), left, right, mul_le_mul_iff_left₀ pos]

theorem le_scaled_iff : (scaled d units unit).2 ≤ (scaled d units unit).1 ↔
    units * 2 ^ unit ≤ d.value := by
  obtain ⟨scale, pos, left, right⟩ := scaled_eq d units unit
  rw [← Nat.cast_le (α := ℚ), left, right, mul_le_mul_iff_left₀ pos]

/-- The decimal lies in the interval. -/
theorem holds_iff : i.holds d = true ↔
    if i.closed then i.lower * 2 ^ i.unit ≤ d.value ∧ d.value ≤ i.upper * 2 ^ i.unit
    else i.lower * 2 ^ i.unit < d.value ∧ d.value < i.upper * 2 ^ i.unit := by
  unfold Interval.holds
  dsimp only
  split
  · rw [Bool.and_eq_true, decide_eq_true_eq, decide_eq_true_eq, le_scaled_iff, scaled_le_iff]
  · rw [Bool.and_eq_true, decide_eq_true_eq, decide_eq_true_eq, ← not_le, ← not_le, scaled_le_iff,
      le_scaled_iff, not_le, not_le]

/-! ## The interval of a number -/

variable {m : Nat} {e : Int}

theorem quarters (e : Int) : (2 : ℚ) ^ e = 4 * 2 ^ (e - 2) := by
  rw [zpow_sub₀ (by norm_num)]
  norm_num
  ring

theorem lower_of (pos : 0 < m) :
    ((Interval.of m e).lower : ℚ) * 2 ^ (Interval.of m e).unit = (m - gap m e) * 2 ^ e := by
  have count : ((Interval.of m e).lower : ℚ) = 4 * (m - gap m e) := by
    simp only [Interval.of, Bool.and_eq_true, beq_iff_eq, decide_eq_true_eq, gap]
    split
    · rw [Nat.cast_sub (by omega)]
      push_cast
      ring
    · rw [Nat.cast_sub (by omega)]
      push_cast
      ring
  rw [count, quarters e, Interval.of]
  ring

theorem upper_of : ((Interval.of m e).upper : ℚ) * 2 ^ (Interval.of m e).unit =
    (m + 1 / 2) * 2 ^ e := by
  rw [quarters e, Interval.of]
  push_cast
  ring

theorem centre_of : ((Interval.of m e).centre : ℚ) * 2 ^ (Interval.of m e).unit = m * 2 ^ e := by
  rw [quarters e, Interval.of]
  push_cast
  ring

/-- What the interval holds rounds to the number. -/
theorem roundsTo_of_holds (pos : 0 < m) (holds : (Interval.of m e).holds d = true) :
    RoundsTo m e d.value := by
  rw [holds_iff, lower_of pos, upper_of] at holds
  have closed : (Interval.of m e).closed = (m % 2 == 0) := rfl
  split at holds
  · next even =>
    refine ⟨holds.1, holds.2, fun odd => ?_⟩
    rw [closed, beq_iff_eq] at even
    omega
  · exact ⟨holds.1.le, holds.2.le, fun _ => holds⟩

/-- What lies strictly between the bounds is held. -/
theorem holds_of_lt (pos : 0 < m) (lower : ((m : ℚ) - gap m e) * 2 ^ e < d.value)
    (upper : d.value < (m + 1 / 2) * 2 ^ e) : (Interval.of m e).holds d = true := by
  rw [holds_iff, lower_of pos, upper_of]
  split
  · exact ⟨lower.le, upper.le⟩
  · exact ⟨lower, upper⟩

/-! ## Grids -/

/-- The neighbours of the centre on a grid. -/
theorem floorAt_le (exponent : Int) :
    (i.floorAt exponent).value ≤ i.centre * 2 ^ i.unit ∧
      (i.centre : ℚ) * 2 ^ i.unit < (i.floorAt exponent).value + 10 ^ exponent := by
  obtain ⟨scale, pos, step, centre⟩ := scaled_eq ⟨1, exponent⟩ i.centre i.unit
  have ten : (0 : ℚ) < 10 ^ exponent := zpow_pos (by norm_num) exponent
  simp only [Decimal.value, Nat.cast_one, one_mul] at step
  have stepPos : 0 < (scaled ⟨1, exponent⟩ i.centre i.unit).1 := by
    rw [← Nat.cast_pos (α := ℚ), step]
    exact mul_pos ten pos
  simp only [Interval.floorAt, Decimal.value]
  generalize scaled ⟨1, exponent⟩ i.centre i.unit = pair at *
  obtain ⟨a, b⟩ := pair
  dsimp only at step centre stepPos ⊢
  have below : ((b / a : Nat) : ℚ) * a ≤ b := by exact_mod_cast Nat.div_mul_le_self b a
  have above : (b : ℚ) < ((b / a : Nat) + 1) * a := by
    exact_mod_cast (Nat.div_lt_iff_lt_mul stepPos).mp (Nat.lt_succ_self _)
  rw [step, centre, ← mul_assoc] at below above
  rw [← add_one_mul]
  exact ⟨le_of_mul_le_mul_right below pos, lt_of_mul_lt_mul_right above pos.le⟩

/-- A grid reaches the centre when one step does. -/
theorem reaches_iff (exponent : Int) :
    1 ≤ (i.floorAt exponent).digits ↔ (10 : ℚ) ^ exponent ≤ i.centre * 2 ^ i.unit := by
  have ten : (0 : ℚ) < 10 ^ exponent := zpow_pos (by norm_num) exponent
  obtain ⟨below, above⟩ := floorAt_le (i := i) exponent
  constructor
  · intro pos
    refine le_trans ?_ below
    have : (1 : ℚ) ≤ (i.floorAt exponent).digits := by exact_mod_cast pos
    exact le_mul_of_one_le_left ten.le this
  · intro reached
    have : (1 : ℚ) * 10 ^ exponent < ((i.floorAt exponent).digits + 1) * 10 ^ exponent := by
      rw [one_mul, add_one_mul]
      exact lt_of_le_of_lt reached above
    have : (1 : ℚ) < (i.floorAt exponent).digits + 1 := lt_of_mul_lt_mul_right this ten.le
    have : 1 < (i.floorAt exponent).digits + 1 := by exact_mod_cast this
    omega

/-- The estimate of the leading digit's exponent is never too large. -/
theorem ten_zpow_estimate_le {k : Int} (least : -1100 < k) (greatest : k < 1100) :
    (10 : ℚ) ^ (k * 30103 / 100000 - 1) ≤ 2 ^ k := by
  have up : ∀ n < 1100, 10 ^ (n * 30103 / 100000) ≤ 10 * 2 ^ n := by decide +kernel
  have down : ∀ n < 1100, 2 ^ n ≤ 10 ^ (n * 30103 / 100000 + 1) := by decide +kernel
  rcases Int.lt_or_le k 0 with negative | positive
  · obtain ⟨n, rfl⟩ : ∃ n : Nat, k = -(n : Int) := ⟨(-k).toNat, by omega⟩
    have : (2 : ℚ) ^ n ≤ 10 ^ (n * 30103 / 100000 + 1) := by exact_mod_cast down n (by omega)
    calc (10 : ℚ) ^ (-(n : Int) * 30103 / 100000 - 1)
        ≤ 10 ^ (-((n * 30103 / 100000 + 1 : Nat) : Int)) :=
          zpow_le_zpow_right₀ (by norm_num) (by omega)
      _ = (10 ^ (n * 30103 / 100000 + 1))⁻¹ := by rw [zpow_neg, zpow_natCast]
      _ ≤ (2 ^ n)⁻¹ := inv_anti₀ (by positivity) this
      _ = 2 ^ (-(n : Int)) := by rw [zpow_neg, zpow_natCast]
  · obtain ⟨n, rfl⟩ := Int.eq_ofNat_of_zero_le positive
    have : (10 : ℚ) ^ (n * 30103 / 100000) ≤ 10 * 2 ^ n := by exact_mod_cast up n (by omega)
    have exact : (n : Int) * 30103 / 100000 = ((n * 30103 / 100000 : Nat) : Int) := by omega
    rw [exact, zpow_sub₀ (by norm_num), zpow_one, div_le_iff₀ (by norm_num), zpow_natCast,
      zpow_natCast, mul_comm (2 ^ n)]
    exact this

/-- The leading digit of a number is not looked for above the number. -/
theorem ten_zpow_leading_le (fits : Fits m e) :
    (10 : ℚ) ^ (Interval.of m e).leading ≤ m * 2 ^ e := by
  rw [← centre_of]
  unfold Interval.leading
  dsimp only
  have estimated : (10 : ℚ) ^
      ((((Interval.of m e).centre.log2 : Int) + (Interval.of m e).unit) * 30103 / 100000 - 1) ≤
        (Interval.of m e).centre * 2 ^ (Interval.of m e).unit := by
    have nonzero : (Interval.of m e).centre ≠ 0 := by
      have := fits.pos
      simp only [Interval.of]
      omega
    have bits : (Interval.of m e).centre.log2 < 55 := by
      have := fits.below
      rw [Nat.log2_lt nonzero]
      rw [significandBound] at this
      change 4 * m < 2 ^ 55
      omega
    have least := fits.least
    have greatest := fits.greatest
    rw [leastExponent] at least
    rw [greatestExponent] at greatest
    have unit : (Interval.of m e).unit = e - 2 := rfl
    refine (ten_zpow_estimate_le (by omega) (by omega)).trans ?_
    rw [zpow_add₀ (by norm_num)]
    have := two_zpow_log2_le (Nat.pos_of_ne_zero nonzero)
    gcongr
  generalize (((Interval.of m e).centre.log2 : Int) + (Interval.of m e).unit) * 30103 / 100000 - 1 =
    estimate at *
  induction [3, 2, 1, (0 : Int)] with
  | nil => exact estimated
  | cons k more ih =>
    rw [List.foldr_cons]
    split
    · next reached => exact (reaches_iff _).mp (of_decide_eq_true reached)
    · exact ih

/-! ## Seventeen digits -/

theorem holds_of_onGrid? {exponent : Int} (found : i.onGrid? exponent = some d) :
    i.holds d = true := by
  unfold Interval.onGrid? at found
  dsimp only at found
  split at found
  · next below above =>
    split at found
    · cases found
      exact below
    · split at found
      · cases found
        exact above
      · cases found
        split
        · exact below
        · exact above
  · next below _ =>
    cases found
    exact below
  · next _ above =>
    cases found
    exact above
  · cases found

theorem isSome_onGrid? {exponent : Int} (either : i.holds (i.floorAt exponent) = true ∨
    i.holds ⟨(i.floorAt exponent).digits + 1, exponent⟩ = true) :
    (i.onGrid? exponent).isSome = true := by
  have sameExponent : (i.floorAt exponent).exponent = exponent := rfl
  unfold Interval.onGrid?
  dsimp only
  rw [sameExponent]
  split
  · split
    · rfl
    · split <;> rfl
  · rfl
  · rfl
  · next below above =>
    rw [below, above] at either
    simp at either

/-- The steps of the finest grid are smaller than the interval. -/
theorem step_lt (fits : Fits m e) (step : ℚ) (small : 10 ^ 16 * step ≤ m * 2 ^ e) :
    step < (gap m e + 1 / 2) * 2 ^ e := by
  have p := two_zpow_pos e
  unfold gap
  split
  · next power =>
    rw [power.1] at small
    push_cast at small
    linarith
  · have : (m : ℚ) < 2 ^ 53 := by exact_mod_cast fits.below
    have : (m : ℚ) * 2 ^ e < 2 ^ 53 * 2 ^ e := mul_lt_mul_of_pos_right this p
    linarith

/-- On the finest grid one of the neighbours of a number lies in its interval. -/
theorem isSome_finest (fits : Fits m e) :
    ((Interval.of m e).onGrid? ((Interval.of m e).leading - 16)).isSome = true := by
  have p := two_zpow_pos e
  have reached := ten_zpow_leading_le fits
  generalize (Interval.of m e).leading = leading at *
  have small := step_lt fits (10 ^ (leading - 16)) <| by
    rw [← zpow_natCast (10 : ℚ) 16, ← zpow_add₀ (by norm_num),
      show ((16 : Nat) : Int) + (leading - 16) = leading by omega]
    exact reached
  obtain ⟨below, above⟩ := floorAt_le (i := Interval.of m e) (leading - 16)
  rw [centre_of] at below above
  refine isSome_onGrid? ?_
  by_cases near : ((m : ℚ) - gap m e) * 2 ^ e < ((Interval.of m e).floorAt (leading - 16)).value
  · exact .inl (holds_of_lt fits.pos near (by linarith))
  · -- the lower neighbour lies below the interval, so one step more does not pass it
    have value : (Decimal.mk (((Interval.of m e).floorAt (leading - 16)).digits + 1)
        (leading - 16)).value =
          ((Interval.of m e).floorAt (leading - 16)).value + 10 ^ (leading - 16) := by
      simp only [Decimal.value, Interval.floorAt]
      push_cast
      ring
    have pos : 0 < gap m e := by
      unfold gap
      split <;> norm_num
    have : 0 < gap m e * 2 ^ e := mul_pos pos p
    refine .inr (holds_of_lt fits.pos ?_ ?_) <;> rw [value] <;> linarith

/-- The shortest decimal rounds to its number. -/
theorem roundsTo_shortest (fits : Fits m e) : RoundsTo m e (shortest m e).value := by
  refine roundsTo_of_holds fits.pos ?_
  unfold shortest Interval.shortest
  dsimp only
  cases found : (List.range 17).findSome? fun (k : Nat) =>
      (Interval.of m e).onGrid? ((Interval.of m e).leading - (k : Int)) with
  | some d =>
    obtain ⟨k, -, onGrid⟩ := List.exists_of_findSome?_eq_some found
    exact holds_of_onGrid? onGrid
  | none =>
    have missed := List.findSome?_eq_none_iff.mp found 16 (by decide)
    have fine := isSome_finest fits
    have sixteen : (Interval.of m e).leading - 16 =
        (Interval.of m e).leading - ((16 : Nat) : Int) := rfl
    rw [sixteen, missed] at fine
    cases fine

end SignedLink.Shortest
