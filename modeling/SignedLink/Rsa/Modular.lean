import SignedLink.Number.Power
/-!
# SignedLink — modular powers

Powers modulo a number by repeated squaring.

* `powMod_eq`: the result is the remainder of the power.
-/

namespace SignedLink.Rsa

/-- `base ^ exponent` modulo `n`, for an exponent of at most `bits` binary digits. -/
def powModBits (n : Nat) : (bits base exponent : Nat) → Nat
  | 0, _, _ => 1 % n
  | bits + 1, base, exponent =>
    let rest := powModBits n bits (base * base % n) (exponent / 2)
    if exponent % 2 = 1 then base * rest % n else rest

/-- `base ^ exponent` modulo `n`. -/
def powMod (base exponent n : Nat) : Nat :=
  powModBits n (exponent.log2 + 1) (base % n) exponent

/-! ## Correctness -/

/-- Squaring the base halves the exponent. -/
theorem powModBits_eq (n : Nat) {bits base exponent : Nat} (fits : exponent < 2 ^ bits) :
    powModBits n bits base exponent = base ^ exponent % n := by
  induction bits generalizing base exponent with
  | zero =>
    have : exponent = 0 := by simpa using fits
    simp [powModBits, this]
  | succ bits ih =>
    have half : exponent / 2 < 2 ^ bits := by
      rw [Nat.div_lt_iff_lt_mul (by decide), ← Nat.pow_succ]
      exact fits
    rw [powModBits, ih half, ← Nat.pow_mod, ← Nat.pow_two, ← Nat.pow_mul]
    have split := Nat.div_add_mod exponent 2
    by_cases odd : exponent % 2 = 1
    · rw [if_pos odd, Nat.mul_mod, Nat.mod_mod, ← Nat.mul_mod, ← Nat.pow_succ']
      rw [odd] at split
      rw [Nat.succ_eq_add_one, split]
    · rw [if_neg odd]
      have even : exponent % 2 = 0 := by omega
      rw [even, Nat.add_zero] at split
      rw [split]

/-- The result is the remainder of the power. -/
theorem powMod_eq (base exponent n : Nat) : powMod base exponent n = base ^ exponent % n := by
  rw [powMod, powModBits_eq n Nat.lt_log2_self, ← Nat.pow_mod]

end SignedLink.Rsa
