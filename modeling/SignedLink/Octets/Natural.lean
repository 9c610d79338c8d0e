import SignedLink.Number.Power
/-!
# SignedLink — numbers as octets

Natural numbers as octets, the most significant first.

* `toNat_ofNat`: the octets of a number that fits read back as it.
* `length_ofNat`: there are as many as asked for.
-/

namespace SignedLink.Octets

/-- The number that the octets spell. -/
def toNat (octets : List UInt8) : Nat :=
  octets.foldl (fun n b => 256 * n + b.toNat) 0

/-- The last `width` octets of the number. -/
def ofNat : (width : Nat) → (n : Nat) → List UInt8
  | 0, _ => []
  | width + 1, n => ofNat width (n / 256) ++ [UInt8.ofNat (n % 256)]

/-- The number of octets that a number needs; zero needs none. -/
def width (n : Nat) : Nat :=
  if n = 0 then 0 else n.log2 / 8 + 1

/-! ## Elementary facts -/

theorem toNat_append_singleton (octets : List UInt8) (b : UInt8) :
    toNat (octets ++ [b]) = 256 * toNat octets + b.toNat := by
  simp [toNat]

@[simp] theorem length_ofNat (width n : Nat) : (ofNat width n).length = width := by
  induction width generalizing n with
  | zero => rfl
  | succ width ih => simp [ofNat, ih]

/-- The octets of a number that fits read back as it. -/
theorem toNat_ofNat {width n : Nat} (fits : n < 256 ^ width) : toNat (ofNat width n) = n := by
  induction width generalizing n with
  | zero => simp at fits; simp [fits, ofNat, toNat]
  | succ width ih =>
    have smaller : n / 256 < 256 ^ width := by
      rw [Nat.div_lt_iff_lt_mul (by decide)]
      simpa [Nat.pow_succ] using fits
    rw [ofNat, toNat_append_singleton, ih smaller, UInt8.toNat_ofNat', Nat.mod_mod]
    omega

/-- A number needs as many octets as it has digits to the base 256. -/
theorem lt_pow_width (n : Nat) : n < 256 ^ width n := by
  unfold width
  split
  · next zero => simp [zero]
  · calc n < 2 ^ (n.log2 + 1) := Nat.lt_log2_self
      _ ≤ 2 ^ (8 * (n.log2 / 8 + 1)) := Nat.pow_le_pow_right (by decide) (by omega)
      _ = 256 ^ (n.log2 / 8 + 1) := by rw [Nat.pow_mul]

end SignedLink.Octets
