import Mathlib.Data.List.Induction
import Mathlib.Tactic.Ring
import SignedLink.Octets.Natural
/-!
# SignedLink — the value of a row of octets

Octets spell a number to the base 256. How the number of a row follows from
the numbers of its pieces, how large it can be, and that rows of one length
are told apart by their numbers.

* `toNat_append`: the number of two rows behind each other.
* `toNat_lt_pow_length`: a row spells less than the power of its length.
* `ofNat_toNat`: the octets of the number of a row are the row.
* `pow_width_le`: no number is given more octets than it needs.
-/

namespace SignedLink.Octets

theorem toNat_append (a b : List UInt8) : toNat (a ++ b) = toNat a * 256 ^ b.length + toNat b := by
  induction b using List.reverseRecOn with
  | nil => simp [toNat]
  | append_singleton b c ih =>
    rw [← List.append_assoc, toNat_append_singleton, ih, toNat_append_singleton, List.length_append,
      List.length_singleton, Nat.pow_succ]
    ring

theorem toNat_cons (c : UInt8) (rest : List UInt8) :
    toNat (c :: rest) = c.toNat * 256 ^ rest.length + toNat rest := by
  have single : toNat [c] = c.toNat := by simp [toNat]
  rw [← List.singleton_append, toNat_append, single]

theorem toNat_lt_pow_length (octets : List UInt8) : toNat octets < 256 ^ octets.length := by
  induction octets with
  | nil => simp [toNat]
  | cons c rest ih =>
    have small : c.toNat + 1 ≤ 256 := c.toNat_lt
    have scaled := Nat.mul_le_mul_right (256 ^ rest.length) small
    rw [toNat_cons, List.length_cons, Nat.pow_succ]
    rw [Nat.add_mul, Nat.one_mul] at scaled
    omega

theorem ofNat_toNat (octets : List UInt8) : ofNat octets.length (toNat octets) = octets := by
  induction octets using List.reverseRecOn with
  | nil => rfl
  | append_singleton rest c ih =>
    have small := c.toNat_lt
    have front : (256 * toNat rest + c.toNat) / 256 = toNat rest := by omega
    have last : (256 * toNat rest + c.toNat) % 256 = c.toNat := by omega
    rw [List.length_append, List.length_singleton, ofNat, toNat_append_singleton, front, last, ih,
      UInt8.ofNat_toNat]

/-- No number is given more octets than it needs. -/
theorem pow_width_le {n : Nat} (positive : 0 < n) : 256 ^ (width n - 1) ≤ n := by
  have nonzero : n ≠ 0 := by omega
  rw [width, if_neg nonzero, Nat.add_sub_cancel]
  calc 256 ^ (n.log2 / 8) = 2 ^ (8 * (n.log2 / 8)) := by rw [Nat.pow_mul]
    _ ≤ 2 ^ n.log2 := Nat.pow_le_pow_right (by decide) (Nat.mul_div_le ..)
    _ ≤ n := Nat.log2_self_le nonzero

end SignedLink.Octets
