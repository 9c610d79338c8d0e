import SignedLink.Rsa.Primality
/-!
# SignedLink — RSA keys

A private key with the numbers for the factors' shortcut, and the consistency
that a loaded key has been checked for.

* `PrivateKey.consistent_of_isAcceptable`: accepted numbers fit together.
* `PrivateKey.lt_pow_size`: the modulus fits into the octets of a signature.
-/

namespace SignedLink.Rsa

/-- The numbers of a private key. -/
structure PrivateKey where
  modulus : Nat
  publicExponent : Nat
  privateExponent : Nat
  p : Nat
  q : Nat
  /-- the private exponent modulo `p - 1` -/
  exponentP : Nat
  /-- the private exponent modulo `q - 1` -/
  exponentQ : Nat
  /-- the inverse of `q` modulo `p` -/
  coefficient : Nat
deriving DecidableEq

namespace PrivateKey

/-- The number of binary digits of the modulus. -/
def bits (key : PrivateKey) : Nat :=
  if key.modulus = 0 then 0 else key.modulus.log2 + 1

/-- The number of octets of the modulus, and of a signature. -/
def size (key : PrivateKey) : Nat :=
  (key.bits + 7) / 8

/-- The relations among the numbers, primality of the factors apart. -/
def Consistent (key : PrivateKey) : Prop :=
  key.modulus = key.p * key.q ∧ key.p % 2 = 1 ∧ key.q % 2 = 1 ∧
  key.publicExponent % 2 = 1 ∧ 1 < key.publicExponent ∧
  key.privateExponent * key.publicExponent % Nat.lcm (key.p - 1) (key.q - 1) =
    1 % Nat.lcm (key.p - 1) (key.q - 1) ∧
  key.exponentP = key.privateExponent % (key.p - 1) ∧
  key.exponentQ = key.privateExponent % (key.q - 1) ∧
  key.coefficient < key.p ∧ key.coefficient * key.q % key.p = 1

instance (key : PrivateKey) : Decidable key.Consistent := by
  unfold Consistent
  infer_instance

/-- Whether a loader accepts the numbers. -/
def isAcceptable (key : PrivateKey) : Bool :=
  decide key.Consistent && isProbablePrime key.p && isProbablePrime key.q

/-! ## Elementary facts -/

theorem consistent_of_isAcceptable {key : PrivateKey} (h : key.isAcceptable = true) :
    key.Consistent := by
  simp [isAcceptable] at h
  exact h.1.1

/-- Only zero has no octets. -/
theorem lt_pow_size (key : PrivateKey) : key.modulus < 256 ^ key.size := by
  unfold size bits
  split
  · next zero => simp [zero]
  · calc key.modulus < 2 ^ (key.modulus.log2 + 1) := Nat.lt_log2_self
      _ ≤ 2 ^ (8 * ((key.modulus.log2 + 1 + 7) / 8)) := Nat.pow_le_pow_right (by decide) (by omega)
      _ = 256 ^ ((key.modulus.log2 + 1 + 7) / 8) := by rw [Nat.pow_mul]

end PrivateKey

end SignedLink.Rsa
