import Mathlib.Data.Nat.ChineseRemainder
import Mathlib.FieldTheory.Finite.Basic
import SignedLink.Proofs.Octets.Natural
import SignedLink.Rsa.Signature
/-!
# SignedLink — signatures verify

Raising to the private exponent and then to the public one changes nothing
modulo the modulus. Modulo each factor this is Fermat's little theorem, since
the product of the exponents is one modulo the number before the factor; the
factors are different primes, so it carries over to their product. Numbers
that share a factor with the modulus are covered: modulo that factor both sides
are zero. The private exponent may be any that fits, also one above the least
common multiple.

* `pow_mul_modEq`: the exponents of a consistent key undo each other.
* `toNat_encodedMessage_lt`: a filled-up message is below the modulus.
* `sign?_pow_publicExponent`: a signature raised to the public exponent is the message as it was
  filled up.
-/

namespace SignedLink.Rsa

/-! ## One factor -/

/-- An exponent that is one modulo `p - 1` changes nothing modulo the prime `p`. -/
theorem pow_modEq_self {p k : Nat} (prime : p.Prime) (positive : 0 < k)
    (one : k ≡ 1 [MOD p - 1]) (m : Nat) : m ^ k ≡ m [MOD p] := by
  by_cases divides : p ∣ m
  · -- both sides are zero, whatever the exponent
    have zero : m ≡ 0 [MOD p] := Nat.modEq_zero_iff_dvd.mpr divides
    exact ((zero.pow k).trans (by rw [Nat.zero_pow positive])).trans zero.symm
  · obtain ⟨j, equal⟩ : p - 1 ∣ k - 1 := (Nat.modEq_iff_dvd' positive).mp one.symm
    have coprime : m.Coprime p := (prime.coprime_iff_not_dvd.mpr divides).symm
    have fermat : m ^ (p - 1) ≡ 1 [MOD p] := by
      rw [← Nat.totient_prime prime]
      exact Nat.ModEq.pow_totient coprime
    have exponent : k = (p - 1) * j + 1 := by omega
    calc m ^ k = (m ^ (p - 1)) ^ j * m := by rw [exponent, Nat.pow_succ, Nat.pow_mul]
      _ ≡ 1 ^ j * m [MOD p] := (fermat.pow j).mul_right m
      _ = m := by rw [Nat.one_pow, Nat.one_mul]

/-! ## The modulus -/

namespace PrivateKey

variable {key : PrivateKey}

/-- The factors are different, since one of them has an inverse modulo the other. -/
theorem Consistent.factors_ne (consistent : key.Consistent) : key.p ≠ key.q := by
  obtain ⟨-, -, -, -, -, -, -, -, -, inverse⟩ := consistent
  intro same
  rw [← same, Nat.mul_mod_left] at inverse
  omega

/-- The product of the exponents is one modulo the number before either factor. -/
theorem Consistent.exponents_modEq_one (consistent : key.Consistent) :
    key.privateExponent * key.publicExponent ≡ 1 [MOD key.p - 1] ∧
      key.privateExponent * key.publicExponent ≡ 1 [MOD key.q - 1] := by
  obtain ⟨-, -, -, -, -, one, -⟩ := consistent
  have common : key.privateExponent * key.publicExponent ≡ 1
    [MOD Nat.lcm (key.p - 1) (key.q - 1)] := one
  exact ⟨common.of_dvd (Nat.dvd_lcm_left ..), common.of_dvd (Nat.dvd_lcm_right ..)⟩

/-- The private exponent is not zero: an odd prime leaves more than one class. -/
theorem Consistent.exponents_pos (consistent : key.Consistent) (prime : key.p.Prime) :
    0 < key.privateExponent * key.publicExponent := by
  have one := consistent.exponents_modEq_one.1
  obtain ⟨-, odd, -⟩ := consistent
  have two := prime.two_le
  rw [Nat.pos_iff_ne_zero]
  -- with the exponent zero, zero and one would be the same modulo `p - 1`, which is two or more
  intro zero
  rw [zero, Nat.ModEq, Nat.zero_mod, Nat.mod_eq_of_lt (by omega)] at one
  omega

/-- The exponents of a consistent key undo each other on every number. -/
theorem Consistent.pow_mul_modEq (consistent : key.Consistent) (primeP : key.p.Prime)
    (primeQ : key.q.Prime) (m : Nat) :
    m ^ (key.privateExponent * key.publicExponent) ≡ m [MOD key.modulus] := by
  have positive := consistent.exponents_pos primeP
  obtain ⟨oneP, oneQ⟩ := consistent.exponents_modEq_one
  have coprime : key.p.Coprime key.q :=
    (Nat.coprime_primes primeP primeQ).mpr consistent.factors_ne
  rw [consistent.1]
  exact (Nat.modEq_and_modEq_iff_modEq_mul coprime).mp
    ⟨pow_modEq_self primeP positive oneP m, pow_modEq_self primeQ positive oneQ m⟩

/-- The modulus needs all the octets of a signature. -/
theorem pow_size_le_modulus (nonempty : 0 < key.size) : 256 ^ (key.size - 1) ≤ key.modulus := by
  unfold size bits at nonempty ⊢
  split at nonempty
  · simp at nonempty
  · next nonzero =>
    rw [if_neg nonzero]
    have octets : (key.modulus.log2 + 1 + 7) / 8 - 1 = key.modulus.log2 / 8 := by omega
    calc 256 ^ ((key.modulus.log2 + 1 + 7) / 8 - 1) = 2 ^ (8 * (key.modulus.log2 / 8)) := by
          rw [octets, Nat.pow_mul]
      _ ≤ 2 ^ key.modulus.log2 := Nat.pow_le_pow_right (by decide) (Nat.mul_div_le ..)
      _ ≤ key.modulus := Nat.log2_self_le nonzero

end PrivateKey

/-! ## Signatures -/

/-- The filled-up message starts with a zero octet, so it is below the modulus. -/
theorem toNat_encodedMessage_lt {key : PrivateKey} (enough : leastSize ≤ key.size)
    (message : List UInt8) :
    Octets.toNat (encodedMessage key.size message) < key.modulus := by
  obtain ⟨rest, shape⟩ : ∃ rest, encodedMessage key.size message = 0x00 :: rest := ⟨_, rfl⟩
  have long := length_encodedMessage enough message
  rw [shape, List.length_cons] at long
  have modulus : 256 ^ (key.size - 1) ≤ key.modulus :=
    PrivateKey.pow_size_le_modulus (by omega)
  have value : Octets.toNat (0x00 :: rest) = Octets.toNat rest := by simp [Octets.toNat_cons]
  rw [← long, Nat.add_sub_cancel] at modulus
  rw [shape, value]
  exact (Octets.toNat_lt_pow_length rest).trans_le modulus

/-- A signature raised to the public exponent is the number of the filled-up message. -/
theorem sign?_pow_publicExponent {key : PrivateKey} {message signature : List UInt8}
    (consistent : key.Consistent) (primeP : key.p.Prime) (primeQ : key.q.Prime)
    (signed : sign? key message = some signature) :
    Octets.toNat signature ^ key.publicExponent % key.modulus =
      Octets.toNat (encodedMessage key.size message) := by
  unfold sign? at signed
  split at signed
  · simp at signed
  · next enough =>
    have below := toNat_encodedMessage_lt (Nat.le_of_not_lt enough) message
    rw [← Option.some.inj signed]
    -- from here on the filled-up message is any number below the modulus
    generalize Octets.toNat (encodedMessage key.size message) = m at below ⊢
    have fits : m ^ key.privateExponent % key.modulus < 256 ^ key.size :=
      (Nat.mod_lt _ (by omega)).trans key.lt_pow_size
    rw [powMod_eq, Octets.toNat_ofNat fits, ← Nat.pow_mod, ← Nat.pow_mul]
    exact Nat.mod_eq_of_modEq (consistent.pow_mul_modEq primeP primeQ m) below

/-- The octets of that number, as many as the modulus has, are the filled-up message. -/
theorem ofNat_toNat_encodedMessage {size : Nat} (enough : leastSize ≤ size)
    (message : List UInt8) :
    Octets.ofNat size (Octets.toNat (encodedMessage size message)) =
      encodedMessage size message := by
  have octets := Octets.ofNat_toNat (encodedMessage size message)
  rwa [length_encodedMessage enough] at octets

end SignedLink.Rsa
