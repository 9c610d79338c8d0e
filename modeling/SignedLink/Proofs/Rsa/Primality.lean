import Mathlib.FieldTheory.Finite.Basic
import Mathlib.NumberTheory.LucasLehmer
import SignedLink.Rsa.Key
/-!
# SignedLink — primes pass the test

No prime is turned away by the test of Miller and Rabin, to whatever base. By
Fermat's little theorem a power of a base is one, and the test comes to it by
squaring; modulo a prime only one and minus one have the square one, so
before the first one there is a minus one or nothing.

* `passesBase_of_prime`: a prime passes to every base.
* `isAcceptable_iff`: with prime factors the loader looks at the relations only.
* `mersenneKey`: a key whose factors are proved prime.
-/

namespace SignedLink.Rsa

/-- Modulo a prime only one and minus one have the square one. -/
theorem eq_one_or_of_mul_self_mod {n x : Nat} (prime : n.Prime) (small : x < n)
    (square : x * x % n = 1) : x = 1 ∨ x = n - 1 := by
  have two := prime.two_le
  have positive : 1 ≤ x := by
    rw [Nat.one_le_iff_ne_zero]
    rintro rfl
    simp at square
  have modEq : 1 ≡ x * x [MOD n] := by
    rw [Nat.ModEq, square, Nat.mod_eq_of_lt (by omega)]
  have divides : n ∣ (x + 1) * (x - 1) := by
    have difference := (Nat.modEq_iff_dvd' (Nat.mul_le_mul positive positive)).mp modEq
    rwa [Nat.mul_self_sub_mul_self_eq] at difference
  rcases prime.dvd_mul.mp divides with above | below
  · have := Nat.le_of_dvd (by omega) above
    exact .inr (by omega)
  · by_cases one : x = 1
    · exact .inl one
    · have := Nat.le_of_dvd (by omega) below
      omega

/-- A number that becomes one by squaring is one, or minus one is met on the way. -/
theorem reachesMinusOne_of_pow {n : Nat} (prime : n.Prime) {count x : Nat} (small : x < n)
    (one : x ^ 2 ^ count % n = 1) : x = 1 ∨ reachesMinusOne n count x = true := by
  have two := prime.two_le
  -- on the squarings that are left
  induction count generalizing x with
  | zero =>
    rw [Nat.pow_zero, Nat.pow_one, Nat.mod_eq_of_lt small] at one
    exact .inl one
  | succ count ih =>
    have squared : (x * x % n) ^ 2 ^ count % n = 1 := by
      rw [← Nat.pow_mod, ← Nat.pow_two, ← Nat.pow_mul, ← Nat.pow_succ']
      exact one
    simp only [reachesMinusOne, Bool.or_eq_true, beq_iff_eq]
    rcases ih (Nat.mod_lt _ (by omega)) squared with first | later
    · rcases eq_one_or_of_mul_self_mod prime small first with one | minusOne
      · exact .inl one
      · exact .inr (.inl minusOne)
    · exact .inr (.inr later)

theorem passesBase_of_prime {n : Nat} (prime : n.Prime) (base : Nat) :
    passesBase n base = true := by
  have two := prime.two_le
  unfold passesBase
  by_cases multiple : base % n = 0
  · simp [multiple]
  · have coprime : base.Coprime n :=
      (prime.coprime_iff_not_dvd.mpr fun divides => multiple (Nat.mod_eq_zero_of_dvd divides)).symm
    have fermat : base ^ (n - 1) % n = 1 := by
      have power := Nat.ModEq.pow_totient coprime
      rw [Nat.totient_prime prime, Nat.ModEq, Nat.mod_eq_of_lt (a := 1) (by omega)] at power
      exact power
    -- the exponent is split into an odd number and squarings
    have squared : (base ^ (twosAndRest (n - 1).log2 (n - 1)).2 % n) ^
        2 ^ (twosAndRest (n - 1).log2 (n - 1)).1 % n = 1 := by
      rw [← Nat.pow_mod, ← Nat.pow_mul, Nat.mul_comm, twosAndRest_mul]
      exact fermat
    have reached := reachesMinusOne_of_pow prime (Nat.mod_lt _ (by omega)) squared
    simp only [powMod_eq, Bool.or_eq_true, beq_iff_eq]
    rcases reached with one | minusOne
    · exact .inl (.inr one)
    · exact .inr minusOne

/-- A prime passes the whole test. -/
theorem isProbablePrime_of_prime {n : Nat} (prime : n.Prime) : isProbablePrime n = true := by
  have bases (list : List Nat) : list.all (passesBase n) = true :=
    List.all_eq_true.mpr fun base _ => passesBase_of_prime prime base
  simp [isProbablePrime, bases, prime.two_le]

/-- With prime factors the loader looks at the relations among the numbers only. -/
theorem PrivateKey.isAcceptable_iff {key : PrivateKey} (primeP : key.p.Prime)
    (primeQ : key.q.Prime) : key.isAcceptable = true ↔ key.Consistent := by
  simp [isAcceptable, isProbablePrime_of_prime primeP, isProbablePrime_of_prime primeQ]

/-! ## Keys from factors -/

namespace PrivateKey

/-- The key of two factors. The private exponent is found with the multiple `k` of the least common
multiple that is one below a multiple of the public exponent. -/
def ofFactors (p q publicExponent k coefficient : Nat) : PrivateKey :=
  let privateExponent := (1 + k * Nat.lcm (p - 1) (q - 1)) / publicExponent
  { modulus := p * q, publicExponent, privateExponent, p, q, exponentP := privateExponent % (p - 1),
    exponentQ := privateExponent % (q - 1), coefficient }

/-- A key of two Mersenne primes. -/
def mersenneKey : PrivateKey :=
  ofFactors (mersenne 127) (mersenne 521) 65537 65280 145859039221024898696118696947007470445

theorem prime_mersenne_127 : (mersenne 127).Prime :=
  lucas_lehmer_sufficiency _ (by decide) (by norm_num)

theorem prime_mersenne_521 : (mersenne 521).Prime :=
  lucas_lehmer_sufficiency _ (by decide)
    (LucasLehmer.norm_num_ext.testTrueHelper 521 (by decide) (by decide +kernel))

theorem prime_mersenneKey : mersenneKey.p.Prime ∧ mersenneKey.q.Prime :=
  ⟨prime_mersenne_127, prime_mersenne_521⟩

theorem mersenneKey_isAcceptable : mersenneKey.isAcceptable = true := by
  have consistent : mersenneKey.Consistent := by decide +kernel
  exact (isAcceptable_iff prime_mersenneKey.1 prime_mersenneKey.2).mpr consistent

theorem size_mersenneKey : mersenneKey.size = 81 := by
  decide +kernel

/-- A key of another Mersenne prime and one of these two, with a shorter modulus. -/
def shorterKey : PrivateKey :=
  ofFactors (mersenne 107) (mersenne 521) 65537 2835 151780712775907635596406824614877

theorem prime_mersenne_107 : (mersenne 107).Prime :=
  lucas_lehmer_sufficiency _ (by decide) (by norm_num)

theorem prime_shorterKey : shorterKey.p.Prime ∧ shorterKey.q.Prime :=
  ⟨prime_mersenne_107, prime_mersenne_521⟩

theorem shorterKey_isAcceptable : shorterKey.isAcceptable = true := by
  have consistent : shorterKey.Consistent := by decide +kernel
  exact (isAcceptable_iff prime_shorterKey.1 prime_shorterKey.2).mpr consistent

theorem size_shorterKey : shorterKey.size = 79 := by
  decide +kernel

/-- A key of a Mersenne prime and of the even prime, with numbers that fit together otherwise. -/
def evenKey : PrivateKey :=
  ofFactors 2 (mersenne 127) 65537 43692 1

end PrivateKey

end SignedLink.Rsa
