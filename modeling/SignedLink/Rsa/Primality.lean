import SignedLink.Octets.Sha1
import SignedLink.Rsa.Modular
/-!
# SignedLink — primality

The factors of a key are tested by the strong test of Miller and Rabin. A prime
passes to every base. Numbers of a word are decided by the first twelve prime
bases. A larger number that is not prime may have been made to pass those, so
it is tested to bases that are drawn from its own octets as well.

* `twosAndRest_mul`: the split of `n - 1` that the test uses loses nothing.
-/

namespace SignedLink.Rsa

/-- The first bases of the test. -/
def primeBases : List Nat :=
  [2, 3, 5, 7, 11, 13, 17, 19, 23, 29, 31, 37]

/-- The number of bases that are drawn from a number. -/
def drawnCount : Nat := 8

/-- The bases that are drawn from a number: hashes of its octets and a counter. -/
def drawnBases (n : Nat) : List Nat :=
  let octets := Octets.ofNat (Octets.width n) n
  (List.range drawnCount).map fun i => Octets.toNat (Sha1.hash (UInt8.ofNat i :: octets))

/-- Takes factors of two out of `n`, at most as many as the allowance: their number and the rest. -/
def twosAndRest : (allowance n : Nat) → Nat × Nat
  | 0, n => (0, n)
  | allowance + 1, n =>
    if n % 2 = 0 then
      let r := twosAndRest allowance (n / 2)
      (r.1 + 1, r.2)
    else (0, n)

/-- Whether `x`, `x²`, `x⁴`, … reaches `n - 1` within `count` terms. -/
def reachesMinusOne (n : Nat) : (count x : Nat) → Bool
  | 0, _ => false
  | count + 1, x => x == n - 1 || reachesMinusOne n count (x * x % n)

/-- The strong test to one base; a multiple of `n` is no base and passes. -/
def passesBase (n base : Nat) : Bool :=
  let split := twosAndRest (n - 1).log2 (n - 1)
  let x := powMod base split.2 n
  base % n == 0 || x == 1 || reachesMinusOne n split.1 x

/-- Whether the number passes the test to every base. -/
def isProbablePrime (n : Nat) : Bool :=
  decide (2 ≤ n) && primeBases.all (passesBase n) &&
    (decide (n < 0x10000000000000000) || (drawnBases n).all (passesBase n))

/-! ## Elementary facts -/

/-- Taking out factors of two loses nothing. -/
theorem twosAndRest_mul (allowance n : Nat) :
    2 ^ (twosAndRest allowance n).1 * (twosAndRest allowance n).2 = n := by
  induction allowance generalizing n with
  | zero => simp [twosAndRest]
  | succ allowance ih =>
    unfold twosAndRest
    split
    · next even =>
      dsimp only
      rw [Nat.pow_succ, Nat.mul_right_comm, ih]
      omega
    · simp

end SignedLink.Rsa
