/-!
# SignedLink — inverses modulo a number

The algorithm of Euclid keeps two remainders, each of which is a known multiple
of the number up to the modulus. The last remainder that is not zero is the
greatest common divisor, so for coprime numbers its multiplier is the inverse.
-/

namespace SignedLink.Number

/-- The multiplier of the last remainder that is not zero. Each remainder stands before its
multiplier. -/
def lastMultiplier (r : Nat) (t : Int) (s : Nat) (u : Int) : Int :=
  if s = 0 then t else lastMultiplier s u (r % s) (t - (r / s : Nat) * u)
termination_by s
decreasing_by exact Nat.mod_lt _ (by omega)

/-- The inverse of a number modulo another. -/
def inverse (a n : Nat) : Nat :=
  (lastMultiplier n 0 (a % n) 1 % n).toNat

end SignedLink.Number
