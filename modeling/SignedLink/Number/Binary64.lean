import SignedLink.Number.Power
/-!
# SignedLink — binary floating point

Binary64 numbers by their exact value: a sign, a whole significand below 2^53
and a power of two. Every operation computes the exact rational result first
and rounds it once, to the nearest number and at a tie to the even
significand.

* `roundedQuotient_mul`: a quotient that is whole is not changed by rounding.
-/

namespace SignedLink

/-- A binary64 number. -/
inductive Binary64 where
  /-- not a number -/
  | nan
  | infinite (negative : Bool)
  /-- the sign with `significand * 2 ^ exponent` -/
  | finite (negative : Bool) (significand : Nat) (exponent : Int)
deriving DecidableEq

namespace Binary64

/-- The power of two of the subnormal numbers. -/
def leastExponent : Int := -1074

/-- The power of two of the largest numbers. -/
def greatestExponent : Int := 971

/-- The significands stay below this. -/
def significandBound : Nat := 2 ^ (53 : Nat)

def zero : Binary64 := .finite false 0 leastExponent

/-! ## Rounding -/

/-- The nearest whole number to `num / den`; halves go to the even neighbour. -/
def roundedQuotient (num den : Nat) : Nat :=
  let q := num / den
  let r := num % den
  if 2 * r < den then q
  else if den < 2 * r then q + 1
  else q + q % 2

/-- The quotient `num / den` in units of `2 ^ e`, as a fraction. -/
def inUnits (num den : Nat) (e : Int) : Nat × Nat :=
  if 0 ≤ e then (num, den * 2 ^ e.toNat) else (num * 2 ^ (-e).toNat, den)

/-- The power of two in whose units a positive `num / den` has a significand of 53 bits. -/
def unitExponent (num den : Nat) : Int :=
  let estimate : Int := (num.log2 : Int) - (den.log2 : Int) - 53
  let scaled := inUnits num den estimate
  let e := if scaled.1 / scaled.2 < significandBound then estimate else estimate + 1
  max e leastExponent

/-- The binary64 number nearest to `num / den`, with the given sign. -/
def ofRatio (negative : Bool) (num den : Nat) : Binary64 :=
  if num == 0 then .finite negative 0 leastExponent
  else
    let e := unitExponent num den
    let scaled := inUnits num den e
    let m := roundedQuotient scaled.1 scaled.2
    if m < significandBound then
      if greatestExponent < e then .infinite negative else .finite negative m e
    else if greatestExponent < e + 1 then .infinite negative
    else .finite negative (m / 2) (e + 1)

/-- The nearest number to a whole number. -/
def ofInt (n : Int) : Binary64 :=
  ofRatio (decide (n < 0)) n.natAbs 1

/-- The nearest number to `digits * 10 ^ exponent`; far beyond the range it needs no power of
ten. -/
def ofDecimal (negative : Bool) (digits : Nat) (exponent : Int) : Binary64 :=
  if digits == 0 then .finite negative 0 leastExponent
  else if 400 < exponent then .infinite negative
  else if exponent + (digits.log2 / 3 + 1 : Nat) < -400 then .finite negative 0 leastExponent
  else if 0 ≤ exponent then ofRatio negative (digits * 10 ^ exponent.toNat) 1
  else ofRatio negative digits (10 ^ (-exponent).toNat)

/-! ## The exact value -/

/-- The value of a finite number as a fraction with a positive denominator. -/
def fraction (negative : Bool) (significand : Nat) (exponent : Int) : Int × Nat :=
  let magnitude := inUnits significand 1 (-exponent)
  (if negative then -(magnitude.1 : Int) else magnitude.1, magnitude.2)

/-- The whole part, dropping what follows the point. -/
def truncate? : Binary64 → Option Int
  | .finite negative m e => some ((fraction negative m e).1.tdiv (fraction negative m e).2)
  | _ => none

/-- The value when it is whole. -/
def exactInt? : Binary64 → Option Int
  | .finite negative m e =>
    let f := fraction negative m e
    if f.1.tmod f.2 == 0 then some (f.1.tdiv f.2) else none
  | _ => none

/-- Whether there is a minus sign, which a zero may have too. -/
def isNegative : Binary64 → Bool
  | .nan => false
  | .infinite negative => negative
  | .finite negative _ _ => negative

def isZero : Binary64 → Bool
  | .finite _ m _ => m == 0
  | _ => false

/-- Whether the first is less than the second; nothing is less than or above what is no number. -/
def lt : Binary64 → Binary64 → Bool
  | .nan, _ => false
  | _, .nan => false
  | .infinite s, .infinite t => s && !t
  | .infinite s, .finite .. => s
  | .finite .., .infinite t => !t
  | .finite s m e, .finite t n f =>
    decide ((fraction s m e).1 * (fraction t n f).2 < (fraction t n f).1 * (fraction s m e).2)

/-- Whether the first is at most the second. -/
def le : Binary64 → Binary64 → Bool
  | .nan, _ => false
  | _, .nan => false
  | x, y => !lt y x

/-- Whether the number is less than the whole number, compared exactly. -/
def ltInt : Binary64 → Int → Bool
  | .nan, _ => false
  | .infinite s, _ => s
  | .finite s m e, n =>
    decide ((fraction s m e).1 < n * (fraction s m e).2)

/-- Whether the number is at most the whole number, compared exactly. -/
def leInt : Binary64 → Int → Bool
  | .nan, _ => false
  | .infinite s, _ => s
  | .finite s m e, n =>
    decide ((fraction s m e).1 ≤ n * (fraction s m e).2)

/-! ## Addition -/

/-- The nearest number to the sum; opposite infinities have none, and an exact zero is positive
unless both terms are negative zeros. -/
def add : Binary64 → Binary64 → Binary64
  | .nan, _ => .nan
  | _, .nan => .nan
  | .infinite s, .infinite t => if s == t then .infinite s else .nan
  | .infinite s, _ => .infinite s
  | _, .infinite t => .infinite t
  | .finite s m e, .finite t n f =>
    let x := fraction s m e
    let y := fraction t n f
    let sum := x.1 * y.2 + y.1 * x.2
    if sum == 0 then .finite (s && t) 0 leastExponent
    else ofRatio (decide (sum < 0)) sum.natAbs (x.2 * y.2)

/-! ## Multiplication -/

/-- The nearest number to the product; zero times an infinity has none. -/
def mul : Binary64 → Binary64 → Binary64
  | .nan, _ => .nan
  | _, .nan => .nan
  | .infinite s, y => if y.isZero then .nan else .infinite (s != y.isNegative)
  | x, .infinite t => if x.isZero then .nan else .infinite (x.isNegative != t)
  | .finite s m e, .finite t n f =>
    let product := inUnits (m * n) 1 (-(e + f))
    ofRatio (s != t) product.1 product.2

/-! ## Elementary facts -/

/-- A whole quotient is not changed by rounding. -/
theorem roundedQuotient_mul (q : Nat) {den : Nat} (positive : 0 < den) :
    roundedQuotient (q * den) den = q := by
  simp [roundedQuotient, Nat.mul_div_cancel _ positive, positive]

theorem truncate?_infinite (s : Bool) : truncate? (.infinite s) = none := rfl

end Binary64

end SignedLink
