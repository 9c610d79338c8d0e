import SignedLink.Number.Shortest
/-!
# SignedLink — decimals with a fixed number of digits

The text of a number with a given number of places after the point, or with a
given number of significant digits. The exact value is rounded once, to the
nearest decimal of that many digits and at a tie to the even one. Signs are
left to the caller.
-/

namespace SignedLink.Fixed

/-- How the digits are laid out. -/
inductive Shape where
  /-- all digits before the point, a given number behind it -/
  | positional
  /-- one digit before the point, a given number behind it, and an exponent -/
  | scientific
  /-- a given number of significant digits, in the shorter of the two layouts -/
  | general
deriving DecidableEq

/-- A point and the digits behind it; a lone point is written only if it is kept. -/
def places (keepPoint : Bool) (digits : List Char) : List Char :=
  if digits.isEmpty && !keepPoint then [] else '.' :: digits

/-- The fraction with this many places. -/
def positionalText (keepPoint : Bool) (count num den : Nat) : List Char :=
  let digits := Text.decimalPadded (count + 1)
    (Binary64.roundedQuotient (num * 10 ^ count) den)
  digits.take (digits.length - count) ++ places keepPoint (digits.drop (digits.length - count))

/-- The power of ten at the first digit of a positive fraction. -/
def leadingExponent (num den : Nat) : Int :=
  let estimate : Int :=
    ((Nat.toDigits 10 num).length : Int) - ((Nat.toDigits 10 den).length : Int)
  let reached :=
    if 0 ≤ estimate then decide (den * 10 ^ estimate.toNat ≤ num)
    else decide (den ≤ num * 10 ^ (-estimate).toNat)
  if reached then estimate else estimate - 1

/-- The first digits of a fraction, one and this many more, and the power of ten at the first. -/
def leading (count num den : Nat) : Nat × Int :=
  if num == 0 then (0, 0)
  else
    let e := leadingExponent num den
    let shift := (count : Int) - e
    let n :=
      if 0 ≤ shift then Binary64.roundedQuotient (num * 10 ^ shift.toNat) den
      else Binary64.roundedQuotient num (den * 10 ^ (-shift).toNat)
    if n < 10 ^ (count + 1) then (n, e) else (n / 10, e + 1)

/-- An exponent with its sign and at least two digits. -/
def exponentText (e : Int) : List Char :=
  'e' :: (if 0 ≤ e then '+' else '-') :: Text.decimalPadded 2 e.natAbs

/-- Digits without the zeros at their end. -/
def withoutZeros (digits : List Char) : List Char :=
  (digits.reverse.dropWhile (· == '0')).reverse

/-- The fraction with one digit before the point and this many behind it. -/
def scientificText (keepPoint : Bool) (count num den : Nat) : List Char :=
  let (n, e) := leading count num den
  let digits := Text.decimalPadded (count + 1) n
  digits.take 1 ++ places keepPoint (digits.drop 1) ++ exponentText e

/-- The fraction with this many significant digits: positional when its first digit stands at or
behind the fourth place and before the last significant one. Zeros at the end are kept with the
point only. -/
def generalText (keepPoint : Bool) (count num den : Nat) : List Char :=
  let count := max count 1
  let (n, e) := leading (count - 1) num den
  let digits := Text.decimalPadded count n
  let shorten (ds : List Char) := if keepPoint then ds else withoutZeros ds
  if -4 ≤ e ∧ e < count then
    if e < 0 then '0' :: places keepPoint (shorten (List.replicate (-e - 1).toNat '0' ++ digits))
    else
      digits.take (e.toNat + 1) ++ places keepPoint (shorten (digits.drop (e.toNat + 1)))
  else digits.take 1 ++ places keepPoint (shorten (digits.drop 1)) ++ exponentText e

/-- The text of a fraction. -/
def Shape.text (shape : Shape) (keepPoint : Bool) (count num den : Nat) : List Char :=
  match shape with
  | .positional => positionalText keepPoint count num den
  | .scientific => scientificText keepPoint count num den
  | .general => generalText keepPoint count num den

/-- The text of a number without its sign. -/
def Shape.magnitude (shape : Shape) (keepPoint : Bool) (count : Nat) : Binary64 → List Char
  | .nan => "nan".toList
  | .infinite _ => "inf".toList
  | .finite _ m e =>
    let value := Binary64.fraction false m e
    shape.text keepPoint count value.1.toNat value.2

end SignedLink.Fixed
