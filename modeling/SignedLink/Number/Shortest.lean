import SignedLink.Number.Binary64
import SignedLink.Text.Hex
/-!
# SignedLink — shortest decimals

The decimal text of a binary64 number: the fewest digits that read back as the
number, and of several such decimals the one nearest to it. Grids of 1, 2, …
17 digits are tried in turn; on each only the two neighbours of the number can
be nearest, and exact arithmetic tells which of them round to the number.

How the digits are laid out is a matter of the format and held in one record,
`Layout`.
-/

namespace SignedLink.Shortest

/-- A decimal `digits * 10 ^ exponent`. -/
structure Decimal where
  digits : Nat
  exponent : Int
deriving DecidableEq

/-- The reals that round to a number, in units of a quarter of its last place: the number itself
is `4 * significand` units, and the bounds belong to the interval when `closed`. -/
structure Interval where
  lower : Nat
  centre : Nat
  upper : Nat
  closed : Bool
  /-- the power of two of a unit -/
  unit : Int

/-- The interval of `significand * 2 ^ exponent`. Below a power of two the spacing is halved. -/
def Interval.of (significand : Nat) (exponent : Int) : Interval :=
  let atPower := significand == 2 ^ (52 : Nat) && decide (Binary64.leastExponent < exponent)
  { lower := 4 * significand - (if atPower then 1 else 2)
    centre := 4 * significand
    upper := 4 * significand + 2
    closed := significand % 2 == 0
    unit := exponent - 2 }

/-- Compares `digits * 10 ^ exponent` with `units` units, as two whole numbers over one scale. -/
def scaled (d : Decimal) (units : Nat) (unit : Int) : Nat × Nat :=
  let ten (e : Int) := if 0 ≤ e then 10 ^ e.toNat else 1
  let two (e : Int) := if 0 ≤ e then 2 ^ e.toNat else 1
  (d.digits * ten d.exponent * two (-unit), units * two unit * ten (-d.exponent))

/-- Whether the decimal lies in the interval. -/
def Interval.holds (i : Interval) (d : Decimal) : Bool :=
  let (x, lower) := scaled d i.lower i.unit
  let (y, upper) := scaled d i.upper i.unit
  if i.closed then decide (lower ≤ x) && decide (y ≤ upper)
  else decide (lower < x) && decide (y < upper)

/-- The distance of the decimal from the centre, in a scale that depends on its exponent only. -/
def Interval.distance (i : Interval) (d : Decimal) : Nat :=
  let (x, centre) := scaled d i.centre i.unit
  if x ≤ centre then centre - x else x - centre

/-- The largest multiple of `10 ^ exponent` that is at most the centre. -/
def Interval.floorAt (i : Interval) (exponent : Int) : Decimal :=
  let (step, centre) := scaled ⟨1, exponent⟩ i.centre i.unit
  ⟨centre / step, exponent⟩

/-- The exponent of the leading decimal digit of the centre. -/
def Interval.leading (i : Interval) : Int :=
  let estimate := ((i.centre.log2 : Int) + i.unit) * 30103 / 100000 - 1
  let reaches (e : Int) := decide (1 ≤ (i.floorAt e).digits)
  [3, 2, 1, 0].foldr (fun k found => if reaches (estimate + k) then estimate + k else found)
    estimate

/-- The nearer of the two neighbours of the centre on a grid that lie in the interval; of two
equally near the even one. -/
def Interval.onGrid? (i : Interval) (exponent : Int) : Option Decimal :=
  let below := i.floorAt exponent
  let above := { below with digits := below.digits + 1 }
  match i.holds below, i.holds above with
  | true, true =>
    let a := i.distance below
    let b := i.distance above
    if a < b then some below
    else if b < a then some above
    else some (if below.digits % 2 == 0 then below else above)
  | true, false => some below
  | false, true => some above
  | false, false => none

/-- The first grid with a decimal in the interval, from one digit on. -/
def Interval.shortest (i : Interval) : Decimal :=
  let leading := i.leading
  ((List.range 17).findSome? fun (k : Nat) => i.onGrid? (leading - (k : Int))).getD
    (i.floorAt (leading - 16))

/-- The shortest decimal of a positive number. -/
def shortest (significand : Nat) (exponent : Int) : Decimal :=
  (Interval.of significand exponent).shortest

/-! ## Layout -/

/-- How a decimal is written. -/
structure Layout where
  /-- the least position of the point (counted from before the first digit) written positionally -/
  leastPoint : Int
  /-- the greatest such position -/
  greatestPoint : Int
  /-- the least number of digits of an exponent -/
  exponentWidth : Nat
  notANumber : String
  infinity : String

/-- Numbers from 0.0001 on and below 10^16 are positional and keep `.0`; exponents have a sign
and at least two digits. -/
def plain : Layout := ⟨-3, 16, 2, "nan", "inf"⟩

/-- The same with the words of structured data. -/
def data : Layout := ⟨-3, 16, 2, "NaN", "Infinity"⟩

/-- The digits without trailing zeros, which a shortest decimal may have on a coarse grid. -/
def significantDigits (n : Nat) : List Char :=
  ((Nat.toDigits 10 n).reverse.dropWhile (· == '0')).reverse

/-- Lays out `0.d₁d₂… * 10 ^ point`. -/
def Layout.place (l : Layout) (digits : List Char) (point : Int) : List Char :=
  if l.leastPoint ≤ point ∧ point ≤ l.greatestPoint then
    if point ≤ 0 then "0.".toList ++ List.replicate (-point).toNat '0' ++ digits
    else
      let whole := digits.take point.toNat ++ List.replicate (point.toNat - digits.length) '0'
      let rest := digits.drop point.toNat
      whole ++ '.' :: (if rest.isEmpty then ['0'] else rest)
  else
    let e := point - 1
    let mantissa :=
      match digits with
      | d :: rest => if rest.isEmpty then [d] else d :: '.' :: rest
      | [] => []
    mantissa ++ 'e' :: (if 0 ≤ e then '+' else '-') :: Text.decimalPadded l.exponentWidth e.natAbs

/-- The text of a number. -/
def Layout.text (l : Layout) : Binary64 → List Char
  | .nan => l.notANumber.toList
  | .infinite negative => (if negative then ['-'] else []) ++ l.infinity.toList
  | .finite negative m e =>
    let sign := if negative then ['-'] else []
    if m == 0 then sign ++ "0.0".toList
    else
      let d := shortest m e
      let all := Nat.toDigits 10 d.digits
      sign ++ l.place (significantDigits d.digits) (d.exponent + all.length)

end SignedLink.Shortest
