import SignedLink.Number.Inverse
import SignedLink.Octets.Natural
/-!
# SignedLink — elliptic curves

Curves `y² = x³ + ax + b` over the integers modulo a prime, with the sum of
points by chord and tangent, multiples by doubling, and the octets in which a
point is handed over.
-/

namespace SignedLink

/-- A point of a curve. -/
inductive Point where
  /-- the neutral point, which has no coordinates -/
  | zero
  | affine (x y : Nat)
deriving DecidableEq

/-- A curve over a prime field with a point whose multiples are used. -/
structure Curve where
  prime : Nat
  a : Nat
  b : Nat
  baseX : Nat
  baseY : Nat
  /-- the number of multiples of the base point -/
  order : Nat
deriving DecidableEq

namespace Curve

/-- The point whose multiples are used. -/
def base (curve : Curve) : Point :=
  .affine curve.baseX curve.baseY

/-- The number modulo the prime. -/
def reduce (curve : Curve) (n : Int) : Nat :=
  (n % curve.prime).toNat

/-- The third point on the line through a point with a slope, mirrored; the second point has the
given abscissa. -/
def chord (curve : Curve) (x₁ y₁ x₂ slope : Nat) : Point :=
  let x := curve.reduce (slope * slope - x₁ - x₂)
  .affine x (curve.reduce (slope * ((x₁ : Int) - x) - y₁))

/-- The sum of two points. -/
def add (curve : Curve) : Point → Point → Point
  | .zero, p | p, .zero => p
  | .affine x₁ y₁, .affine x₂ y₂ =>
    let slope (rise : Int) (run : Int) :=
      curve.reduce (rise * Number.inverse (curve.reduce run) curve.prime)
    if x₁ = x₂ then
      if (y₁ + y₂) % curve.prime = 0 then .zero
      else curve.chord x₁ y₁ x₂ (slope (3 * x₁ * x₁ + curve.a) (2 * y₁))
    else curve.chord x₁ y₁ x₂ (slope ((y₂ : Int) - y₁) ((x₂ : Int) - x₁))

/-- The multiple of a point by a number of at most `bits` binary digits. -/
def multipleBits (curve : Curve) : (bits : Nat) → Point → (n : Nat) → Point
  | 0, _, _ => .zero
  | bits + 1, p, n =>
    let rest := curve.multipleBits bits (curve.add p p) (n / 2)
    if n % 2 = 1 then curve.add p rest else rest

/-- The multiple of a point. -/
def multiple (curve : Curve) (p : Point) (n : Nat) : Point :=
  curve.multipleBits (n.log2 + 1) p n

/-! ## Octets -/

/-- The octets of a coordinate. -/
def coordinateSize (curve : Curve) : Nat :=
  Octets.width (curve.prime - 1)

/-- The octets of a multiplier. -/
def scalarSize (curve : Curve) : Nat :=
  Octets.width curve.order

/-- The plain form of a point with coordinates: four, and both coordinates. -/
def plain (curve : Curve) (x y : Nat) : List UInt8 :=
  4 :: (Octets.ofNat curve.coordinateSize x ++ Octets.ofNat curve.coordinateSize y)

/-- The forms in which a point may be handed over. Two or three, and the abscissa; the plain form;
six or seven, and both coordinates. The neutral point has none. -/
def encodings (curve : Curve) : Point → List (List UInt8)
  | .zero => []
  | .affine x y =>
    let parity := UInt8.ofNat (y % 2)
    [(2 + parity) :: Octets.ofNat curve.coordinateSize x, curve.plain x y,
      (6 + parity) :: (curve.plain x y).drop 1]

/-- Whether a scalar is one of a private key: not zero and below the order. -/
def isPrivate (curve : Curve) (scalar : Nat) : Bool :=
  decide (0 < scalar) && decide (scalar < curve.order)

/-- Whether the octets are a form of the multiple of the base point. -/
def isPublicOf (curve : Curve) (scalar : Nat) (octets : List UInt8) : Bool :=
  (curve.encodings (curve.multiple curve.base scalar)).contains octets

end Curve

end SignedLink
