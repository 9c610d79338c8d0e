import SignedLink.Text.CodePoint
/-!
# SignedLink — UTF-16 and UTF-32

Texts in units of two or four octets, in either order of octets. In UTF-16 a
pair of halves makes one character, and a half that stands alone is a code point
of its own, for those who admit it. Units that are cut off, and values that are
no code point, are refused.
-/

namespace SignedLink.Text.Wide

/-- The order of the octets of a unit. -/
inductive Order where
  /-- the most significant octet first -/
  | big
  | little
deriving DecidableEq

/-- The value of a unit. -/
def unit (order : Order) (octets : List UInt8) : Nat :=
  (if order = .big then octets else octets.reverse).foldl (fun n b => 256 * n + b.toNat) 0

/-- The units of two octets. -/
def units16 (order : Order) : List UInt8 → Option (List Nat)
  | a :: b :: rest => (units16 order rest).map (unit order [a, b] :: ·)
  | [] => some []
  | [_] => none

/-- The units of four octets. -/
def units32 (order : Order) : List UInt8 → Option (List Nat)
  | a :: b :: c :: d :: rest => (units32 order rest).map (unit order [a, b, c, d] :: ·)
  | [] => some []
  | _ => none

/-- Whether the unit is the first of a surrogate pair. -/
def isHigh (n : Nat) : Bool :=
  decide (0xD800 ≤ n) && decide (n < 0xDC00)

/-- Whether the unit is the second of a surrogate pair. -/
def isLow (n : Nat) : Bool :=
  decide (0xDC00 ≤ n) && decide (n < 0xE000)

/-- The character of the two halves of a surrogate pair. -/
def joined (high low : Nat) : Char :=
  Char.ofNat (0x10000 + (high - 0xD800) * 0x400 + (low - 0xDC00))

/-- The code points of 16-bit units. -/
def points16 : List Nat → List CodePoint
  | high :: low :: rest =>
    if isHigh high && isLow low then .scalar (joined high low) :: points16 rest
    else .ofNat high :: points16 (low :: rest)
  | [n] => [.ofNat n]
  | [] => []

def decode16 (order : Order) (octets : List UInt8) : Option (List CodePoint) :=
  (units16 order octets).map points16

def decode32 (order : Order) (octets : List UInt8) : Option (List CodePoint) :=
  (units32 order octets).bind fun units =>
    if units.all (· < 0x110000) then some (units.map .ofNat) else none

/-! ## Halves that stand alone -/

/-- Why a half stands alone. -/
inductive HalfFlaw where
  /-- the second half of a pair without a first -/
  | secondAlone
  /-- the first half of a pair in front of something else -/
  | unfollowed
  /-- the first half of a pair at the end -/
  | atEnd
deriving DecidableEq

/-- The words for a flaw. -/
def HalfFlaw.words : HalfFlaw → String
  | .secondAlone => "illegal encoding"
  | .unfollowed => "illegal UTF-16 surrogate"
  | .atEnd => "unexpected end of data"

/-- The first half among units that stands alone, with the positions of the first and the last octet
that are looked at; the octets up to `total` may hold half a unit more than the units. -/
def halfFlaw? (total : Nat) : (position : Nat) → List Nat → Option (HalfFlaw × Nat × Nat)
  | position, high :: low :: rest =>
    if isLow high then some (.secondAlone, position, position + 1)
    else if !isHigh high then halfFlaw? total (position + 2) (low :: rest)
    else if isLow low then halfFlaw? total (position + 4) rest
    else some (.unfollowed, position, position + 1)
  | position, [n] =>
    if isLow n then some (.secondAlone, position, position + 1)
    else if isHigh n then some (.atEnd, position, total - 1)
    else none
  | _, [] => none

end SignedLink.Text.Wide
