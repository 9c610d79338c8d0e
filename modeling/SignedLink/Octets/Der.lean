import SignedLink.Octets.Natural
/-!
# SignedLink — DER elements

The distinguished encoding of a tree of elements: each element is a tag, the
length of its contents in the fewest octets, and the contents. Writing and
reading stand side by side; reading accepts exactly the minimal form.
-/

namespace SignedLink.Der

/-- Tags of the elements that occur in keys. -/
def integerTag : UInt8 := 0x02
def bitStringTag : UInt8 := 0x03
def octetStringTag : UInt8 := 0x04
def nullTag : UInt8 := 0x05
def identifierTag : UInt8 := 0x06
def sequenceTag : UInt8 := 0x30
def setTag : UInt8 := 0x31

/-- The tag of a constructed element by position. -/
def positionTag (n : Nat) : UInt8 := UInt8.ofNat (0xA0 + n)

/-! ## Writing -/

/-- A length: one octet below 128, else the number of octets and the octets. -/
def length (n : Nat) : List UInt8 :=
  if n < 128 then [UInt8.ofNat n]
  else UInt8.ofNat (128 + Octets.width n) :: Octets.ofNat (Octets.width n) n

/-- An element. -/
def element (tag : UInt8) (contents : List UInt8) : List UInt8 :=
  tag :: (length contents.length ++ contents)

/-- The contents of a natural number: its octets, with a zero in front when the first one would
read as a sign. -/
def naturalContents (n : Nat) : List UInt8 :=
  let octets := Octets.ofNat (Octets.width n) n
  match octets with
  | [] => [0]
  | b :: _ => if b < 128 then octets else 0 :: octets

/-- A natural number. -/
def natural (n : Nat) : List UInt8 :=
  element integerTag (naturalContents n)

/-! ## Reading -/

/-- The most octets that a length may take after its first. -/
def lengthLimit : Nat := 4

/-- Reads a length in its minimal form, and the rest. -/
def readLength : List UInt8 → Option (Nat × List UInt8)
  | [] => none
  | b :: rest =>
    if b < 128 then some (b.toNat, rest)
    else
      let size := b.toNat - 128
      let octets := rest.take size
      let n := Octets.toNat octets
      if size = 0 ∨ lengthLimit < size ∨ octets.length < size then none
      else if n < 128 ∨ octets.head? = some 0 then none
      else some (n, rest.drop size)

/-- Reads an element: its tag, its contents and the rest. -/
def readElement : List UInt8 → Option (UInt8 × List UInt8 × List UInt8)
  | [] => none
  | tag :: rest =>
    match readLength rest with
    | none => none
    | some (n, rest) =>
      if rest.length < n then none else some (tag, rest.take n, rest.drop n)

/-- Reads an element of one tag: its contents and the rest. -/
def expect (tag : UInt8) (octets : List UInt8) : Option (List UInt8 × List UInt8) :=
  match readElement octets with
  | some (found, contents, rest) => if found = tag then some (contents, rest) else none
  | none => none

/-- The contents of the only element, of one tag. -/
def expectOnly (tag : UInt8) (octets : List UInt8) : Option (List UInt8) :=
  match expect tag octets with
  | some (contents, []) => some contents
  | _ => none

/-- Drops the element of one tag, which may be absent, and gives its contents. -/
def optionalAt (tag : UInt8) (octets : List UInt8) : Option (Option (List UInt8) × List UInt8) :=
  match octets with
  | [] => some (none, [])
  | found :: _ =>
    if found = tag then (expect tag octets).map fun (contents, rest) => (some contents, rest)
    else some (none, octets)

/-- The number in minimal contents; contents that read as negative have none. -/
def naturalOf? : List UInt8 → Option Nat
  | [] => none
  | [b] => if b < 128 then some b.toNat else none
  | b :: c :: rest =>
    if 128 ≤ b then none
    else if b = 0 ∧ c < 128 then none
    else some (Octets.toNat (b :: c :: rest))

/-- Reads a natural number and the rest. -/
def readNatural (octets : List UInt8) : Option (Nat × List UInt8) :=
  match expect integerTag octets with
  | some (contents, rest) => (naturalOf? contents).map (·, rest)
  | none => none

/-- The only element, when it is a natural number. -/
def natural? (octets : List UInt8) : Option Nat :=
  match readNatural octets with
  | some (n, []) => some n
  | _ => none

/-- Reads as many natural numbers as asked for, and the rest. -/
def readNaturals : Nat → List UInt8 → Option (List Nat × List UInt8)
  | 0, octets => some ([], octets)
  | count + 1, octets =>
    match readNatural octets with
    | some (n, rest) => (readNaturals count rest).map fun (ns, rest) => (n :: ns, rest)
    | none => none

/-! ## Identifiers, strings of bits, and sets -/

/-- The most octets of an identifier. -/
def identifierLimit : Nat := 63

/-- The most octets of one number of an identifier, or of the number of a long tag. -/
def arcLimit : Nat := 4

/-- Whether the octets are numbers to the base 128, each in its minimal form; `begun` octets of the
first number came before. -/
def areArcs : (begun : Nat) → List UInt8 → Bool
  | begun, [] => begun == 0
  | begun, b :: rest =>
    decide (begun < arcLimit) &&
      if b < 128 then areArcs 0 rest else !(begun == 0 && b == 128) && areArcs (begun + 1) rest

/-- Whether the contents are those of an object identifier. -/
def isIdentifier (contents : List UInt8) : Bool :=
  !contents.isEmpty && decide (contents.length ≤ identifierLimit) && areArcs 0 contents

/-- The octets in the contents of a string of bits, whose first octet counts the bits at the end
that are not used and zero. -/
def bits? : List UInt8 → Option (List UInt8)
  | [] => none
  | unused :: octets =>
    match octets.getLast? with
    | none => if unused = 0 then some [] else none
    | some last =>
      if unused.toNat < 8 ∧ last.toNat % 2 ^ unused.toNat = 0 then some octets else none

/-- The rest after a tag. A tag whose lower five bits are all set goes on with its number, which
does not fit into them. -/
def afterTag? : List UInt8 → Option (List UInt8)
  | [] => none
  | tag :: rest =>
    if tag.toNat % 32 ≠ 31 then some rest
    else
      let begun := rest.takeWhile (128 ≤ ·)
      match rest.drop begun.length with
      | last :: after =>
        if areArcs 0 (begun ++ [last]) && (!begun.isEmpty || decide (31 ≤ last)) then some after
        else none
      | [] => none

/-- Reads an element of any tag: its octets and the rest. -/
def readAny (octets : List UInt8) : Option (List UInt8 × List UInt8) :=
  match afterTag? octets with
  | none => none
  | some rest =>
    match readLength rest with
    | none => none
    | some (n, rest) =>
      if rest.length < n then none
      else some (octets.take (octets.length - (rest.length - n)), rest.drop n)

/-- The octets of all elements up to the end; the fuel is the number of octets. -/
def readAll : (fuel : Nat) → List UInt8 → Option (List (List UInt8))
  | _, [] => some []
  | 0, _ :: _ => none
  | fuel + 1, octets =>
    match readAny octets with
    | some (element, rest) => (readAll fuel rest).map (element :: ·)
    | none => none

/-- Whether no element stands after a greater one. -/
def inOrder : List (List UInt8) → Bool
  | a :: b :: rest => !decide (b < a) && inOrder (b :: rest)
  | _ => true

/-- The elements in the contents of a set, which stand in the order of their octets. -/
def set? (contents : List UInt8) : Option (List (List UInt8)) :=
  match readAll contents.length contents with
  | some elements => if inOrder elements then some elements else none
  | none => none

end SignedLink.Der
