import SignedLink.Octets.Natural
/-!
# SignedLink — SHA-1

The hash that the delivery network signs with. A message is padded to whole
blocks of 64 octets, every block is expanded to eighty words, and eighty
rounds mix them into five words of state.

* `length_hash`: the hash has twenty octets.
-/

namespace SignedLink.Sha1

/-- The five words of state. -/
structure State where
  a : UInt32
  b : UInt32
  c : UInt32
  d : UInt32
  e : UInt32

def State.initial : State :=
  ⟨0x67452301, 0xEFCDAB89, 0x98BADCFE, 0x10325476, 0xC3D2E1F0⟩

/-- Rotation to the left. -/
def rotate (x k : UInt32) : UInt32 :=
  (x <<< k) ||| (x >>> (32 - k))

/-! ## Padding -/

/-- The zeros between the delimiter and the length. -/
def paddingZeros (size : Nat) : Nat :=
  (119 - size % 64) % 64

/-- The message, a delimiter, zeros and the length in bits. -/
def padded (message : List UInt8) : List UInt8 :=
  message ++ 0x80 :: (List.replicate (paddingZeros message.length) 0 ++
    Octets.ofNat 8 (8 * message.length))

/-- Cuts into pieces of `size` elements; `count` is their number. -/
def pieces {α : Type} (size : Nat) : (count : Nat) → List α → List (List α)
  | 0, _ => []
  | count + 1, xs => xs.take size :: pieces size count (xs.drop size)

/-! ## Compression -/

/-- A word from four octets. -/
def wordOf (octets : List UInt8) : UInt32 :=
  UInt32.ofNat (Octets.toNat octets)

/-- Adds `count` words to a schedule that is kept with the latest word first. -/
def extend : (count : Nat) → List UInt32 → List UInt32
  | 0, words => words
  | count + 1, words =>
    let mixed := words.getD 2 0 ^^^ words.getD 7 0 ^^^ words.getD 13 0 ^^^ words.getD 15 0
    extend count (rotate mixed 1 :: words)

/-- The eighty words of a block. -/
def schedule (block : List UInt8) : List UInt32 :=
  (extend 64 ((pieces 4 16 block).map wordOf).reverse).reverse

/-- The mixing function and the constant of a round. -/
def mixing (round : Nat) (s : State) : UInt32 × UInt32 :=
  if round < 20 then ((s.b &&& s.c) ||| (~~~s.b &&& s.d), 0x5A827999)
  else if round < 40 then (s.b ^^^ s.c ^^^ s.d, 0x6ED9EBA1)
  else if round < 60 then ((s.b &&& s.c) ||| (s.b &&& s.d) ||| (s.c &&& s.d), 0x8F1BBCDC)
  else (s.b ^^^ s.c ^^^ s.d, 0xCA62C1D6)

/-- One round. -/
def State.step (round : Nat) (s : State) (word : UInt32) : State :=
  let (mixed, constant) := mixing round s
  ⟨rotate s.a 5 + mixed + s.e + constant + word, s.a, rotate s.b 30, s.c, s.d⟩

/-- The rounds from a number on. -/
def rounds : (round : Nat) → State → List UInt32 → State
  | _, s, [] => s
  | round, s, word :: words => rounds (round + 1) (s.step round word) words

/-- Mixes one block into the state. -/
def compress (s : State) (block : List UInt8) : State :=
  let t := rounds 0 s (schedule block)
  ⟨s.a + t.a, s.b + t.b, s.c + t.c, s.d + t.d, s.e + t.e⟩

/-- The twenty octets of a state. -/
def State.octets (s : State) : List UInt8 :=
  [s.a, s.b, s.c, s.d, s.e].flatMap fun w => Octets.ofNat 4 w.toNat

/-- The hash of a message. -/
def hash (message : List UInt8) : List UInt8 :=
  let whole := padded message
  ((pieces 64 (whole.length / 64) whole).foldl compress .initial).octets

/-! ## Elementary facts -/

/-- The hash has twenty octets. -/
@[simp] theorem length_hash (message : List UInt8) : (hash message).length = 20 := by
  simp [hash, State.octets]

/-- The hash of the three letters `abc`. -/
example : hash [0x61, 0x62, 0x63] =
    [0xA9, 0x99, 0x3E, 0x36, 0x47, 0x06, 0x81, 0x6A, 0xBA, 0x3E,
      0x25, 0x71, 0x78, 0x50, 0xC2, 0x6C, 0x9C, 0xD0, 0xD8, 0x9D] := by
  decide +kernel

end SignedLink.Sha1
