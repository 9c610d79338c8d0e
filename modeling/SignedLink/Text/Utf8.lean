import SignedLink.Text.CodePoint
/-!
# SignedLink — UTF-8

Encoding, and decoding by a machine that takes one octet at a time. Between
characters the machine is idle; inside a sequence it remembers the value so
far, how many octets are still wanted and the range of the next one, which is
narrower after the leads `E0`, `ED`, `F0` and `F4`, so that overlong forms,
surrogates and values above U+10FFFF are refused at their second octet.

* `decode` refuses ill-formed input and says where and why.
* `decodeLossy` writes U+FFFD for each maximal ill-formed piece.
* `decode_ascii`: octets below 80 are read one by one.
* `decodePoints` admits halves of surrogate pairs that are spelled as if they were characters.
-/

namespace SignedLink.Text.Utf8

/-- The octets of a text. -/
def encode (cs : List Char) : List UInt8 :=
  cs.flatMap String.utf8EncodeChar

/-! ## The machine -/

/-- A sequence that has begun and is not finished. -/
structure Pending where
  /-- the position of the lead octet -/
  start : Nat
  /-- the lead octet -/
  lead : UInt8
  /-- the bits collected so far -/
  value : Nat
  /-- the octets wanted after the next one -/
  more : Nat
  /-- the least admissible next octet -/
  low : UInt8
  /-- the greatest admissible next octet -/
  high : UInt8

/-- What an octet between characters is. -/
inductive Lead where
  /-- a character of its own -/
  | single (c : Char)
  /-- the lead of a longer sequence: its bits, the octets wanted after the next, the next one's
  range -/
  | opens (value more : Nat) (low high : UInt8)
  /-- no lead -/
  | invalid

/-- The role of an octet between characters. -/
def Lead.of (b : UInt8) : Lead :=
  if b < 0x80 then .single (Char.ofNat b.toNat)
  else if b < 0xC2 then .invalid
  else if b < 0xE0 then .opens (b.toNat - 0xC0) 0 0x80 0xBF
  else if b < 0xF0 then
    .opens (b.toNat - 0xE0) 1 (if b == 0xE0 then 0xA0 else 0x80) (if b == 0xED then 0x9F else 0xBF)
  else if b < 0xF5 then
    .opens (b.toNat - 0xF0) 2 (if b == 0xF0 then 0x90 else 0x80) (if b == 0xF4 then 0x8F else 0xBF)
  else .invalid

/-- Whether the octet may come next. -/
def Pending.accepts (p : Pending) (b : UInt8) : Bool :=
  decide (p.low ≤ b) && decide (b ≤ p.high)

/-- The bits with those of one more octet. -/
def Pending.extend (p : Pending) (b : UInt8) : Nat :=
  p.value * 64 + b.toNat % 64

/-! ## Strict decoding -/

/-- Why a sequence is ill-formed. -/
inductive Flaw where
  | invalidStart
  | invalidContinuation
  | unexpectedEnd
deriving DecidableEq

/-- The words for a flaw. -/
def Flaw.words : Flaw → String
  | .invalidStart => "invalid start byte"
  | .invalidContinuation => "invalid continuation byte"
  | .unexpectedEnd => "unexpected end of data"

/-- The ill-formed piece that stopped the decoder. -/
structure Malformed where
  /-- the position of its first octet -/
  first : Nat
  /-- the position of its last octet -/
  last : Nat
  /-- its first octet -/
  octet : UInt8
  flaw : Flaw
deriving DecidableEq

/-- The message for an ill-formed piece: one octet is shown, several are named by position. -/
def Malformed.message (m : Malformed) : String :=
  let first := toString m.first
  let place :=
    if m.first == m.last then
      "byte 0x" ++ String.ofList (hexPadded 2 m.octet.toNat) ++ " in position " ++ first
    else "bytes in position " ++ first ++ "-" ++ toString m.last
  "'utf-8' codec can't decode " ++ place ++ ": " ++ m.flaw.words

/-- Reads from the given position, inside a sequence or between characters. -/
def decodeFrom : Nat → Option Pending → List UInt8 → Except Malformed (List Char)
  | _, none, [] => .ok []
  | pos, some p, [] => .error ⟨p.start, pos - 1, p.lead, .unexpectedEnd⟩
  | pos, none, b :: rest =>
    match Lead.of b with
    | .single c => (c :: ·) <$> decodeFrom (pos + 1) none rest
    | .opens value more low high =>
      decodeFrom (pos + 1) (some ⟨pos, b, value, more, low, high⟩) rest
    | .invalid => .error ⟨pos, pos, b, .invalidStart⟩
  | pos, some p, b :: rest =>
    if p.accepts b then
      match p.more with
      | 0 => (Char.ofNat (p.extend b) :: ·) <$> decodeFrom (pos + 1) none rest
      | more + 1 =>
        decodeFrom (pos + 1)
          (some { p with value := p.extend b, more, low := 0x80, high := 0xBF }) rest
    else .error ⟨p.start, pos - 1, p.lead, .invalidContinuation⟩

/-- The text of well-formed octets, or the first ill-formed piece. -/
def decode (octets : List UInt8) : Except Malformed (List Char) :=
  decodeFrom 0 none octets

/-! ## Halves of surrogate pairs -/

/-- The half that three octets spell as if it were a character, if they do. -/
def half? (a b c : UInt8) : Option Half :=
  if a == 0xED && decide (0xA0 ≤ b) && decide (b ≤ 0xBF) && decide (0x80 ≤ c) &&
      decide (c ≤ 0xBF) then
    some (Fin.ofNat 0x800 (b.toNat % 32 * 64 + c.toNat % 64))
  else none

/-- Octets taken apart at the halves that they spell: those before the first of them, and each of
them with the octets behind it. -/
def splitHalves : List UInt8 → List UInt8 × List (Half × List UInt8)
  | a :: b :: c :: rest =>
    match half? a b c with
    | some h =>
      let (run, later) := splitHalves rest
      ([], (h, run) :: later)
    | none =>
      let (run, later) := splitHalves (b :: c :: rest)
      (a :: run, later)
  | octets => (octets, [])

/-- The text of octets that may spell halves as if they were characters. -/
def decodePoints (octets : List UInt8) : Option (List CodePoint) := do
  let (run, later) := splitHalves octets
  let front ← (decode run).toOption
  let behind ← later.mapM fun (h, run) =>
    (decode run).toOption.map fun cs => .half h :: points cs
  some (points front ++ behind.flatten)

/-! ## Lossy decoding -/

/-- The character that stands for an ill-formed piece. -/
def replacement : Char :=
  Char.ofNat 0xFFFD

/-- Reads an octet between characters: what is written and the state after it. -/
def lossyIdle (b : UInt8) : List Char × Option Pending :=
  match Lead.of b with
  | .single c => ([c], none)
  | .opens value more low high => ([], some ⟨0, b, value, more, low, high⟩)
  | .invalid => ([replacement], none)

/-- Reads on, inside a sequence or between characters. -/
def lossyFrom : Option Pending → List UInt8 → List Char
  | none, [] => []
  | some _, [] => [replacement]
  | none, b :: rest =>
    (lossyIdle b).1 ++ lossyFrom (lossyIdle b).2 rest
  | some p, b :: rest =>
    if p.accepts b then
      match p.more with
      | 0 => Char.ofNat (p.extend b) :: lossyFrom none rest
      | more + 1 =>
        lossyFrom (some { p with value := p.extend b, more, low := 0x80, high := 0xBF }) rest
    else replacement :: ((lossyIdle b).1 ++ lossyFrom (lossyIdle b).2 rest)

/-- The text, with U+FFFD for each maximal ill-formed piece. -/
def decodeLossy (octets : List UInt8) : List Char :=
  lossyFrom none octets

/-! ## Elementary facts -/

/-- Octets below 80 spell no halves. -/
theorem splitHalves_ascii {octets : List UInt8} (h : ∀ b ∈ octets, b < 0x80) :
    splitHalves octets = (octets, []) := by
  induction octets with
  | nil => rfl
  | cons a rest ih =>
    have plain : (a == 0xED) = false := by
      rw [beq_eq_false_iff_ne]
      rintro rfl
      exact absurd (h _ List.mem_cons_self) (by decide)
    match rest with
    | [] | [_] => rfl
    | b :: c :: more =>
      have noHalf : half? a b c = none := by simp [half?, plain]
      simp only [splitHalves, noHalf, ih fun x hx => h x (List.mem_cons_of_mem _ hx)]

/-- Octets below 80 are read one by one. -/
theorem decode_ascii {octets : List UInt8} (h : ∀ b ∈ octets, b < 0x80) :
    decode octets = .ok (octets.map fun b => Char.ofNat b.toNat) := by
  suffices ∀ pos, decodeFrom pos none octets = .ok (octets.map fun b => Char.ofNat b.toNat) from
    this 0
  induction octets with
  | nil => intro pos; rfl
  | cons b rest ih =>
    intro pos
    have hb : b < 0x80 := h b List.mem_cons_self
    rw [decodeFrom, Lead.of, if_pos hb]
    simp only [ih (fun x hx => h x (List.mem_cons_of_mem _ hx)) (pos + 1)]
    rfl

/-- The same as code points. -/
theorem decodePoints_ascii {octets : List UInt8} (h : ∀ b ∈ octets, b < 0x80) :
    decodePoints octets = some (points (octets.map fun b => Char.ofNat b.toNat)) := by
  simp [decodePoints, splitHalves_ascii h, decode_ascii h, Except.toOption]

end SignedLink.Text.Utf8
