import SignedLink.Text.Blank
import SignedLink.Text.Digit
import SignedLink.Value.Fault
/-!
# SignedLink — integers from values

An integer is read from a text with optional surrounding spaces, an optional
sign, and decimal digits of any script with single underscores between them;
from octets in the same way; from a number by dropping what follows the point.

* `toInteger_integer`: an integer is read as itself.
* `numeral_error`: only two faults can come from a text.
-/

namespace SignedLink

namespace Numeral

/-- The digits that follow a digit, each with at most one underscore before it, and the rest. -/
def moreDigits (value? : Char → Option Nat) : List Char → List Nat × List Char
  | [] => ([], [])
  | '_' :: c :: rest =>
    match value? c with
    | some d => (d :: (moreDigits value? rest).1, (moreDigits value? rest).2)
    | none => ([], '_' :: c :: rest)
  | c :: rest =>
    match value? c with
    | some d => (d :: (moreDigits value? rest).1, (moreDigits value? rest).2)
    | none => ([], c :: rest)

/-- The digits at the front, at least one, and the rest. -/
def digitRun? (value? : Char → Option Nat) : List Char → Option (List Nat × List Char)
  | [] => none
  | c :: rest =>
    (value? c).map fun d => (d :: (moreDigits value? rest).1, (moreDigits value? rest).2)

/-- The sign at the front, and the rest. -/
def takeSign : List Char → Bool × List Char
  | '-' :: rest => (true, rest)
  | '+' :: rest => (false, rest)
  | rest => (false, rest)

/-- The number of a row of digits, the most significant first. -/
def ofDigits (digits : List Nat) : Nat :=
  digits.foldl (fun n d => 10 * n + d) 0

/-- A magnitude with a sign. -/
def signed (negative : Bool) (n : Nat) : Int :=
  if negative then -(n : Int) else n

/-- What may surround a numeral: the spaces of ASCII, and every blank outside ASCII. -/
def isPadding (c : Char) : Bool :=
  Text.isPlainSpace c || (Text.isBlank c && decide (127 < c.toNat))

/-- The character of an octet; beyond ASCII one that neither surrounds a numeral nor is a digit. -/
def octetChar (b : UInt8) : Char :=
  if b < 0x80 then Char.ofNat b.toNat else '\uFFFD'

/-- The form of a source in a message, which is cut. -/
def excerpt (source : Value) : String :=
  .ofList (source.shown.toList.take 200)

/-- Reads an integer; `shown` is the form of the source in the message. -/
def read (shown : String) (cs : List Char) : Except Fault Int :=
  let (negative, body) := takeSign (Text.trimBy isPadding cs)
  match digitRun? Text.digitValue? body with
  | none => .error (.badNumeral shown)
  | some (digits, rest) =>
    if rest.head? == some '_' then .error (.badNumeral shown)
    else if Fault.numeralLimit < digits.length then .error (.longNumeral digits.length)
    else if rest.isEmpty then .ok (signed negative (ofDigits digits))
    else .error (.badNumeral shown)

/-- The decimal form of an integer, which has no more digits than a numeral may have. -/
def write (n : Int) : Except Fault String :=
  let digits := Text.decimal n.natAbs
  if Fault.numeralLimit < digits.length then .error .longInteger
  else .ok (.ofList (Text.decimal n))

end Numeral

namespace Value

/-- The whole part of a number. -/
def wholePart : Binary64 → Except Fault Int
  | .nan => .error .wholeOfNan
  | .infinite _ => .error .wholeOfInfinity
  | x =>
    match x.truncate? with
    | some n => .ok n
    | none => .error .wholeOfNan

/-- The integer that a value stands for. -/
def toInteger : Value → Except Fault Int
  | .integer n => .ok n
  | .boolean b => .ok (if b then 1 else 0)
  | .real x => wholePart x
  | .text s => Numeral.read (Numeral.excerpt (.text s)) s.toList
  | .octets bytes => Numeral.read (Numeral.excerpt (.octets bytes)) (bytes.map Numeral.octetChar)
  | v => .error (.notNumeric v.typeName)

/-! ## Elementary facts -/

theorem toInteger_integer (n : Int) : toInteger (.integer n) = .ok n := rfl

/-- Only two faults can come from a text. -/
theorem numeral_error {shown : String} {cs : List Char} {fault : Fault}
    (h : Numeral.read shown cs = .error fault) :
    fault = .badNumeral shown ∨ ∃ n, fault = .longNumeral n := by
  unfold Numeral.read at h
  dsimp only at h
  split at h
  · exact .inl (by simpa using h.symm)
  · split at h
    · exact .inl (by simpa using h.symm)
    · split at h
      · exact .inr ⟨_, by simpa using h.symm⟩
      · split at h
        · simp at h
        · exact .inl (by simpa using h.symm)

/-- A finite number has a whole part. -/
theorem wholePart_finite (s : Bool) (m : Nat) (e : Int) :
    wholePart (.finite s m e) =
      .ok ((Binary64.fraction s m e).1.tdiv (Binary64.fraction s m e).2) := rfl

end Value

end SignedLink
