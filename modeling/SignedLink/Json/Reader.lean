import SignedLink.Json.Document
import SignedLink.Value.Numeral
/-!
# SignedLink — reading JSON

Reads one JSON text, with the words `NaN`, `Infinity` and `-Infinity` allowed
as numbers, and says on refusal at which character and why. A name that occurs
twice in an object keeps its first place and its last value. Objects and arrays
may stand inside each other up to a limit.

The text may itself have halves of surrogate pairs in it. They count as
characters without a meaning: outside strings nothing begins with one, and
inside a string each stands for itself, so the text is read with U+FFFD in their
places and only strings look up what stands there.

The functions for values, members and items call each other with an allowance
that goes down at every call; `readWithin` starts with twice the length of the text,
which is never used up, because every second call takes a character.
-/

namespace SignedLink.Json

/-- Why a text is no JSON. -/
inductive Flaw where
  | expectingValue
  | expectingName
  | expectingColon
  | expectingComma
  | extraData
  | unterminatedString
  | badEscape
  | badUnicodeEscape
  | controlCharacter
  /-- an integer with more digits than are read -/
  | longNumeral
  /-- an object or an array inside too many others -/
  | tooDeep
  /-- a half of a surrogate pair in a text or a name, where a value is to be read -/
  | loneHalf
deriving DecidableEq

/-- The words for a flaw. -/
def Flaw.words : Flaw → String
  | .expectingValue => "Expecting value"
  | .expectingName => "Expecting property name enclosed in double quotes"
  | .expectingColon => "Expecting ':' delimiter"
  | .expectingComma => "Expecting ',' delimiter"
  | .extraData => "Extra data"
  | .unterminatedString => "Unterminated string starting at"
  | .badEscape => "Invalid \\escape"
  | .badUnicodeEscape => "Invalid \\uXXXX escape"
  | .controlCharacter => "Invalid control character at"
  | .longNumeral => "Exceeds the limit for integer string conversion"
  | .tooDeep => "Nesting too deep"
  | .loneHalf => "Half of a surrogate pair"

/-- A flaw and the position of the character at which it shows. -/
structure Malformed where
  flaw : Flaw
  position : Nat
deriving DecidableEq

/-- What was read, the position after it, and the characters from there on. -/
abbrev Reading (α : Type) := Except Malformed (α × Nat × List Char)

/-- Space, tab, line feed and carriage return. -/
def isSpace (c : Char) : Bool :=
  c == ' ' || c == '\t' || c == '\n' || c == '\r'

/-- Drops the spaces in front. -/
def skipSpace (pos : Nat) : List Char → Nat × List Char
  | [] => (pos, [])
  | c :: rest => if isSpace c then skipSpace (pos + 1) rest else (pos, c :: rest)

/-! ## Strings -/

/-- The halves of surrogate pairs in a text, by their positions. -/
abbrev Halves := List (Nat × Text.Half)

/-- The code point at a position where a character is seen. -/
def pointAt (halves : Halves) (pos : Nat) (c : Char) : Text.CodePoint :=
  match halves.lookup pos with
  | some h => .half h
  | none => .scalar c

/-- The value of four hexadecimal digits at the front. -/
def fourHex? : List Char → Option Nat
  | a :: b :: c :: d :: _ => do
    let a ← Text.hexValue? a
    let b ← Text.hexValue? b
    let c ← Text.hexValue? c
    let d ← Text.hexValue? d
    some (((a * 16 + b) * 16 + c) * 16 + d)
  | _ => none

/-- Reads what follows `\u` at `pos`: the code point and how many characters it takes after the
backslash. The first half of a pair takes the second that follows it; a half may stand alone. -/
def unicodeEscape (pos : Nat) (digits : List Char) : Except Malformed (Text.CodePoint × Nat) :=
  match fourHex? digits with
  | none => .error ⟨.badUnicodeEscape, pos⟩
  | some high =>
    if digits.length < 5 then .error ⟨.badUnicodeEscape, pos⟩
    else
      match digits.drop 4 with
      | '\\' :: 'u' :: more =>
        if 0xD800 ≤ high ∧ high < 0xDC00 ∧ 5 ≤ more.length then
          match fourHex? more with
          | none => .error ⟨.badUnicodeEscape, pos + 6⟩
          | some low =>
            if 0xDC00 ≤ low ∧ low < 0xE000 then
              .ok (.scalar (Char.ofNat (0x10000 + (high - 0xD800) * 0x400 + (low - 0xDC00))), 11)
            else .ok (.ofNat high, 5)
        else .ok (.ofNat high, 5)
      | _ => .ok (.ofNat high, 5)

/-- Reads what follows a backslash at `pos`. -/
def escapeAt (start pos : Nat) : List Char → Except Malformed (Text.CodePoint × Nat)
  | [] => .error ⟨.unterminatedString, start⟩
  | 'u' :: digits => unicodeEscape (pos + 1) digits
  | c :: _ =>
    if c == '\x22' || c == '\\' || c == '/' then .ok (.scalar c, 1)
    else if c == 'b' then .ok (.scalar (Char.ofNat 8), 1)
    else if c == 'f' then .ok (.scalar (Char.ofNat 12), 1)
    else if c == 'n' then .ok (.scalar '\n', 1)
    else if c == 'r' then .ok (.scalar '\r', 1)
    else if c == 't' then .ok (.scalar '\t', 1)
    else .error ⟨.badEscape, pos⟩

/-- Reads the rest of a string that began at `start`, after dropping `skip` characters that an
escape has taken. -/
def stringBody (halves : Halves) (start : Nat) :
    (skip pos : Nat) → List Char → Reading (List Text.CodePoint)
  | _, _, [] => .error ⟨.unterminatedString, start⟩
  | skip + 1, pos, _ :: rest => stringBody halves start skip (pos + 1) rest
  | 0, pos, c :: rest =>
    if c == '\x22' then .ok ([], pos + 1, rest)
    else if c == '\\' then
      match escapeAt start pos rest with
      | .error e => .error e
      | .ok (d, used) =>
        match stringBody halves start used (pos + 1) rest with
        | .error e => .error e
        | .ok (ds, pos, rest) => .ok (d :: ds, pos, rest)
    else if c.toNat < 32 then .error ⟨.controlCharacter, pos⟩
    else
      match stringBody halves start 0 (pos + 1) rest with
      | .error e => .error e
      | .ok (ds, next, rest) => .ok (pointAt halves pos c :: ds, next, rest)

/-! ## Numbers -/

/-- The exponent at the front, if there is one, and the characters it takes. -/
def exponentPart (cs : List Char) : Option (Int × Nat) :=
  match cs with
  | e :: rest =>
    if e == 'e' || e == 'E' then
      let (negative, body) := Numeral.takeSign rest
      let digits := body.takeWhile Text.isAsciiDigit
      if digits.isEmpty then none
      else
        some (Numeral.signed negative (Text.natOfDigits digits),
          1 + (rest.length - body.length) + digits.length)
    else none
  | [] => none

/-- Reads a number. Without fraction and exponent it is an integer. -/
def number (pos : Nat) (cs : List Char) : Reading Document :=
  let (negative, body) :=
    match cs with
    | '-' :: rest => (true, rest)
    | _ => (false, cs)
  let whole :=
    match body with
    | '0' :: _ => ['0']
    | _ => body.takeWhile Text.isAsciiDigit
  if whole.isEmpty then .error ⟨.expectingValue, pos⟩
  else
    let afterWhole := body.drop whole.length
    let fraction :=
      match afterWhole with
      | '.' :: rest => rest.takeWhile Text.isAsciiDigit
      | _ => []
    let afterFraction :=
      if fraction.isEmpty then afterWhole else afterWhole.drop (fraction.length + 1)
    let exponent := exponentPart afterFraction
    let rest := afterFraction.drop ((exponent.map (·.2)).getD 0)
    let next := pos + (cs.length - rest.length)
    if fraction.isEmpty && exponent.isNone then
      if Fault.numeralLimit < whole.length then .error ⟨.longNumeral, pos⟩
      else .ok (.integer (Numeral.signed negative (Text.natOfDigits whole)), next, rest)
    else
      let power := (exponent.map (·.1)).getD 0 - fraction.length
      .ok (.real (.ofDecimal negative (Text.natOfDigits (whole ++ fraction)) power), next, rest)

/-! ## Values -/

/-- The words that stand for values. -/
def words : List (List Char × Document) :=
  [("null".toList, .null), ("true".toList, .boolean true), ("false".toList, .boolean false),
    ("NaN".toList, .real .nan), ("Infinity".toList, .real (.infinite false)),
    ("-Infinity".toList, .real (.infinite true))]

/-- Reads a word or a number. -/
def wordOrNumber (pos : Nat) (cs : List Char) : Reading Document :=
  match words.find? fun w => w.1.isPrefixOf cs with
  | some (word, v) => .ok (v, pos + word.length, cs.drop word.length)
  | none => number pos cs

section

variable (halves : Halves)

mutual

/-- Reads one value, in which so many objects and arrays may stand inside each other. -/
def value : (allowance depth pos : Nat) → List Char → Reading Document
  | 0, _, pos, _ => .error ⟨.expectingValue, pos⟩
  | _ + 1, _, pos, [] => .error ⟨.expectingValue, pos⟩
  | allowance + 1, depth, pos, c :: rest =>
    if c == '\x22' then
      match stringBody halves pos 0 (pos + 1) rest with
      | .error e => .error e
      | .ok (s, pos, rest) => .ok (.text s, pos, rest)
    else if c == '\x7b' then
      match depth with
      | 0 => .error ⟨.tooDeep, pos⟩
      | depth + 1 =>
        let (pos, rest) := skipSpace (pos + 1) rest
        match rest with
        | '\x7d' :: rest => .ok (.record [], pos + 1, rest)
        | _ => members allowance depth [] pos rest
    else if c == '[' then
      match depth with
      | 0 => .error ⟨.tooDeep, pos⟩
      | depth + 1 =>
        let (pos, rest) := skipSpace (pos + 1) rest
        match rest with
        | ']' :: rest => .ok (.list [], pos + 1, rest)
        | _ => items allowance depth [] pos rest
    else wordOrNumber pos (c :: rest)

/-- Reads the members of an object from a name on, up to its end. -/
def members : (allowance depth : Nat) → Members → (pos : Nat) → List Char → Reading Document
  | 0, _, _, pos, _ => .error ⟨.expectingName, pos⟩
  | allowance + 1, depth, done, pos, cs =>
    match cs with
    | '\x22' :: rest =>
      match stringBody halves pos 0 (pos + 1) rest with
      | .error e => .error e
      | .ok (name, pos, rest) =>
        match skipSpace pos rest with
        | (pos, ':' :: rest) =>
          let (pos, rest) := skipSpace (pos + 1) rest
          match value allowance depth pos rest with
          | .error e => .error e
          | .ok (v, pos, rest) =>
            let done := done.put name v
            match skipSpace pos rest with
            | (pos, '\x7d' :: rest) => .ok (.record done, pos + 1, rest)
            | (pos, ',' :: rest) =>
              let (pos, rest) := skipSpace (pos + 1) rest
              members allowance depth done pos rest
            | (pos, _) => .error ⟨.expectingComma, pos⟩
        | (pos, _) => .error ⟨.expectingColon, pos⟩
    | _ => .error ⟨.expectingName, pos⟩

/-- Reads the items of an array from a value on, up to its end; `done` holds the earlier ones,
the latest first. -/
def items : (allowance depth : Nat) → (done : List Document) → (pos : Nat) → List Char →
    Reading Document
  | 0, _, _, pos, _ => .error ⟨.expectingValue, pos⟩
  | allowance + 1, depth, done, pos, cs =>
    match value allowance depth pos cs with
    | .error e => .error e
    | .ok (v, pos, rest) =>
      match skipSpace pos rest with
      | (pos, ']' :: rest) => .ok (.list (v :: done).reverse, pos + 1, rest)
      | (pos, ',' :: rest) =>
        let (pos, rest) := skipSpace (pos + 1) rest
        items allowance depth (v :: done) pos rest
      | (pos, _) => .error ⟨.expectingComma, pos⟩

end

end

/-- Reads a whole text, with halves of surrogate pairs at these positions, in which so many objects
and arrays may stand inside each other. -/
def documentWithin (depth : Nat) (halves : Halves) (cs : List Char) : Except Malformed Document :=
  let (pos, start) := skipSpace 0 cs
  match value halves (2 * cs.length + 2) depth pos start with
  | .error e => .error e
  | .ok (d, pos, rest) =>
    match skipSpace pos rest with
    | (_, []) => .ok d
    | (pos, _) => .error ⟨.extraData, pos⟩

/-- How many objects and arrays may stand inside each other in a text of unknown origin. -/
def depthLimit : Nat := 950

/-- The positions of the halves of surrogate pairs in a text. -/
def halvesOf (text : List Text.CodePoint) : Halves :=
  text.zipIdx.filterMap fun (point, pos) =>
    match point with
    | .scalar _ => none
    | .half h => some (pos, h)

/-- A text of characters has no halves. -/
theorem halvesOf_points (cs : List Char) : halvesOf (Text.points cs) = [] := by
  rw [halvesOf, List.filterMap_eq_nil_iff]
  rintro ⟨point, pos⟩ mem
  obtain ⟨c, -, rfl⟩ := List.mem_map.mp (List.fst_mem_of_mem_zipIdx mem)
  rfl

/-- Reads a whole text of unknown origin. -/
def readDocument (text : List Text.CodePoint) : Except Malformed Document :=
  documentWithin depthLimit (halvesOf text) (Text.seen text)

/-- Reads a value from a whole text in which so many objects and arrays may stand inside each
other. -/
def readWithin (depth : Nat) (cs : List Char) : Except Malformed Value :=
  match documentWithin depth [] cs with
  | .error e => .error e
  | .ok d => if d.isWhole then .ok d.seen else .error ⟨.loneHalf, 0⟩

/-- Reads a value from a whole text of unknown origin. -/
def read (cs : List Char) : Except Malformed Value :=
  readWithin depthLimit cs

end SignedLink.Json
