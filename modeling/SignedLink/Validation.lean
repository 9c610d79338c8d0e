import SignedLink.Json.Reader
import SignedLink.Text.Utf8
import SignedLink.Value.Numeral
/-!
# SignedLink — validation

Values from outside are read as the kind that a field wants: an integer may
come as a whole number or as a text that spells one, a truth value as one of a
few words. What cannot be read violates a rule, and a document is refused with
all violations of its fields at once, in the order of the fields.

* `natural_eq_ok_iff`: the natural numbers are the integers that are not negative.
-/

namespace SignedLink

/-- The rule that a value violates. -/
inductive Violation where
  | missing
  /-- no kind of value that an integer can be read from -/
  | integerKind
  /-- a text that spells no integer -/
  | integerText
  /-- an integer of a size that is not read -/
  | integerSize
  | fractional
  | notFinite
  | negative
  | textKind
  /-- octets that are no text -/
  | textOctets
  | tooShort
  | tooLong
  | booleanKind
  | booleanWord
  /-- not the name of a stage -/
  | stage
  /-- a base address that is empty after trimming -/
  | emptyAddress
  | notRsaKey
  /-- a document that is no record, by the name of what it should be -/
  | document (name : String)
  /-- a part of a request that is no record -/
  | attributes
  /-- a field of a record that does not change -/
  | frozen
  | malformedJson (flaw : Json.Flaw)
deriving DecidableEq

namespace Violation

/-- The greatest number of characters of a limited text. -/
def textLimit : Nat := 512

/-- The short name of a rule. -/
def code : Violation → String
  | .missing => "missing"
  | .integerKind => "int_type"
  | .integerText => "int_parsing"
  | .integerSize => "int_parsing_size"
  | .fractional => "int_from_float"
  | .notFinite => "finite_number"
  | .negative => "greater_than_equal"
  | .textKind => "string_type"
  | .textOctets => "string_unicode"
  | .tooShort => "string_too_short"
  | .tooLong => "string_too_long"
  | .booleanKind => "bool_type"
  | .booleanWord => "bool_parsing"
  | .stage => "literal_error"
  | .emptyAddress => "value_error"
  | .notRsaKey => "is_instance_of"
  | .document _ => "model_type"
  | .attributes => "model_attributes_type"
  | .frozen => "frozen_instance"
  | .malformedJson _ => "json_invalid"

/-- What a rule asks for. -/
def message : Violation → String
  | .missing => "Field required"
  | .integerKind => "Input should be a valid integer"
  | .integerText => "Input should be a valid integer, unable to parse string as an integer"
  | .integerSize => "Unable to parse input string as an integer, exceeded maximum size"
  | .fractional => "Input should be a valid integer, got a number with a fractional part"
  | .notFinite => "Input should be a finite number"
  | .negative => "Input should be greater than or equal to 0"
  | .textKind => "Input should be a valid string"
  | .textOctets => "Input should be a valid string, unable to parse raw data as a unicode string"
  | .tooShort => "String should have at least 1 character"
  | .tooLong => "String should have at most " ++ toString textLimit ++ " characters"
  | .booleanKind => "Input should be a valid boolean"
  | .booleanWord => "Input should be a valid boolean, unable to interpret input"
  | .stage => "Input should be 'development', 'staging' or 'production'"
  | .emptyAddress => "Value error, base_url must not be empty"
  | .notRsaKey => "Input should be an instance of RSAPrivateKey"
  | .document name => "Input should be a valid dictionary or instance of " ++ name
  | .attributes => "Input should be a valid dictionary or object to extract fields from"
  | .frozen => "Instance is frozen"
  | .malformedJson _ => "JSON decode error"

/-- The particulars that go with a rule, by name. -/
def details : Violation → Fields
  | .tooShort => [("min_length", .integer 1)]
  | .tooLong => [("max_length", .integer textLimit)]
  | .malformedJson flaw => [("error", .text flaw.words)]
  | _ => []

end Violation

/-- A violation, where it is (from the outermost name inwards), and the value that violates. -/
structure FieldError where
  place : List Value
  violation : Violation
  input : Value

/-- A reading of one value. -/
abbrev Checked (α : Type) := Except Violation α

namespace FieldError

/-- The error of a field, if its reading failed. -/
def ofReading? {α : Type} (name : String) (input : Value) : Checked α → Option FieldError
  | .ok _ => none
  | .error violation => some ⟨[.text name], violation, input⟩

/-- The same error inside the part of that name. -/
def within (part : String) (e : FieldError) : FieldError :=
  { e with place := .text part :: e.place }

end FieldError

namespace Checked

/-! ## Integers -/

/-- What stays of digits behind a zero: zeros and underscores go, up to the first digit or minus
that counts. Before a point and at the end the last character stays. -/
def afterZero (last : Char) : List Char → Option (List Char)
  | [] => some [last]
  | c :: rest =>
    if c == '0' || c == '_' then afterZero c rest
    else if c == '.' then some (last :: c :: rest)
    else if c == '-' || Text.isAsciiDigit c then some (c :: rest)
    else none

/-- A numeral without zeros at its front. It begins with a digit or a minus. -/
def withoutZeros? : List Char → Option (List Char)
  | '0' :: rest => afterZero '0' rest
  | c :: rest => if c == '-' || Text.isAsciiDigit c then some (c :: rest) else none
  | [] => none

/-- A numeral without a fraction of zeros. -/
def withoutFraction (cs : List Char) : List Char :=
  let whole := cs.takeWhile (· != '.')
  let zeros := cs.drop (whole.length + 1)
  if !zeros.isEmpty && zeros.all (· == '0') then whole else cs

/-- A numeral without its underscores, if each of them stands between other characters. -/
def withoutUnderscores (cs : List Char) : List Char :=
  if (cs.splitOn '_').any List.isEmpty then cs else cs.filter (· != '_')

/-- The integer of an optional minus and digits without zeros at the front. -/
def strictInteger (cs : List Char) : Checked Int :=
  let (negative, body) := if cs.head? == some '-' then (true, cs.drop 1) else (false, cs)
  let digits := body.takeWhile Text.isAsciiDigit
  if digits.isEmpty || (digits.head? == some '0' && digits.length != 1) then .error .integerText
  else if Fault.numeralLimit < digits.length + (if negative then 1 else 0) then .error .integerSize
  else if digits.length != body.length then .error .integerText
  else .ok (Numeral.signed negative (Numeral.ofDigits (digits.map fun c => c.toNat - 48)))

/-- The integer that a text spells. White space around it, a sign, zeros at the front, single
underscores and a fraction of zeros are allowed. -/
def integerText (cs : List Char) : Checked Int :=
  let trimmed := Text.trimBy Text.isWhiteSpace cs
  let body := if [some '-', some '+'].contains trimmed.head? then trimmed.drop 1 else trimmed
  match if ['+', '-'].isPrefixOf trimmed then none else withoutZeros? body with
  | none => .error .integerText
  | some kept =>
    let plain := withoutUnderscores (withoutFraction kept)
    strictInteger (if trimmed.head? == some '-' then '-' :: plain else plain)

/-- The whole number that a binary number is; from 2^63 on none is read. -/
def integerReal (x : Binary64) : Checked Int :=
  match x with
  | .finite .. =>
    match x.exactInt? with
    | none => .error .fractional
    | some n => if n.natAbs < 2 ^ (63 : Nat) then .ok n else .error .integerSize
  | _ => .error .notFinite

/-- Reads an integer. -/
def integer : Value → Checked Int
  | .integer n => .ok n
  | .boolean b => .ok (if b then 1 else 0)
  | .real x => integerReal x
  | .text s => integerText s.toList
  | .octets bytes =>
    match Text.Utf8.decode bytes with
    | .ok cs => integerText cs
    | .error _ => .error .integerText
  | _ => .error .integerKind

/-- Reads an integer that is not negative. -/
def natural (v : Value) : Checked Int :=
  match integer v with
  | .error e => .error e
  | .ok n => if n < 0 then .error .negative else .ok n

/-! ## Texts and truth values -/

/-- Reads a text. -/
def text : Value → Checked String
  | .text s => .ok s
  | .octets bytes =>
    match Text.Utf8.decode bytes with
    | .ok cs => .ok (.ofList cs)
    | .error _ => .error .textOctets
  | _ => .error .textKind

/-- Reads a text that is kept secret; whatever is wrong, nothing but the kind is told. -/
def secret (v : Value) : Checked String :=
  match text v with
  | .ok s => .ok s
  | .error _ => .error .textKind

/-- Reads a text with at least one character. -/
def nonEmptyText (v : Value) : Checked String :=
  match text v with
  | .error e => .error e
  | .ok s => if s.isEmpty then .error .tooShort else .ok s

/-- Reads a text with at least one and at most `textLimit` characters. -/
def limitedText (v : Value) : Checked String :=
  match nonEmptyText v with
  | .error e => .error e
  | .ok s => if Violation.textLimit < s.toList.length then .error .tooLong else .ok s

/-- The words for false. -/
def falseWords : List String := ["0", "off", "f", "false", "n", "no"]

/-- The words for true. -/
def trueWords : List String := ["1", "on", "t", "true", "y", "yes"]

/-- The truth value of a word in whatever case. -/
def booleanText (s : String) : Checked Bool :=
  let word := String.ofList (s.toList.map Char.toLower)
  if falseWords.contains word then .ok false
  else if trueWords.contains word then .ok true
  else .error .booleanWord

/-- The truth value of zero and one. -/
def booleanInteger (n : Int) : Checked Bool :=
  if n = 0 then .ok false else if n = 1 then .ok true else .error .booleanWord

/-- Reads a truth value. Numbers outside the signed range of 64 bits are no kind of truth value. -/
def boolean : Value → Checked Bool
  | .boolean b => .ok b
  | .integer n =>
    if -(2 ^ (63 : Nat)) ≤ n ∧ n < 2 ^ (63 : Nat) then booleanInteger n else .error .booleanKind
  | .real x =>
    match integerReal x with
    | .ok n => booleanInteger n
    | .error _ => .error .booleanKind
  | .text s => booleanText s
  | .octets bytes =>
    match Text.Utf8.decode bytes with
    | .ok cs => booleanText (.ofList cs)
    | .error _ => .error .booleanWord
  | _ => .error .booleanKind

/-- Reads a value that may be null. -/
def optional {α : Type} (read : Value → Checked α) (v : Value) : Checked (Option α) :=
  if v.isNull then .ok none
  else
    match read v with
    | .ok a => .ok (some a)
    | .error e => .error e

/-! ## Elementary facts -/

/-- The natural numbers are the integers that are not negative. -/
theorem natural_eq_ok_iff {v : Value} {n : Int} :
    natural v = .ok n ↔ integer v = .ok n ∧ 0 ≤ n := by
  unfold natural
  cases integer v with
  | error e => simp
  | ok m =>
    by_cases negative : m < 0
    · simp only [negative, if_true, Except.ok.injEq, reduceCtorEq, false_iff]
      rintro ⟨rfl, nonneg⟩
      omega
    · simp only [negative, if_false, Except.ok.injEq]
      constructor
      · rintro rfl
        exact ⟨rfl, by omega⟩
      · exact fun h => h.1

/-- A text that was read as not empty is not. -/
theorem ne_empty_of_nonEmptyText {v : Value} {s : String} (h : nonEmptyText v = .ok s) :
    s ≠ "" := by
  unfold nonEmptyText at h
  split at h
  · simp at h
  · split at h
    · simp at h
    · next nonempty =>
      cases h
      rintro rfl
      exact nonempty rfl

end Checked

end SignedLink
