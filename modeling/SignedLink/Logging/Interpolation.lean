import SignedLink.Number.Fixed
import SignedLink.Value.Numeral
/-!
# SignedLink — messages with placeholders

A message is a template and its arguments. A placeholder begins with `%` and
ends with the letter of a conversion; between them stand, each of them
optional, the name of an argument in parentheses, flags, a width, a number of
places behind a point and a size that has no meaning. Two percent signs stand
for one. The template is read one character at a time, and the arguments are
taken as they are needed.
-/

namespace SignedLink.Logging

/-- How a placeholder is laid out. -/
structure Layout where
  /-- the text stands at the left of its width -/
  left : Bool
  /-- a plus before what is not negative -/
  plus : Bool
  /-- a space before what is not negative -/
  space : Bool
  /-- the mark of the base, or the point, is written -/
  marked : Bool
  /-- zeros fill the width -/
  zeros : Bool
  width : Nat
  places : Option Nat

namespace Layout

/-- Nothing asked for. -/
def plain : Layout := ⟨false, false, false, false, false, 0, none⟩

/-- What fills the width beside a text of the given length. -/
def filling (l : Layout) (c : Char) (length : Nat) : List Char :=
  List.replicate (l.width - length) c

/-- A text in its width, cut to the places. -/
def placeText (l : Layout) (cs : List Char) : List Char :=
  let cs := match l.places with
    | some n => cs.take n
    | none => cs
  if l.left then cs ++ l.filling ' ' cs.length else l.filling ' ' cs.length ++ cs

/-- The sign of a number. -/
def sign (l : Layout) (negative : Bool) : List Char :=
  if negative then ['-'] else if l.plus then ['+'] else if l.space then [' '] else []

/-- A number in its width: sign and mark, then the digits. -/
def placeNumber (l : Layout) (negative : Bool) (mark digits : List Char) : List Char :=
  let start := l.sign negative ++ mark
  let length := start.length + digits.length
  if l.left then start ++ digits ++ l.filling ' ' length
  else if l.zeros then start ++ l.filling '0' length ++ digits
  else l.filling ' ' length ++ start ++ digits

/-- A whole number in the digits of a base. -/
def placeWhole (l : Layout) (mark : List Char) (digits : Nat → List Char) (n : Int) : List Char :=
  let text := digits n.natAbs
  let text := List.replicate (l.places.getD 0 - text.length) '0' ++ text
  l.placeNumber (decide (n < 0)) (if l.marked then mark else []) text

/-- A number with places, six if none are given. -/
def placeReal (l : Layout) (shape : Fixed.Shape) (capital : Bool) (x : Binary64) : List Char :=
  let text := shape.magnitude l.marked (l.places.getD 6) x
  l.placeNumber x.isNegative [] (if capital then text.map Char.toUpper else text)

end Layout

/-! ## Conversions -/

/-- The shown form of a value in ASCII. -/
def asciiShown (v : Value) : List Char :=
  v.shownChars.flatMap fun c => if c.toNat < 127 then [c] else Text.numericEscape c.toNat

/-- The whole number of a value, dropping what follows the point. -/
def wholeArgument (conversion : Char) (v : Value) : Except Fault Int :=
  match v with
  | .integer _ | .boolean _ | .real _ => v.toInteger
  | v => .error (.badTemplate (.notReal conversion v.typeName))

/-- The number of a value that is whole by its kind. -/
def exactArgument (conversion : Char) : Value → Except Fault Int
  | .integer n => .ok n
  | .boolean b => .ok (if b then 1 else 0)
  | v => .error (.badTemplate (.notWhole conversion v.typeName))

/-- The number of a value. -/
def realArgument : Value → Except Fault Binary64
  | .real x => .ok x
  | .boolean b => .ok (.ofInt (if b then 1 else 0))
  | .integer n =>
    match Binary64.ofInt n with
    | .infinite _ => .error (.badTemplate .tooLarge)
    | x => .ok x
  | v => .error (.badTemplate (.notDecimal v.typeName))

/-- The character of a value: one that a text consists of, or one of that number. -/
def characterArgument : Value → Except Fault Char
  | .text s =>
    match s.toList with
    | [c] => .ok c
    | _ => .error (.badTemplate .notCharacter)
  | .integer n =>
    if 0 ≤ n ∧ n < 0x110000 then .ok (.ofNat n.toNat) else .error (.badTemplate .beyondCharacters)
  | .boolean b => .ok (.ofNat (if b then 1 else 0))
  | _ => .error (.badTemplate .notCharacter)

/-- The most digits that a whole number is written with. -/
def digitLimit : Nat := 2 ^ (31 : Nat) - 4

/-- The length of the longest text that is held. -/
def lengthLimit : Nat := 2 ^ (30 : Nat)

/-- More significant digits than these a number with places does not have. -/
def significantLimit : Nat := 1100

/-- What a layout asks for beyond what can be had, when at least so many characters are written. -/
def Layout.excess? (l : Layout) (written : Nat) : Option TemplateFlaw :=
  if lengthLimit < max l.width written then some .textTooLong else none

/-- What a layout asks for beyond what can be had of a whole number. -/
def Layout.wholeExcess? (l : Layout) : Option TemplateFlaw :=
  let places := l.places.getD 0
  if digitLimit < places then some .placesTooMany else l.excess? places

/-- The text of an argument, which has to be of the right kind first; then the layout must not ask
for too much. -/
def placed {α : Type} (excess : Option TemplateFlaw) (argument : Except Fault α)
    (text : α → List Char) : Except Fault (List Char) :=
  match argument, excess with
  | .error f, _ => .error f
  | .ok _, some flaw => .error (.badTemplate flaw)
  | .ok a, none => .ok (text a)

/-- A value in the place of a placeholder, whose conversion stands at an index of the template. -/
def convert (l : Layout) (conversion : Char) (index : Nat) (v : Value) :
    Except Fault (List Char) :=
  let text (cs : Value → List Char) := placed (l.excess? 0) (.ok v) fun v => l.placeText (cs v)
  let whole :=
    placed l.wholeExcess? (wholeArgument conversion v) (l.placeWhole [] (Nat.toDigits 10))
  let based (mark : String) (digits : Nat → List Char) :=
    placed l.wholeExcess? (exactArgument conversion v) (l.placeWhole mark.toList digits)
  let real (shape : Fixed.Shape) (capital : Bool) :=
    placed (l.excess? (l.places.getD 0)) (realArgument v) (l.placeReal shape capital)
  let short (capital : Bool) :=
    if l.marked then real .general capital
    else
      let l := { l with places := l.places.map (min significantLimit) }
      placed (l.excess? 0) (realArgument v) (l.placeReal .general capital)
  match conversion with
  | 's' => text fun v => v.plain.toList
  | 'r' => text Value.shownChars
  | 'a' => text asciiShown
  | 'd' | 'i' | 'u' => whole
  | 'x' => based "0x" Text.hex
  | 'X' => based "0X" (fun n => (Text.hex n).map Char.toUpper)
  | 'o' => based "0o" (Nat.toDigits 8)
  | 'f' => real .positional false
  | 'F' => real .positional true
  | 'e' => real .scientific false
  | 'E' => real .scientific true
  | 'g' => short false
  | 'G' => short true
  | 'c' =>
    placed (l.excess? 0) (characterArgument v) fun c => { l with places := none }.placeText [c]
  | c => .error (.badTemplate (.unknownConversion c index))

/-! ## Reading a template -/

/-- Where in a template the reading stands. -/
inductive Stage where
  /-- outside of placeholders -/
  | literal
  /-- just behind the percent sign -/
  | opened
  /-- in the name of an argument, which has been read in reverse, and inside so many parentheses -/
  | name (depth : Nat) (read : List Char)
  | flags
  | width
  /-- just behind the point -/
  | point
  | places
  /-- where only a size or the conversion can follow -/
  | size
  | conversion

/-- A template being filled in. -/
structure Filling where
  stage : Stage
  layout : Layout
  /-- the arguments by name, if they have names -/
  named : Option Fields
  /-- the arguments that are next -/
  next : List Value

namespace Filling

/-- The next argument. -/
def take (s : Filling) : Except Fault (Value × Filling) :=
  match s.next with
  | [] => .error (.badTemplate .missingArgument)
  | v :: rest => .ok (v, { s with next := rest })

/-- The greatest width. -/
def widthLimit : Nat := 2 ^ (63 : Nat) - 1

/-- The greatest number of places. -/
def placesLimit : Nat := 2 ^ (31 : Nat) - 1

/-- The next argument as a width or a number of places, up to a limit. -/
def takeWhole (s : Filling) (limit : Nat) (beyond : TemplateFlaw) : Except Fault (Int × Filling) :=
  match s.take with
  | .error f => .error f
  | .ok (.integer n, s) =>
    if -(limit + 1 : Int) ≤ n ∧ n ≤ limit then .ok (n, s) else .error (.badTemplate beyond)
  | .ok (.boolean b, s) => .ok (if b then 1 else 0, s)
  | .ok _ => .error (.badTemplate .widthNotWhole)

/-- The layout with a flag. -/
def flag? (l : Layout) (c : Char) : Option Layout :=
  match c with
  | '-' => some { l with left := true }
  | '+' => some { l with plus := true }
  | ' ' => some { l with space := true }
  | '#' => some { l with marked := true }
  | '0' => some { l with zeros := true }
  | _ => none

/-- Ends a placeholder at its conversion. -/
def close (s : Filling) (index : Nat) (c : Char) : Except Fault (Filling × List Char) :=
  match s.take with
  | .error f => .error f
  | .ok (v, s) =>
    match convert s.layout c index v with
    | .error f => .error f
    | .ok cs => .ok ({ s with stage := .literal }, cs)

/-- A size, which has no meaning, or the conversion. -/
def closeSized (s : Filling) (index : Nat) (c : Char) : Except Fault (Filling × List Char) :=
  if c == 'h' || c == 'l' || c == 'L' then .ok ({ s with stage := .conversion }, [])
  else s.close index c

/-- What may follow a width. -/
def afterWidth (s : Filling) (index : Nat) (c : Char) : Except Fault (Filling × List Char) :=
  if c == '.' then
    .ok ({ s with stage := .point, layout := { s.layout with places := some 0 } }, [])
  else s.closeSized index c

/-- A digit of the width, or what may follow it. -/
def widthDigit (s : Filling) (index : Nat) (c : Char) : Except Fault (Filling × List Char) :=
  if Text.isAsciiDigit c then
    let width := 10 * s.layout.width + (c.toNat - 48)
    if widthLimit < width then .error (.badTemplate .widthTooBig)
    else .ok ({ s with stage := .width, layout := { s.layout with width := width } }, [])
  else s.afterWidth index c

/-- A flag, the start of the width, or what may follow it. A negative width from the arguments is
a flag and a width. -/
def flagOrWidth (s : Filling) (index : Nat) (c : Char) : Except Fault (Filling × List Char) :=
  match flag? s.layout c with
  | some layout => .ok ({ s with stage := .flags, layout := layout }, [])
  | none =>
    if c == '*' then
      match s.takeWhole widthLimit .widthBeyondRange with
      | .error f => .error f
      | .ok (n, s) =>
        let layout := { s.layout with width := n.natAbs, left := s.layout.left || decide (n < 0) }
        .ok ({ s with stage := .size, layout := layout }, [])
    else s.widthDigit index c

/-- A digit of the number of places, or what may follow it. -/
def placesDigit (s : Filling) (index : Nat) (c : Char) : Except Fault (Filling × List Char) :=
  if Text.isAsciiDigit c then
    let places := 10 * s.layout.places.getD 0 + (c.toNat - 48)
    if placesLimit < places then .error (.badTemplate .placesTooBig)
    else .ok ({ s with stage := .places, layout := { s.layout with places := some places } }, [])
  else s.closeSized index c

/-- The argument of a name becomes the next one. -/
def choose (s : Filling) (fields : Fields) (name : String) : Except Fault Filling :=
  match fields.find? name with
  | some v => .ok { s with stage := .flags, next := [v] }
  | none => .error (.badTemplate (.noArgument name))

/-- One character of the template. -/
def step (s : Filling) (index : Nat) (c : Char) : Except Fault (Filling × List Char) :=
  match s.stage with
  | .literal =>
    if c == '%' then .ok ({ s with stage := .opened, layout := .plain }, []) else .ok (s, [c])
  | .opened =>
    if c == '%' then .ok ({ s with stage := .literal }, ['%'])
    else if c == '(' then
      match s.named with
      | none => .error (.badTemplate .unnamedArguments)
      | some _ => .ok ({ s with stage := .name 0 [] }, [])
    else s.flagOrWidth index c
  | .name depth read =>
    if c == ')' then
      match depth with
      | depth + 1 => .ok ({ s with stage := .name depth (c :: read) }, [])
      | 0 => (s.choose (s.named.getD []) (.ofList read.reverse)).map fun s => (s, [])
    else .ok ({ s with stage := .name (if c == '(' then depth + 1 else depth) (c :: read) }, [])
  | .flags => s.flagOrWidth index c
  | .width => s.widthDigit index c
  | .point =>
    if c == '*' then
      match s.takeWhole placesLimit .placesBeyondRange with
      | .error f => .error f
      | .ok (n, s) =>
        .ok ({ s with stage := .size, layout := { s.layout with places := some n.toNat } }, [])
    else s.placesDigit index c
  | .places => s.placesDigit index c
  | .size =>
    if s.layout.places.isSome then s.closeSized index c else s.afterWidth index c
  | .conversion => s.close index c

/-- What is wrong when the template ends here. -/
def finish (s : Filling) : Except Fault (List Char) :=
  match s.stage with
  | .literal =>
    if s.named.isNone && !s.next.isEmpty then .error (.badTemplate .surplusArguments) else .ok []
  | .name .. => .error (.badTemplate .unclosedName)
  | _ => .error (.badTemplate .unclosed)

end Filling

/-- Fills in the rest of a template. -/
def fill (s : Filling) (index : Nat) : List Char → Except Fault (List Char)
  | [] => s.finish
  | c :: rest =>
    match s.step index c with
    | .error f => .error f
    | .ok (s, before) => (fill s (index + 1) rest).map (before ++ ·)

/-- The start of a template. Arguments that are a single record with fields have names. -/
def Filling.start (arguments : List Value) : Filling :=
  match arguments with
  | [.record (field :: fields)] =>
    ⟨.literal, .plain, some (field :: fields), [.record (field :: fields)]⟩
  | arguments => ⟨.literal, .plain, none, arguments⟩

/-- The message of a template and its arguments. A template without arguments has no
placeholders. -/
def interpolate (template : String) (arguments : List Value) : Except Fault String :=
  if arguments.isEmpty then .ok template
  else (fill (.start arguments) 0 template.toList).map .ofList

end SignedLink.Logging
