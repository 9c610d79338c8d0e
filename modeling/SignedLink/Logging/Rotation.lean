import SignedLink.Number.Binary64
import SignedLink.Text.Blank
import SignedLink.Text.Digit
import SignedLink.Text.LowerCase
import SignedLink.Value.Fault
/-!
# SignedLink — rotation rules

The rule by which a log file is replaced by a new one: a size (`10 MB`), a
duration (`1 week, 2 days`), a frequency (`daily`), or a day of the week, a
time of day or both (`monday at 12:00`). A rule is tried as each of them in
this order. A rule that has the form of one but holds an amount, a unit, a day
or a time that does not exist is refused at once.

The amounts of a duration are added up as binary numbers, and the sum is counted
in millionths of a second, within bounds on the number of days.
-/

namespace SignedLink.Logging

/-- When a log file is replaced. -/
inductive Rotation where
  /-- when it has grown too large -/
  | bySize
  /-- after so many millionths of a second -/
  | after (micros : Int)
  /-- at set times -/
  | atTimes
deriving DecidableEq

namespace Rotation

/-! ## Character classes -/

/-- The lower case of a letter, and the plain letter for four letters that count as a variant of
it. -/
def plainLetter (c : Char) : Char :=
  if c.toNat == 0x212A then 'k'
  else if c.toNat == 0x17F then 's'
  else if c.toNat == 0x130 || c.toNat == 0x131 then 'i'
  else c.toLower

/-- Whether the character is a letter of a unit. -/
def isLetter (c : Char) : Bool :=
  let l := plainLetter c
  decide ('a' ≤ l) && decide (l ≤ 'z')

def isDigit (c : Char) : Bool :=
  (Text.digitValue? c).isSome

/-- Whether the character can be part of an amount. -/
def isAmount (c : Char) : Bool :=
  c == 'e' || c == 'E' || c == '+' || c == '-' || c == '.' || isDigit c

/-! ## Amounts -/

/-- The number of a row of digits of any script. -/
def number (digits : List Char) : Nat :=
  digits.foldl (fun n c => 10 * n + (Text.digitValue? c).getD 0) 0

/-- A sign at the front, and the rest. -/
def signAndRest : List Char → Bool × List Char
  | '+' :: rest => (false, rest)
  | '-' :: rest => (true, rest)
  | rest => (false, rest)

/-- The exponent that a text is: nothing, or a letter and digits with a sign or without. -/
def exponent? : List Char → Option Int
  | [] => some 0
  | c :: rest =>
    let (negative, digits) := signAndRest rest
    if (c == 'e' || c == 'E') && !digits.isEmpty && digits.all isDigit then
      some (if negative then -(number digits : Int) else number digits)
    else none

/-- The number that an amount is, if it is a decimal number. -/
def amount? (cs : List Char) : Option Binary64 :=
  let (negative, body) := signAndRest cs
  let whole := body.takeWhile isDigit
  let (places, rest) :=
    match body.drop whole.length with
    | '.' :: rest => (rest.takeWhile isDigit, rest.dropWhile isDigit)
    | rest => ([], rest)
  if whole.isEmpty && places.isEmpty then none
  else
    (exponent? rest).map fun exponent =>
      .ofDecimal negative (number (whole ++ places)) (exponent - places.length)

/-! ## Sizes -/

/-- Whether the text is a unit of size: bits or bytes, with a factor of a thousand or 1024. -/
def isSizeUnit (cs : List Char) : Bool :=
  let letters := cs.map plainLetter
  let letters := match letters with
    | c :: rest => if "kmgtpezy".toList.contains c then rest else letters
    | [] => []
  letters == ['b'] || letters == ['i', 'b']

/-- The amount of a text that has the form of a size. -/
def sizeAmount? (cs : List Char) : Option (List Char) :=
  let amount := cs.takeWhile isAmount
  let unit := (cs.dropWhile isAmount).dropWhile Text.isBlank
  if !amount.isEmpty && isSizeUnit unit then some amount else none

/-! ## Durations -/

/-- The units of time with their words, and the seconds of each. -/
def timeUnits : List (List String × Binary64) :=
  [(["y", "year", "years"], .ofInt 31536000), (["month", "months"], .ofInt 2628000),
    (["w", "week", "weeks"], .ofInt 604800), (["d", "day", "days"], .ofInt 86400),
    (["h", "hour", "hours"], .ofInt 3600), (["min", "mins", "minute", "minutes"], .ofInt 60),
    (["s", "sec", "secs", "second", "seconds"], .ofInt 1),
    (["ms", "millisecond", "milliseconds"], .ofDecimal false 1 (-3)),
    (["us", "microsecond", "microseconds"], .ofDecimal false 1 (-6))]

/-- The seconds of the unit that a word is for. -/
def unit? (word : List Char) : Option Binary64 :=
  (timeUnits.find? fun unit => unit.1.contains (.ofList (word.map plainLetter))).map (·.2)

/-- Whether the character can stand between an amount with its unit and the next. -/
def isSeparator (c : Char) : Bool :=
  Text.isBlank c || c == ','

/-- What the end of a text can be, as a series of amounts with units. An `e` may belong to an amount
or to a unit, so that several can hold at once. -/
structure Progress where
  amount : Bool
  /-- blanks between an amount and its unit -/
  gap : Bool
  unit : Bool
  /-- what separates a unit from the next amount -/
  separator : Bool

/-- One character further. -/
def Progress.step (p : Progress) (c : Char) : Progress where
  amount := (p.amount || p.unit || p.separator) && isAmount c
  gap := (p.amount || p.gap) && Text.isBlank c
  unit := (p.amount || p.gap || p.unit) && isLetter c
  separator := (p.unit || p.separator) && isSeparator c

/-- Whether the text is a series of amounts with units. -/
def isDuration : List Char → Bool
  | [] => false
  | c :: rest =>
    let last := rest.foldl Progress.step ⟨isAmount c, false, false, false⟩
    last.unit || last.separator

/-- The amount and the unit at the start of a text and what follows them. As much as possible goes
to the amount; when no unit is left behind it, the unit begins at its last letter. -/
def firstPart? (cs : List Char) : Option (List Char × List Char × List Char) :=
  let amount := cs.takeWhile isAmount
  let unit := ((cs.drop amount.length).dropWhile Text.isBlank)
  if amount.isEmpty then none
  else if (unit.head?.map isLetter).getD false then
    some (amount, unit.takeWhile isLetter, unit.dropWhile isLetter)
  else
    let shorter := ((amount.reverse.dropWhile fun c => !isLetter c).drop 1).length
    let unit := cs.drop shorter
    if shorter == 0 then none
    else some (cs.take shorter, unit.takeWhile isLetter, unit.dropWhile isLetter)

/-- The amounts and units of a text, up to so many of them. -/
def parts : Nat → List Char → List (List Char × List Char)
  | 0, _ => []
  | n + 1, cs =>
    match firstPart? cs with
    | none => if cs.isEmpty then [] else parts n (cs.drop 1)
    | some (amount, unit, rest) => (amount, unit) :: parts n (rest.dropWhile isSeparator)

/-- The seconds of an amount of a unit. -/
def partSeconds (part : List Char × List Char) : Except RotationFlaw Binary64 :=
  match amount? part.1, unit? part.2 with
  | none, _ => .error (.badDuration (.ofList part.1))
  | some _, none => .error (.badUnit (.ofList part.2))
  | some amount, some unit => .ok (amount.mul unit)

/-- The seconds of amounts of units, added up from the first on. -/
def totalSeconds (sum : Binary64) :
    List (List Char × List Char) → Except RotationFlaw Binary64
  | [] => .ok sum
  | part :: rest =>
    match partSeconds part with
    | .error flaw => .error flaw
    | .ok seconds => totalSeconds (sum.add seconds) rest

/-- The millionths of a day. -/
def dayMicros : Int := 86400000000

/-- The most days that a duration may have in either direction. -/
def dayLimit : Int := 999999999

/-- The duration of a number of seconds in millionths; halves go to the even neighbour. -/
def ofSeconds : Binary64 → Except RotationFlaw Rotation
  | .nan => .error .durationNotNumber
  | .infinite _ => .error .durationInfinite
  | .finite negative m e =>
    let magnitude := Binary64.inUnits (m * 1000000) 1 (-e)
    let rounded : Int := Binary64.roundedQuotient magnitude.1 magnitude.2
    let micros := if negative then -rounded else rounded
    let days := micros / dayMicros
    if days < -(2 ^ (31 : Nat)) ∨ 2 ^ (31 : Nat) ≤ days then .error .durationTooLong
    else if days < -dayLimit ∨ dayLimit < days then .error (.durationOutOfRange days)
    else .ok (.after micros)

/-! ## Days and times -/

/-- The words for frequencies. -/
def frequencies : List String :=
  ["hourly", "daily", "weekly", "monthly", "yearly"]

/-- The days of the week. -/
def weekdays : List String :=
  ["monday", "tuesday", "wednesday", "thursday", "friday", "saturday", "sunday"]

/-- A text in lower case, without what surrounds it. -/
def lower (cs : List Char) : List Char :=
  Text.lower (Text.trimChars cs)

/-- Whether a text has a form. -/
inductive Fit where
  | other
  | right
  /-- the form, but with a value that does not exist -/
  | wrong
deriving DecidableEq

/-- Whether a text names a day of the week, by its word or as `w0` to `w6`. -/
def weekdayFit (cs : List Char) : Fit :=
  if weekdays.contains (.ofList (lower cs)) then .right
  else
    match lower cs with
    | 'w' :: digits =>
      if digits.isEmpty || !digits.all Text.isDigitForm then .other
      else if digits.all isDigit && decide (digits.length ≤ Fault.numeralLimit) &&
          decide (number digits < 7) then
        .right
      else .wrong
    | _ => .other

/-- Whether a text is an hour from 0 to 23. The first of two digits is one of ASCII. -/
def isHour : List Char → Bool
  | [d] => isDigit d
  | [c, d] =>
    ((c == '0' || c == '1') && isDigit d) || (c == '2' && decide ('0' ≤ d) && decide (d ≤ '3'))
  | _ => false

/-- Whether a text is an hour of the half day, from 1 to 12, in digits of ASCII. -/
def isHalfHour (cs : List Char) : Bool :=
  let hour := number cs
  (cs.length == 1 || cs.length == 2) && cs.all Text.isAsciiDigit && decide (1 ≤ hour) &&
    decide (hour ≤ 12)

/-- Whether a text is a number from 0 to 59. The first of two digits is one of ASCII. -/
def isSixtieth : List Char → Bool
  | [d] => isDigit d
  | [c, d] => decide ('0' ≤ c) && decide (c ≤ '5') && isDigit d
  | _ => false

/-- Whether a text is a number of seconds, which may have up to six places in digits of ASCII. -/
def isSeconds (cs : List Char) : Bool :=
  let whole := cs.takeWhile (· != '.')
  let fraction := match cs.drop whole.length with
    | [] => true
    | _ :: places => !places.isEmpty && decide (places.length ≤ 6) && places.all Text.isAsciiDigit
  isSixtieth whole && fraction

/-- Whether a text is a time of the half day, or of the whole day. -/
def isClock (half : Bool) (cs : List Char) : Bool :=
  let isHour := if half then isHalfHour else isHour
  match cs.splitOn ':' with
  | [hour] => isHour hour
  | [hour, minute] => !half && isHour hour && isSixtieth minute
  | [hour, minute, second] => isHour hour && isSixtieth minute && isSeconds second
  | _ => false

/-- Whether a text is a time of day. The half days have a blank before them, and their times are
whole hours or have seconds. -/
def timeFit (cs : List Char) : Fit :=
  let cs := Text.trimChars cs
  let digits := cs.takeWhile fun c => isDigit c || c == '.' || c == ':'
  let rest := cs.drop digits.length
  let word := (rest.dropWhile Text.isBlank).map plainLetter
  let half := word == ['a', 'm'] || word == ['p', 'm']
  if digits.isEmpty || !(rest.isEmpty || half) then .other
  else if (rest.isEmpty || (rest.head?.map Text.isBlank).getD false) && isClock half digits then
    .right
  else .wrong

/-- What follows an `at` between blanks at the start of a text. -/
def atWord? (cs : List Char) : Option (List Char) :=
  match cs with
  | c :: _ =>
    if Text.isBlank c then
      match cs.dropWhile Text.isBlank with
      | a :: t :: b :: rest =>
        if plainLetter a == 'a' && plainLetter t == 't' && Text.isBlank b then
          some (rest.dropWhile Text.isBlank)
        else none
      | _ => none
    else none
  | [] => none

/-- The day and the time around the first `at` that stands between blanks, both on one line;
`before` is what has been passed, the latest first. -/
def splitAt? (before : List Char) : List Char → Option (List Char × List Char)
  | [] => none
  | c :: rest =>
    match (atWord? (c :: rest)).filter fun time => !time.contains '\n' with
    | some time => some (before.reverse, time)
    | none => if c == '\n' then none else splitAt? (c :: before) rest

/-- What is wrong with a rule that can only be a day, a time or both. -/
def dayTimeFlaw? (rule : List Char) : Option RotationFlaw :=
  let cs := Text.trimChars rule
  match splitAt? [] cs with
  | some (day, time) =>
    if weekdayFit day != .right then some (.badDay (.ofList day))
    else if timeFit time != .right then some (.badTime (.ofList time))
    else none
  | none =>
    match weekdayFit cs, timeFit cs with
    | .wrong, _ => some (.badDay (.ofList cs))
    | _, .wrong => some (.badTime (.ofList cs))
    | .other, .other => some (.unknownForm (.ofList rule))
    | _, _ => none

/-! ## Rules -/

/-- The rotation of a rule. -/
def ofText (rule : String) : Except RotationFlaw Rotation :=
  let cs := Text.trimChars rule.toList
  match sizeAmount? cs with
  | some amount =>
    if (amount? amount).isSome then .ok .bySize else .error (.badSize (.ofList amount))
  | none =>
    if isDuration cs then
      match totalSeconds .zero (parts cs.length cs) with
      | .error flaw => .error flaw
      | .ok seconds => ofSeconds seconds
    else if frequencies.contains (.ofList (lower cs)) then .ok .atTimes
    else
      match dayTimeFlaw? rule.toList with
      | some flaw => .error flaw
      | none => .ok .atTimes

/-- The start of the year 10000, in millionths of a second since the start of 1970. -/
def calendarEnd : Int := 253402300800000000

/-- Whether there is a moment of the calendar at which a file is replaced that was begun at a time
in millionths of a second since the start of 1970. -/
def isReached (start : Int) : Rotation → Bool
  | .after micros => decide (0 < micros) && decide (start + micros < calendarEnd)
  | _ => true

end Rotation

end SignedLink.Logging
