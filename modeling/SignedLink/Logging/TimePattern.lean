import SignedLink.Logging.Entry
import SignedLink.Text.Search
import SignedLink.Value.Fault
/-!
# SignedLink — times by a pattern

A time is written by a pattern. In a pattern without percent signs certain
words of letters stand for fields of the time; a word in square brackets stands
for itself. In a pattern with percent signs a field is a percent sign and a
letter. Everything else stands for itself, and a pattern that ends in `!UTC`
shows universal time.
-/

namespace SignedLink.Logging.TimePattern

/-! ## Fields of a time -/

def monthNames : List String :=
  ["January", "February", "March", "April", "May", "June", "July", "August", "September",
    "October", "November", "December"]

def weekdayNames : List String :=
  ["Monday", "Tuesday", "Wednesday", "Thursday", "Friday", "Saturday", "Sunday"]

/-- A name from a list by its number. -/
def named (names : List String) (n : Int) : List Char :=
  (names.getD n.toNat "").toList

/-- The days of the year up to a day. -/
def dayOfYear (m : Moment) : Int :=
  Moment.toDays m.year m.month m.day - Moment.toDays m.year 1 1 + 1

/-- The day of the week, counted from Monday as 0. -/
def weekday (m : Moment) : Int :=
  (Moment.toDays m.year m.month m.day + 3) % 7

/-- The hour of the half day, from 1 to 12. -/
def halfHour (m : Moment) : Int :=
  (m.hour + 11) % 12 + 1

/-- Before or after noon. -/
def halfName (m : Moment) : List Char :=
  if m.hour < 12 then "AM".toList else "PM".toList

/-- How far a clock is ahead, in hours and minutes with a separator, and seconds if there are
any. -/
def offsetText (separator : List Char) (offset : Int) : List Char :=
  let n := offset.natAbs
  (if offset < 0 then '-' else '+') :: Text.decimalPadded 2 (n / 3600) ++
    separator ++ Text.decimalPadded 2 (n / 60 % 60) ++
    (if n % 60 = 0 then [] else separator ++ Text.decimalPadded 2 (n % 60))

/-- The name of the zone of a clock. -/
def zoneName (offset : Int) : List Char :=
  "UTC".toList ++ (if offset = 0 then [] else offsetText [':'] offset)

/-- The words for fields and the texts of the fields, longer words before those they begin with. -/
def words (t : Stamp) : List (List Char × List Char) :=
  let m := t.shown
  let number (n : Int) := Text.decimal n
  let padded (width : Nat) (n : Int) := Text.decimalPadded width n.toNat
  let fraction (width : Nat) := Text.decimalPadded width (t.micros / 10 ^ (6 - width))
  [("HH", padded 2 m.hour), ("H", number m.hour),
    ("hh", padded 2 (halfHour m)), ("h", number (halfHour m)),
    ("mm", padded 2 m.minute), ("m", number m.minute),
    ("ss", padded 2 m.second), ("s", number m.second),
    ("SSSSSS", fraction 6), ("SSSSS", fraction 5), ("SSSS", fraction 4), ("SSS", fraction 3),
    ("SS", fraction 2), ("S", fraction 1),
    ("YYYY", padded 4 m.year), ("YY", padded 2 (m.year % 100)),
    ("MMMM", named monthNames (m.month - 1)), ("MMM", (named monthNames (m.month - 1)).take 3),
    ("MM", padded 2 m.month), ("M", number m.month),
    ("DDDD", padded 3 (dayOfYear m)), ("DDD", number (dayOfYear m)),
    ("DD", padded 2 m.day), ("D", number m.day),
    ("ZZ", offsetText [] t.offset), ("Z", offsetText [':'] t.offset),
    ("zz", zoneName t.offset), ("A", halfName m),
    ("X", number t.seconds), ("x", number (t.seconds * 1000000 + t.micros)),
    ("E", number (weekday m + 1)), ("Q", number ((m.month - 1) / 3 + 1)),
    ("dddd", named weekdayNames (weekday m)), ("ddd", (named weekdayNames (weekday m)).take 3),
    ("d", number (weekday m))].map fun (word, text) => (word.toList, text)

/-- The letters for fields behind percent signs and the texts of the fields. -/
def letters (t : Stamp) : List (Char × List Char) :=
  let m := t.shown
  let padded (width : Nat) (n : Int) := Text.decimalPadded width n.toNat
  [('Y', padded 1 m.year), ('y', padded 2 (m.year % 100)), ('m', padded 2 m.month),
    ('d', padded 2 m.day), ('j', padded 3 (dayOfYear m)), ('H', padded 2 m.hour),
    ('I', padded 2 (halfHour m)), ('p', halfName m), ('M', padded 2 m.minute),
    ('S', padded 2 m.second), ('f', padded 6 t.micros), ('F', Stamp.dayText 1 m),
    ('T', Stamp.clockText m), ('B', named monthNames (m.month - 1)),
    ('b', (named monthNames (m.month - 1)).take 3), ('A', named weekdayNames (weekday m)),
    ('a', (named weekdayNames (weekday m)).take 3), ('s', Text.decimal t.seconds),
    ('z', offsetText [] t.offset), ('Z', zoneName t.offset), ('n', ['\n']), ('t', ['\t']),
    ('%', ['%'])]

/-! ## Writing -/

/-- What a pattern begins with: how many characters that is, and what is written for them. -/
abbrev Beginning := List Char → Option (Nat × List Char)

/-- A word for a field, or a word in square brackets. -/
def wordAt? (words : List (List Char × List Char)) : Beginning := fun cs =>
  match words.find? fun field => field.1.isPrefixOf cs with
  | some (word, text) => some (word.length, text)
  | none =>
    let bracketed := words.map (·.1) ++ ["!UTC".toList, []]
    (bracketed.find? fun word => ('[' :: word ++ [']']).isPrefixOf cs).map fun word =>
      (word.length + 2, word)

/-- A percent sign and a letter. An unknown letter stands for itself with its percent sign. -/
def letterAt? (letters : List (Char × List Char)) : Beginning
  | '%' :: letter :: _ => some (2, (letters.lookup letter).getD ['%', letter])
  | _ => none

/-- The text of a pattern, after dropping `skip` characters that have been read. -/
def writtenFrom (beginning : Beginning) : (skip : Nat) → List Char → List Char
  | _, [] => []
  | skip + 1, _ :: rest => writtenFrom beginning skip rest
  | 0, c :: rest =>
    match beginning (c :: rest) with
    | some (taken, text) => text ++ writtenFrom beginning (taken - 1) rest
    | none => c :: writtenFrom beginning 0 rest

/-- The text of a pattern. -/
def written (beginning : Beginning) (pattern : List Char) : List Char :=
  writtenFrom beginning 0 pattern

/-- The end of a pattern for universal time. -/
def universalMark : List Char := "!UTC".toList

/-- The pattern of a time for which none is given. -/
def usual : List Char := "%Y-%m-%dT%H:%M:%S.%f%z".toList

/-- A time by a pattern; there are no fractions of a second beyond millionths. -/
def text? (pattern : List Char) (t : Stamp) : Except PathFlaw (List Char) :=
  let universal := universalMark.isSuffixOf pattern
  let pattern :=
    if universal then pattern.take (pattern.length - universalMark.length) else pattern
  let t := if universal then { t with offset := 0 } else t
  let pattern := if pattern.isEmpty then usual else pattern
  if pattern.contains '%' then .ok (written (letterAt? (letters t)) pattern)
  else if Text.occursIn "SSSSSSS".toList pattern then .error .tooFine
  else .ok (written (wordAt? (words t)) pattern)

end SignedLink.Logging.TimePattern
