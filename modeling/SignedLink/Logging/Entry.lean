import SignedLink.Calendar
import SignedLink.Json.Writer
import SignedLink.Text.Hex
/-!
# SignedLink — log lines

An entry is what a sink gets to write: a message with its level, the place in
the program it comes from, the time, and further fields that were bound to it.
It is written in one of two forms. The pretty form is a template of markup into
which the message is put last, so the message itself is never read as markup.
The other form is one line of JSON, in which the fields of the entry itself
come first and cannot be replaced by bound ones.

A JSON line is kept with the entry as a further bound field, so that an entry
which is written twice is not the same entry the second time.

* `find?_payload`: the entry's own fields hold in the payload, whatever is bound.
* `extra_afterJson`: after writing, the line is bound under `_json`.
-/

namespace SignedLink.Logging

/-! ## Time -/

/-- A moment of the clock of some place. -/
structure Stamp where
  /-- the whole seconds since the start of 1970 in universal time -/
  seconds : Int
  /-- the millionths of a second beyond them -/
  micros : Nat
  /-- the seconds that the clock of the place is ahead -/
  offset : Int
deriving DecidableEq

namespace Stamp

/-- What the clock of the place shows. -/
def shown (t : Stamp) : Moment :=
  .ofSeconds (t.seconds + t.offset)

/-- The seconds since the start of 1970 with what is beyond them, to the nearest number. -/
def number (t : Stamp) : Binary64 :=
  let millionths := t.seconds * 1000000 + t.micros
  .ofRatio (decide (millionths < 0)) millionths.natAbs 1000000

/-- A field of a date or a time in at least so many digits. -/
def padded (width : Nat) (n : Int) : List Char :=
  Text.decimalPadded width n.toNat

/-- The time of day. -/
def clockText (m : Moment) : List Char :=
  padded 2 m.hour ++ ':' :: padded 2 m.minute ++ ':' :: padded 2 m.second

/-- The day of the year, with a year of so many digits at least. -/
def dayText (yearWidth : Nat) (m : Moment) : List Char :=
  padded yearWidth m.year ++ '-' :: padded 2 m.month ++ '-' :: padded 2 m.day

/-- How far the clock is ahead: hours and minutes, and the seconds if there are any. -/
def offsetText (offset : Int) : List Char :=
  let n := offset.natAbs
  let seconds := n % 60
  (if offset < 0 then '-' else '+') :: Text.decimalPadded 2 (n / 3600) ++
    Text.decimalPadded 2 (n / 60 % 60) ++
    (if seconds = 0 then [] else Text.decimalPadded 2 seconds)

/-- Date and time for a reader, to the thousandth of a second. -/
def prettyText (t : Stamp) : List Char :=
  dayText 4 t.shown ++ ' ' :: clockText t.shown ++ '.' :: Text.decimalPadded 3 (t.micros / 1000)

/-- Date and time with all that is known. -/
def fullText (t : Stamp) : List Char :=
  dayText 1 t.shown ++ 'T' :: clockText t.shown ++ '.' :: Text.decimalPadded 6 t.micros ++
    offsetText t.offset

end Stamp

/-! ## Entries -/

/-- Where and when a message was written. -/
structure Origin where
  time : Stamp
  /-- the name of the place, which need not be known -/
  name : Option String
  function : String
  line : Int

/-- What a sink gets to write. -/
structure Entry where
  origin : Origin
  /-- the name of the level -/
  level : String
  message : String
  /-- the fields that were bound to the message -/
  extra : Fields

namespace Entry

/-! ## The pretty form -/

/-- A name in which nothing can be taken for markup. -/
def unmarked (name : String) : List Char :=
  name.toList.map fun c => if c == '<' then '[' else if c == '>' then ']' else c

/-- A part of a template in a style. -/
def styled (style : String) (cs : List Char) : List Char :=
  '<' :: style.toList ++ '>' :: cs ++ "</".toList ++ style.toList ++ ['>']

/-- The name of the level in a column of eight. -/
def levelColumn (e : Entry) : List Char :=
  e.level.toList ++ List.replicate (8 - e.level.toList.length) ' '

/-- The template of the pretty form. The places for the message and for a failure are left open. -/
def template (e : Entry) : List Char :=
  styled "green" e.origin.time.prettyText ++ " | ".toList ++
    styled "level" e.levelColumn ++ " | ".toList ++
    styled "cyan" (unmarked (e.origin.name.getD "")) ++ ':' ::
    styled "cyan" (unmarked e.origin.function) ++ ':' ::
    styled "cyan" (Text.decimal e.origin.line) ++ " - ".toList ++
    styled "level" "\x7bmessage\x7d".toList ++ "\n\x7bexception\x7d".toList

/-! ## The JSON form -/

/-- The template of the JSON form, which is the line itself. -/
def jsonTemplate : String := "\x7bextra[_json]\x7d\n"

/-- The field under which the line is kept. -/
def lineField : String := "_json"

/-- The entry's own fields. -/
def ownFields (e : Entry) : Fields :=
  [("ts", .real e.origin.time.number),
    ("time", .text (.ofList e.origin.time.fullText)),
    ("level", .text e.level),
    ("logger", .ofText? e.origin.name),
    ("func", .text e.origin.function),
    ("line", .integer e.origin.line),
    ("message", .text e.message)]

/-- The names of the entry's own fields. -/
def ownNames : List String :=
  ["ts", "time", "level", "logger", "func", "line", "message"]

/-- The fields of the JSON form: the entry's own, then the bound ones of other names. -/
def payload (e : Entry) : Fields :=
  e.ownFields ++ e.extra.filter fun field => !ownNames.contains field.1

/-- The JSON text of the entry. -/
def json (e : Entry) : String :=
  Json.Style.logged.text (.record e.payload)

/-- The line that is written. -/
def jsonLine (e : Entry) : String :=
  e.json ++ "\n"

/-- The entry after its JSON form has been written. -/
def afterJson (e : Entry) : Entry :=
  { e with extra := e.extra.put lineField (.text e.json) }

/-! ## Elementary facts -/

theorem names_ownFields (e : Entry) : e.ownFields.map (·.1) = ownNames := rfl

/-- The entry's own fields hold in the payload, whatever is bound. -/
theorem find?_payload {e : Entry} {name : String} {v : Value}
    (own : e.ownFields.find? name = some v) : e.payload.find? name = some v := by
  simp only [Fields.find?, payload] at *
  rw [List.lookup_append, own]
  rfl

/-- After writing, the line is bound under `_json`. -/
theorem extra_afterJson (e : Entry) : e.afterJson.extra.find? lineField = some (.text e.json) :=
  Fields.find?_put_self ..

end Entry

end SignedLink.Logging
