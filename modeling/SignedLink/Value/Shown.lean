import SignedLink.Value.Basic
import SignedLink.Number.Shortest
import SignedLink.Text.Quoted
/-!
# SignedLink — values in messages

`Value.shown` is the exact form of a value in error messages: texts are
quoted, lists stand in brackets, records in braces. `Value.plain` is the same
except that a text stands for itself, as in log messages and in required text
options.
-/

namespace SignedLink.Value

mutual

/-- The exact form of a value. -/
def shownChars : Value → List Char
  | .null => "None".toList
  | .boolean b => if b then "True".toList else "False".toList
  | .integer n => Text.decimal n
  | .real x => Shortest.plain.text x
  | .text s => Text.quoted s.toList
  | .octets bytes => Text.quotedOctets bytes
  | .path p => p.toList
  | .list items => '[' :: (shownItems items ++ [']'])
  | .record fields => '\x7b' :: (shownFields fields ++ ['\x7d'])

/-- The items of a list, separated by a comma and a space. -/
def shownItems : List Value → List Char
  | [] => []
  | v :: rest => shownChars v ++ (if rest.isEmpty then [] else ", ".toList) ++ shownItems rest

/-- The fields of a record, each with its quoted name. -/
def shownFields : List (String × Value) → List Char
  | [] => []
  | (k, v) :: rest =>
    Text.quoted k.toList ++ ": ".toList ++ shownChars v ++
      (if rest.isEmpty then [] else ", ".toList) ++ shownFields rest

end

/-- The exact form of a value. -/
def shown (v : Value) : String :=
  .ofList v.shownChars

/-- The form of a value in running text: a text stands for itself. -/
def plain : Value → String
  | .text s => s
  | v => v.shown

end SignedLink.Value
