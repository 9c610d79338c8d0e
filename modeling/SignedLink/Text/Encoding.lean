import SignedLink.Text.Utf8
import SignedLink.Text.WideUnits
/-!
# SignedLink — encodings of texts

A text file is in one of a few encodings, which go by several names each. Names
are compared without regard to case, and whatever stands between their letters
and digits counts as one separator. Each encoding refuses octets that it has no
character for and says where they stand.
-/

namespace SignedLink.Text

/-- The encoding of a text. -/
inductive Encoding where
  | utf8
  /-- UTF-8, with or without a mark in front -/
  | utf8Marked
  | ascii
  | latin1
  | windows1252
  /-- UTF-16 in an order of octets, or in the one that a mark in front tells -/
  | utf16 (order : Option Wide.Order)
deriving DecidableEq

/-- Why octets are no text in an encoding. -/
inductive Undecodable where
  | utf8 (piece : Utf8.Malformed)
  /-- an octet beyond ASCII -/
  | notAscii (octet : UInt8) (position : Nat)
  /-- an octet that stands for no character -/
  | noCharacter (octet : UInt8) (position : Nat)
  /-- half of a unit at the end -/
  | cutOff (order : Wide.Order) (octet : UInt8) (position : Nat)
  /-- a half of a surrogate pair that stands alone -/
  | loneHalf (order : Wide.Order) (flaw : Wide.HalfFlaw) (first last : Nat)
  /-- no mark that tells the order of octets -/
  | unmarked
deriving DecidableEq

/-- The name of UTF-16 in an order of octets. -/
def Wide.Order.encodingName : Wide.Order → String
  | .big => "utf-16-be"
  | .little => "utf-16-le"

/-- The message for octets that are no text. -/
def Undecodable.message : Undecodable → String
  | .utf8 piece => piece.message
  | .notAscii octet position => ofOctet "ascii" octet position "ordinal not in range(128)"
  | .noCharacter octet position =>
    ofOctet "charmap" octet position "character maps to <undefined>"
  | .cutOff order octet position => ofOctet order.encodingName octet position "truncated data"
  | .loneHalf order flaw first last =>
    "'" ++ order.encodingName ++ "' codec can't decode bytes in position " ++ toString first ++
      "-" ++ toString last ++ ": " ++ flaw.words
  | .unmarked => "UTF-16 stream does not start with BOM"
where
  ofOctet (encoding : String) (octet : UInt8) (position : Nat) (why : String) : String :=
    "'" ++ encoding ++ "' codec can't decode byte 0x" ++
      String.ofList (hexPadded 2 octet.toNat) ++ " in position " ++ toString position ++ ": " ++ why

namespace Encoding

/-! ## Names -/

/-- A name in the form in which it is compared; `apart` tells whether a separator is due. -/
def plainName (apart : Bool) : List Char → List Char
  | [] => []
  | c :: rest =>
    if c.isAlphanum || c == '.' then
      (if apart then ['_', c.toLower] else [c.toLower]) ++ plainName false rest
    else plainName true rest

/-- The encodings by name. -/
def names : List (Encoding × List String) :=
  [(.utf8, ["utf_8", "utf8", "u8", "utf", "cp65001", "utf8_ucs2", "utf8_ucs4"]),
    (.utf8Marked, ["utf_8_sig"]),
    (.ascii, ["ascii", "us_ascii", "us", "646", "ansi_x3.4_1968", "ansi_x3_4_1968",
      "ansi_x3.4_1986", "cp367", "csascii", "ibm367", "iso646_us", "iso_646.irv_1991",
      "iso_ir_6"]),
    (.latin1, ["latin_1", "latin1", "latin", "l1", "iso_8859_1", "iso8859_1", "iso8859", "8859",
      "iso_8859_1_1987", "iso_ir_100", "cp819", "ibm819", "csisolatin1"]),
    (.windows1252, ["cp1252", "windows_1252", "1252"]),
    (.utf16 none, ["utf_16", "utf16", "u16"]),
    (.utf16 (some .little), ["utf_16_le", "utf_16le", "unicodelittleunmarked"]),
    (.utf16 (some .big), ["utf_16_be", "utf_16be", "unicodebigunmarked"])]

/-- The encoding that goes by a name. -/
def ofName? (name : String) : Option Encoding :=
  let letters := name.toList.dropWhile fun c => !(c.isAlphanum || c == '.')
  let plain := String.ofList (plainName false letters)
  (names.find? fun entry => entry.2.contains plain).map (·.1)

/-! ## Decoding -/

/-- The code points of the octets `80` to `9F` in the encoding that fills the gap of Latin-1; those
that are zero stand for no character. -/
def windowsPoints : List Nat :=
  [0x20AC, 0, 0x201A, 0x0192, 0x201E, 0x2026, 0x2020, 0x2021, 0x02C6, 0x2030, 0x0160, 0x2039,
    0x0152, 0, 0x017D, 0, 0, 0x2018, 0x2019, 0x201C, 0x201D, 0x2022, 0x2013, 0x2014, 0x02DC,
    0x2122, 0x0161, 0x203A, 0x0153, 0, 0x017E, 0x0178]

/-- The character of an octet in that encoding. -/
def windowsCharacter? (octet : UInt8) : Option Char :=
  match if octet < 0x80 then none else windowsPoints[octet.toNat - 0x80]? with
  | none => some (Char.ofNat octet.toNat)
  | some 0 => none
  | some point => some (Char.ofNat point)

/-- The character of an octet in ASCII. -/
def asciiCharacter? (octet : UInt8) : Option Char :=
  if octet < 0x80 then some (Char.ofNat octet.toNat) else none

/-- Decodes octet by octet, from a position on. -/
def decodeEach (character? : UInt8 → Option Char) (refusal : UInt8 → Nat → Undecodable) :
    (position : Nat) → List UInt8 → Except Undecodable (List Char)
  | _, [] => .ok []
  | position, octet :: rest =>
    match character? octet with
    | none => .error (refusal octet position)
    | some c => (decodeEach character? refusal (position + 1) rest).map (c :: ·)

/-- Decodes units of two octets, of which so many octets have gone before. A half that stands alone
is found before half of a unit at the end. -/
def decodeUnits (order : Wide.Order) (before : Nat) (octets : List UInt8) :
    Except Undecodable (List Char) :=
  let total := before + octets.length
  let whole := (Wide.units16 order (octets.take (2 * (octets.length / 2)))).getD []
  match Wide.halfFlaw? total before whole with
  | some (flaw, first, last) => .error (.loneHalf order flaw first last)
  | none =>
    if octets.length % 2 = 0 then .ok (seen (Wide.points16 whole))
    else .error (.cutOff order (octets.getLast?.getD 0) (total - 1))

/-- Decodes units of two octets behind a mark, which has to be there if there is anything. -/
def decodeMarked : List UInt8 → Except Undecodable (List Char)
  | 0xFF :: 0xFE :: rest => decodeUnits .little 2 rest
  | 0xFE :: 0xFF :: rest => decodeUnits .big 2 rest
  | octets =>
    match decodeUnits .little 0 octets with
    | .ok [] => .ok []
    | .ok _ => .error .unmarked
    | .error e => .error e

/-- Decodes UTF-8. -/
def decodeUtf8 (octets : List UInt8) : Except Undecodable (List Char) :=
  match Utf8.decode octets with
  | .ok cs => .ok cs
  | .error piece => .error (.utf8 piece)

/-- The text of octets. -/
def decode (encoding : Encoding) (octets : List UInt8) : Except Undecodable (List Char) :=
  match encoding with
  | .utf8 => decodeUtf8 octets
  | .utf8Marked =>
    decodeUtf8 (if [0xEF, 0xBB, 0xBF].isPrefixOf octets then octets.drop 3 else octets)
  | .ascii => decodeEach asciiCharacter? .notAscii 0 octets
  | .latin1 => .ok (octets.map fun octet => Char.ofNat octet.toNat)
  | .windows1252 => decodeEach windowsCharacter? .noCharacter 0 octets
  | .utf16 (some order) => decodeUnits order 0 octets
  | .utf16 none => decodeMarked octets

end Encoding

end SignedLink.Text
