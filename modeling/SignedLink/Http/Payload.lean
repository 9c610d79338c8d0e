import SignedLink.Json.Reader
import SignedLink.Text.Utf8
import SignedLink.Text.WideUnits
import SignedLink.Validation
/-!
# SignedLink — payloads

What comes with a request is JSON when its content type says so, and else a
text. JSON may be in UTF-8, UTF-16 or UTF-32: a byte order mark tells which, and
without one the places of zero octets do, since JSON begins with ASCII. Each of
them can spell a half of a surrogate pair that stands alone, and so can an escape.
-/

namespace SignedLink.Http

/-- The encoding of a JSON text, and the octets of its mark. -/
structure Encoding where
  /-- the octets of a unit -/
  width : Nat
  order : Text.Wide.Order
  mark : Nat
deriving DecidableEq

namespace Encoding

def utf8 : Encoding := ⟨1, .big, 0⟩

/-- The byte order marks, longer ones before those that they begin with. -/
def marks : List (List UInt8 × Encoding) :=
  [([0x00, 0x00, 0xFE, 0xFF], ⟨4, .big, 4⟩),
    ([0xFF, 0xFE, 0x00, 0x00], ⟨4, .little, 4⟩),
    ([0xFE, 0xFF], ⟨2, .big, 2⟩),
    ([0xFF, 0xFE], ⟨2, .little, 2⟩),
    ([0xEF, 0xBB, 0xBF], ⟨1, .big, 3⟩)]

/-- The encoding that the first zeros tell. -/
def unmarked : List UInt8 → Encoding
  | a :: b :: c :: d :: _ =>
    if a == 0 then (if b == 0 then ⟨4, .big, 0⟩ else ⟨2, .big, 0⟩)
    else if b == 0 then (if c == 0 && d == 0 then ⟨4, .little, 0⟩ else ⟨2, .little, 0⟩)
    else utf8
  | [a, b] => if a == 0 then ⟨2, .big, 0⟩ else if b == 0 then ⟨2, .little, 0⟩ else utf8
  | _ => utf8

/-- The encoding that a mark or the first zeros tell. -/
def detect (octets : List UInt8) : Encoding :=
  match marks.find? (·.1.isPrefixOf octets) with
  | some mark => mark.2
  | none => unmarked octets

/-- The text of octets after the mark. -/
def decode (encoding : Encoding) (octets : List UInt8) : Option (List Text.CodePoint) :=
  let text := octets.drop encoding.mark
  if encoding.width == 4 then Text.Wide.decode32 encoding.order text
  else if encoding.width == 2 then Text.Wide.decode16 encoding.order text
  else Text.Utf8.decodePoints text

end Encoding

/-! ## Content types -/

/-- The two parts of a content type without its parameters, in lower case. -/
def mediaType? (contentType : String) : Option (List Char × List Char) :=
  let essence := Text.trimChars (contentType.toList.takeWhile (· != ';'))
  match (essence.map Char.toLower).splitOn '/' with
  | [main, sub] => some (main, sub)
  | _ => none

/-- Whether a content type is that of JSON. -/
def isJson : Option String → Bool
  | none => false
  | some contentType =>
    match mediaType? contentType with
    | some (main, sub) =>
      main == "application".toList && (sub == "json".toList || "+json".toList.isSuffixOf sub)
    | none => false

/-! ## Reading -/

/-- What a payload holds. -/
inductive Payload where
  | nothing
  | value (v : Value)
  /-- JSON with halves of surrogate pairs in its texts or names -/
  | broken (d : Json.Document)
  /-- JSON with a flaw at a character -/
  | flawed (flaw : Json.Malformed)
  /-- octets that cannot be read as a text, numbers too long to be read, or values inside too many
  others -/
  | unreadable
  /-- octets that are no UTF-8 where no JSON is said to be -/
  | octets

/-- Reads octets as JSON. -/
def readJson (octets : List UInt8) : Payload :=
  match (Encoding.detect octets).decode octets with
  | none => .unreadable
  | some text =>
    match Json.readDocument text with
    | .ok d => if d.isWhole then .value d.seen else .broken d
    | .error e =>
      if e.flaw = .longNumeral ∨ e.flaw = .tooDeep then .unreadable else .flawed e

/-- Reads what came with a request. -/
def Payload.read (contentType : Option String) (octets : List UInt8) : Payload :=
  if octets.isEmpty then .nothing
  else if isJson contentType then readJson octets
  else
    match Text.Utf8.decode octets with
    | .ok cs => .value (.text (.ofList cs))
    | .error _ => .octets

end SignedLink.Http
