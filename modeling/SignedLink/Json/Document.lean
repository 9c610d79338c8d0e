import SignedLink.Text.CodePoint
import SignedLink.Value.Basic
/-!
# SignedLink — JSON documents

What a JSON text says. The texts in a document are of code points, as an escape
can stand for half of a surrogate pair. A document that is whole has no such
half in its texts and names, and says a value; any other is seen as one, with
U+FFFD for each half.

* `Document.isWhole_ofValue`: the document of a value is whole.
-/

namespace SignedLink.Json

/-- What a JSON text says. -/
inductive Document where
  | null
  | boolean (b : Bool)
  | integer (n : Int)
  | real (x : Binary64)
  | text (s : List Text.CodePoint)
  | list (items : List Document)
  | record (members : List (List Text.CodePoint × Document))

/-- Named parts of a document in the order in which the names first occurred. -/
abbrev Members := List (List Text.CodePoint × Document)

/-- Writes a member: in place when the name occurs, else at the end. -/
def Members.put (members : Members) (name : List Text.CodePoint) (d : Document) : Members :=
  match members with
  | [] => [(name, d)]
  | (k, e) :: rest => if name == k then (k, d) :: rest else (k, e) :: put rest name d

namespace Document

mutual

/-- The value that is seen. -/
def seen : Document → Value
  | .null => .null
  | .boolean b => .boolean b
  | .integer n => .integer n
  | .real x => .real x
  | .text s => .text (.ofList (Text.seen s))
  | .list items => .list (seenItems items)
  | .record members => .record (seenMembers members)

def seenItems : List Document → List Value
  | [] => []
  | d :: rest => seen d :: seenItems rest

def seenMembers : List (List Text.CodePoint × Document) → List (String × Value)
  | [] => []
  | (name, d) :: rest => (.ofList (Text.seen name), seen d) :: seenMembers rest

end

mutual

/-- Whether no text and no name in a document has a half in it. -/
def isWhole : Document → Bool
  | .text s => !s.any Text.CodePoint.isHalf
  | .list items => areWhole items
  | .record members => haveWhole members
  | _ => true

def areWhole : List Document → Bool
  | [] => true
  | d :: rest => isWhole d && areWhole rest

def haveWhole : List (List Text.CodePoint × Document) → Bool
  | [] => true
  | (name, d) :: rest => !name.any Text.CodePoint.isHalf && isWhole d && haveWhole rest

end

mutual

/-- The document of a value. Octets and paths are in it as the texts that are written for them. -/
def ofValue : Value → Document
  | .null => .null
  | .boolean b => .boolean b
  | .integer n => .integer n
  | .real x => .real x
  | .text s => .text (Text.points s.toList)
  | .octets bytes => .text (Text.points (Text.quotedOctets bytes))
  | .path p => .text (Text.points p.toList)
  | .list items => .list (ofItems items)
  | .record fields => .record (ofFields fields)

def ofItems : List Value → List Document
  | [] => []
  | v :: rest => ofValue v :: ofItems rest

def ofFields : List (String × Value) → List (List Text.CodePoint × Document)
  | [] => []
  | (name, v) :: rest => (Text.points name.toList, ofValue v) :: ofFields rest

end

/-! ## Parts of a document -/

/-- The part under a name; a missing one stands for null. -/
def get (d : Document) (name : String) : Document :=
  match d with
  | .record members => (members.lookup (Text.points name.toList)).getD .null
  | _ => .null

/-- The part at the end of a row of names. -/
def part (d : Document) (names : List String) : Document :=
  names.foldl get d

/-! ## Elementary facts -/

mutual

/-- The document of a value is whole. -/
theorem isWhole_ofValue : (v : Value) → (ofValue v).isWhole = true
  | .null | .boolean _ | .integer _ | .real _ => rfl
  | .text _ | .octets _ | .path _ => by simp [ofValue, isWhole]
  | .list items => areWhole_ofItems items
  | .record fields => haveWhole_ofFields fields

theorem areWhole_ofItems : (items : List Value) → areWhole (ofItems items) = true
  | [] => rfl
  | v :: rest => by simp [ofItems, areWhole, isWhole_ofValue v, areWhole_ofItems rest]

theorem haveWhole_ofFields : (fields : List (String × Value)) →
    haveWhole (ofFields fields) = true
  | [] => rfl
  | (name, v) :: rest => by
    simp [ofFields, haveWhole, isWhole_ofValue v, haveWhole_ofFields rest]

end

end Document

end SignedLink.Json
