import SignedLink.Text.Charset
import SignedLink.Text.LowerCase
/-!
# SignedLink — headers

Header fields with lower-case names, in the order in which the names were
first set. What may hold a link must not be kept by anyone on the way, so such
answers carry three fields that say so, unless they were set before.
-/

namespace SignedLink.Http

/-- Header fields by lower-case name. -/
abbrev Headers := List (String × String)

namespace Headers

/-- The name of a field, in lower case. -/
def fieldName (name : String) : String :=
  .ofList (Text.lower name.toList)

def find? (headers : Headers) (name : String) : Option String :=
  headers.lookup (fieldName name)

/-- Sets a field, in its place when it is there. -/
def set (headers : Headers) (name value : String) : Headers :=
  if (headers.find? name).isSome then
    headers.map fun h => if h.1 == fieldName name then (h.1, value) else h
  else headers ++ [(fieldName name, value)]

/-- Sets a field with a name and a value from outside, which take one octet a character. -/
def put (headers : Headers) (name value : String) : Except Text.Unencodable Headers :=
  let refuse? (s : String) := Text.Charset.latin1.refuse? s.toList
  match (refuse? (fieldName name)).or (refuse? value) with
  | some refused => .error refused
  | none => .ok (headers.set name value)

/-- Sets a field unless it is there. -/
def setDefault (headers : Headers) (name value : String) : Headers :=
  if (headers.find? name).isSome then headers else headers ++ [(fieldName name, value)]

/-- Forbids keeping the answer. -/
def setNoStore (headers : Headers) : Headers :=
  ((headers.setDefault "cache-control" "no-store").setDefault "pragma" "no-cache").setDefault
    "expires" "0"

/-- The fields in the order of their names. -/
def sorted (headers : Headers) : Headers :=
  headers.mergeSort fun a b => decide (a.1 < b.1) || (a.1 == b.1 && decide (a.2 ≤ b.2))

end Headers

end SignedLink.Http
