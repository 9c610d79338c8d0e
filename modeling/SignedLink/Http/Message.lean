import SignedLink.Http.Headers
import SignedLink.Http.Target
import SignedLink.Logging.Record
/-!
# SignedLink — requests and answers

A request is a method, a target and what came with it; an answer is a status,
header fields and a body. The body is kept as what it is and only written out
by whoever sends it.

Not everything that an answer is to tell can be written. In the place of such an
answer there is another that tells nothing but that something went wrong.
-/

namespace SignedLink.Http

/-- A request. -/
structure Request where
  /-- the scheme and the host under which the client knows the service -/
  origin : String
  method : String
  target : Target
  contentType : Option String
  payload : List UInt8

/-- Why an answer cannot be written. -/
inductive Unwritable where
  /-- it holds what is no number, or an infinity -/
  | notFinite
  /-- it holds a half of a surrogate pair -/
  | half
  /-- it holds octets that are no text -/
  | octets
deriving DecidableEq

/-- The body of an answer. -/
inductive Body where
  | json (v : Value)
  /-- the words for something that went wrong, in the place of what cannot be written -/
  | failure (why : Unwritable)
  | page
  /-- the lines of the metrics -/
  | metrics (lines : List String)
  /-- the description of the interface: title, version, and the methods of each path -/
  | interface (title version : String) (paths : List (String × List String))
  | empty

/-- The content type of a body. -/
def Body.contentType : Body → Option String
  | .json _ | .interface .. => some "application/json"
  | .page => some "text/html; charset=utf-8"
  | .failure _ => some "text/plain; charset=utf-8"
  | .metrics _ => some "text/plain; version=1.0.0; charset=utf-8"
  | .empty => none

/-- An answer. -/
structure Answer where
  status : Nat
  headers : Headers
  body : Body

namespace Answer

/-- An answer whose header tells the kind of its body. -/
def of (status : Nat) (headers : Headers) (body : Body) : Answer :=
  ⟨status, headers ++ (body.contentType.map fun t => ("content-type", t)).toList, body⟩

/-- An answer with a document. -/
def json (status : Nat) (v : Value) : Answer :=
  of status [] (.json v)

/-- An answer with nothing but a description of what is wrong. -/
def detail (status : Nat) (headers : Headers) (v : Value) : Answer :=
  of status headers (.json (.record [("detail", v)]))

/-- The answer in the place of one that cannot be written. -/
def unwritable (why : Unwritable) : Answer :=
  of 500 [] (.failure why)

/-- The characters that an address in a header keeps, besides letters, digits and `_.-~`. -/
def addressChars : List Char :=
  ":/%#?=@[]!$&\x27()*+,;".toList

/-- An answer that sends the client to an address. -/
def redirect (address : String) : Answer :=
  of 307 [("location", .ofList (Text.Percent.encode addressChars address.toList))] .empty

/-- The same answer, not to be kept. -/
def noStore (a : Answer) : Answer :=
  { a with headers := a.headers.setNoStore }

end Answer

end SignedLink.Http
