import SignedLink.Binary.Blob
import SignedLink.Validation
/-!
# SignedLink — documents about binaries

The documents of the interface: what is known of a binary, a request to
convert one, and the answer. The size has two names; `length` is the one that
others see, and it wins where both are given.

* `BlobInfo.ofValue_document`: what is written under the outer names reads back.
-/

namespace SignedLink

/-- The reading of a document: all its violations, or what it says. -/
abbrev Documented (α : Type) := Except (List FieldError) α

/-- The fields of a document; the violation for what is no record depends on where it stands. -/
def documentFields (notRecord : Violation) (v : Value) : Documented Fields :=
  match v with
  | .record fields => .ok fields
  | v => .error [⟨[], notRecord, v⟩]

/-- An optional field under its name. -/
def optionalField {α : Type} (fields : Fields) (name : String) (read : Value → Checked α) :
    Checked (Option α) :=
  Checked.optional read (Fields.get fields name)

namespace BlobInfo

/-- The name under which the size is given. -/
def sizeName (fields : Fields) : String :=
  if (Fields.find? fields "length").isSome || (Fields.find? fields "size").isNone then "length"
  else "size"

/-- Reads what is known of a binary. -/
def ofValue (notRecord : Violation) (v : Value) : Documented BlobInfo :=
  match documentFields notRecord v with
  | .error errors => .error errors
  | .ok fields =>
    let size := optionalField fields (sizeName fields) Checked.integer
    let contentIdentity := optionalField fields "content_identity" Checked.text
    match size, contentIdentity with
    | .ok size, .ok contentIdentity => .ok { size, contentIdentity }
    | _, _ =>
      .error ([
        FieldError.ofReading? (sizeName fields) (Fields.get fields (sizeName fields)) size,
        FieldError.ofReading? "content_identity" (Fields.get fields "content_identity")
          contentIdentity].reduceOption)

/-- What is known of a binary, with the size under the given name. -/
def toValue (sizeName : String) (info : BlobInfo) : Value :=
  .record [(sizeName, Value.ofInt? info.size),
    ("content_identity", Value.ofText? info.contentIdentity)]

end BlobInfo

/-- A request to convert a value with or without a binary. -/
structure ConversionRequest where
  binary : Option BlobInfo
deriving DecidableEq

namespace ConversionRequest

/-- Reads a request. -/
def ofValue (notRecord notBinary : Violation) (v : Value) : Documented ConversionRequest :=
  match documentFields notRecord v with
  | .error errors => .error errors
  | .ok fields =>
    let binary := Fields.get fields "binary"
    if binary.isNull then .ok ⟨none⟩
    else
      match BlobInfo.ofValue notBinary binary with
      | .ok info => .ok ⟨some info⟩
      | .error errors => .error (errors.map (FieldError.within "binary"))

/-- The value that is to be converted. -/
def candidate (request : ConversionRequest) : Candidate :=
  .binary (request.binary.map BlobInfo.toBlob)

def toValue (sizeName : String) (request : ConversionRequest) : Value :=
  .record [("binary", (request.binary.map (BlobInfo.toValue sizeName)).getD .null)]

end ConversionRequest

/-- The answer to a request: the address, if there is one, and whether to go there. -/
structure ConversionAnswer where
  uri : Option String
  redirect : Bool
deriving DecidableEq

namespace ConversionAnswer

/-- The answer for the result of a conversion. -/
def ofUri (uri : Option String) : ConversionAnswer :=
  ⟨uri, uri.isSome⟩

/-- Reads an answer. -/
def ofValue (notRecord : Violation) (v : Value) : Documented ConversionAnswer :=
  match documentFields notRecord v with
  | .error errors => .error errors
  | .ok fields =>
    let uri := optionalField fields "uri" Checked.text
    let redirect :=
      match Fields.find? fields "redirect" with
      | some v => Checked.boolean v
      | none => .ok false
    match uri, redirect with
    | .ok uri, .ok redirect => .ok { uri, redirect }
    | _, _ =>
      .error ([
        FieldError.ofReading? "uri" (Fields.get fields "uri") uri,
        FieldError.ofReading? "redirect" (Fields.get fields "redirect") redirect].reduceOption)

def toValue (answer : ConversionAnswer) : Value :=
  .record [("uri", Value.ofText? answer.uri), ("redirect", .boolean answer.redirect)]

end ConversionAnswer

/-! ## Elementary facts -/

/-- What is written under the outer names reads back. -/
theorem BlobInfo.ofValue_document (notRecord : Violation) (info : BlobInfo) :
    BlobInfo.ofValue notRecord (info.toValue "length") = .ok info := by
  obtain ⟨size, contentIdentity⟩ := info
  cases size <;> cases contentIdentity <;> rfl

end SignedLink
