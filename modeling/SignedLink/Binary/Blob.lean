import SignedLink.Value.Fault
/-!
# SignedLink — binaries

What the conversion needs to know of a stored binary is its length and its
content identity. The store answers both questions with values of any kind,
or fails to answer.
-/

namespace SignedLink

/-- A stored binary, by the answers that the store gives about it. -/
structure Blob where
  length : Except Fault Value
  identity : Except Fault Value

/-- A value offered for conversion. -/
inductive Candidate where
  /-- not a binary value at all -/
  | foreign
  /-- a binary value, with or without a binary -/
  | binary (blob : Option Blob)

/-- A binary whose length and identity are known beforehand. -/
structure BlobInfo where
  /-- the size in bytes, none when unknown -/
  size : Option Int
  contentIdentity : Option String
deriving DecidableEq

/-- The binary that gives these answers. -/
def BlobInfo.toBlob (info : BlobInfo) : Blob where
  length := .ok (Value.ofInt? info.size)
  identity := .ok (Value.ofText? info.contentIdentity)

/-- The value offered with such a binary. -/
def BlobInfo.toCandidate (info : BlobInfo) : Candidate :=
  .binary (some info.toBlob)

end SignedLink
