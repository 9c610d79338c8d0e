import SignedLink.Binary.Document
import SignedLink.Conversion.Basic
import SignedLink.Http.Message
import SignedLink.Json.Document
/-!
# SignedLink — what a request offers

A request offers a value for conversion. A document can name a binary by an
identity with halves of surrogate pairs in it. Such an identity is converted
like any other, and a link for it is counted and told as issued; but the answer
that would show the link cannot be written.

* `Offer.answer_of_sendable`: a link that can be written is shown, and so is the lack of one.
* `Offer.answer_of_not_sendable`: a link that cannot be written is lost.
-/

namespace SignedLink.Http

/-- What a request offers for conversion. -/
inductive Offer where
  | value (candidate : Candidate)
  /-- a binary whose identity has halves of surrogate pairs in it -/
  | broken (size : Option Int) (identity : List Text.CodePoint)

namespace Offer

/-- The offered value as it is seen. What becomes of a binary depends on how many characters its
identity has and not on which, so this one comes to the same end. -/
def candidate : Offer → Candidate
  | .value candidate => candidate
  | .broken size identity =>
    (⟨size, some (.ofList (Text.seen identity))⟩ : BlobInfo).toCandidate

/-- A record about a binary with such an identity, which is quoted with its halves. Only the storage
key that a failure may name is told as it is seen. -/
def retold (size : Option Int) (identity : List Text.CodePoint) (outcome : Outcome)
    (r : Logging.Record) : Logging.Record :=
  let shown := String.ofList (Text.quotedPoints identity)
  match outcome, r.failure with
  | .issued, _ => { r with message := Conversion.issuedWords shown (Value.ofInt? size) }
  | .failed, some failure => { r with message := .ok (Conversion.failedMessage shown failure) }
  | _, _ => r

/-- The records of the conversion of what is offered. -/
def records (offer : Offer) (conversion : Conversion) : List Logging.Record :=
  match offer with
  | .value _ => conversion.records
  | .broken size identity => conversion.records.map (retold size identity conversion.outcome)

/-- Whether a link for what is offered can be written into an answer. -/
def isSendable : Offer → Bool
  | .value _ => true
  | .broken .. => false

/-- How an address, or the lack of one, is answered. -/
def answer (offer : Offer) (shown : Option String → Answer) (uri : Option String) : Answer :=
  if uri.isSome && !offer.isSendable then .unwritable .half else shown uri

/-! ## Elementary facts -/

/-- A link that can be written is shown, and so is the lack of one. -/
theorem answer_of_sendable {offer : Offer} {uri : Option String} (shown : Option String → Answer)
    (sendable : uri.isSome = true → offer.isSendable = true) :
    offer.answer shown uri = shown uri := by
  cases uri with
  | none => rfl
  | some uri => simp [answer, sendable rfl]

/-- A link that cannot be written is lost. -/
theorem answer_of_not_sendable {offer : Offer} {uri : Option String}
    (shown : Option String → Answer) (linked : uri.isSome = true)
    (unsendable : offer.isSendable = false) : offer.answer shown uri = .unwritable .half := by
  simp [answer, linked, unsendable]

end Offer

end SignedLink.Http
