import SignedLink.Binary.Blob
import SignedLink.Config.Signer
import SignedLink.Logging.Record
import SignedLink.Metrics
/-!
# SignedLink — conversions

The conversion of an offered value to a signed link. A value passes the gate
when it has a binary of known length above the least size, and an identity.
What does not pass is skipped. What passes is signed, and any failure on the
way is told in a record and otherwise treated like a miss, so a conversion
always ends.

* `uri_isSome_iff`: there is an address exactly when the outcome is `issued`.
* `length_records_le`: a conversion writes at most one record.
-/

namespace SignedLink

/-- How a conversion ended. -/
inductive Outcome where
  | issued
  | skipped
  | failed
deriving DecidableEq

/-- The label of an outcome. -/
def Outcome.label : Outcome → String
  | .issued => "issued"
  | .skipped => "skipped"
  | .failed => "failed"

/-- The result of a conversion. -/
structure Conversion where
  outcome : Outcome
  uri : Option String
  records : List Logging.Record

namespace Conversion

/-- A conversion that was skipped. -/
def skipped (records : List Logging.Record) : Conversion :=
  ⟨.skipped, none, records⟩

/-- The message about a failure, with the identity as it is shown. -/
def failedMessage (shown : String) (failure : ConversionFailure) : String :=
  "Unable to get or sign content identity " ++ shown ++ ": " ++ failure.message

/-- A conversion that failed, with the identity as far as it was known. -/
def failed (identity : Value) (failure : ConversionFailure) : Conversion :=
  ⟨.failed, none, [⟨Logging.providerLogger, .error,
    identity.written.map fun shown => failedMessage shown failure, some failure⟩]⟩

/-- The message about an issued link, with the identity as it is shown and the length as a whole
number. -/
def issuedWords (shown : String) (length : Value) : Except Fault String := do
  let n ← length.toInteger
  let digits ← Numeral.write n
  return "Issued CDN redirect for content identity " ++ shown ++ " (" ++ digits ++ " bytes)"

/-- The message about an issued link. -/
def issuedMessage (identity length : Value) : Except Fault String := do
  let shown ← identity.written
  issuedWords shown length

/-- A conversion that issued a link. -/
def issued (identity length : Value) (uri : String) : Conversion :=
  ⟨.issued, some uri, [⟨Logging.providerLogger, .debug, issuedMessage identity length, none⟩]⟩

/-! ## The gate -/

/-- Whether a length is negative, for lengths that can be compared with a number. -/
def isNegative : Value → Except Fault Bool
  | .integer n => .ok (decide (n < 0))
  | .boolean _ => .ok false
  | .real x => .ok (x.ltInt 0)
  | v => .error (.unordered v.typeName)

/-- Whether a length is at most the least size. -/
def isSmall (least : Int) : Value → Bool
  | .integer n => decide (n ≤ least)
  | .boolean b => decide ((if b then 1 else 0) ≤ least)
  | .real x => x.leInt least
  | _ => false

/-- Whether a binary of this length and identity is worth a link. -/
def passes (least : Int) (length identity : Value) : Except Fault Bool :=
  if length.isNull then .ok false
  else
    match isNegative length with
    | .error f => .error f
    | .ok negative => .ok (!negative && !identity.isNull && !isSmall least length)

/-! ## Conversion -/

/-- Signs the link of an identity that has passed the gate. -/
def sign (config : SignerConfiguration) (now identity length : Value) : Conversion :=
  match Link.sign identity config.baseUrl config.keyPairId config.key (.integer config.ttlSeconds)
      now with
  | .error e => failed identity (.signing e)
  | .ok link => issued identity length link.url

/-- Converts a binary. -/
def ofBlob (config : SignerConfiguration) (now : Value) (blob : Blob) : Conversion :=
  match blob.length with
  | .error f => failed .null (.fault f)
  | .ok length =>
    match blob.identity with
    | .error f => failed .null (.fault f)
    | .ok identity =>
      match passes config.minimumSizeBytes length identity with
      | .error f => failed identity (.fault f)
      | .ok false => skipped []
      | .ok true => sign config now identity length

/-- Converts a value under a configuration, if there is one. -/
def of (config : Option SignerConfiguration) (now : Value) (candidate : Candidate) : Conversion :=
  match config with
  | none =>
    skipped [.of Logging.providerLogger .debug "CloudFront URI provider not active; no redirect"]
  | some config =>
    match candidate with
    | .foreign | .binary none => skipped []
    | .binary (some blob) => ofBlob config now blob

/-- The metrics after a conversion; the time of signing counts unless it was skipped. -/
def account (c : Conversion) (seconds : Binary64) (m : Metrics) : Metrics :=
  let label := c.outcome.label
  match c.outcome with
  | .skipped => m.addConversion label
  | _ => (m.addLatency label seconds).addConversion label

/-! ## Elementary facts -/

/-- The address and the records that go with an outcome. -/
def Coherent (c : Conversion) : Prop :=
  (c.uri.isSome ↔ c.outcome = .issued) ∧ c.records.length ≤ 1

theorem coherent_failed (identity : Value) (failure : ConversionFailure) :
    (failed identity failure).Coherent := by
  simp [Coherent, failed]

theorem coherent_sign (config : SignerConfiguration) (now identity length : Value) :
    (sign config now identity length).Coherent := by
  unfold sign
  split
  · exact coherent_failed ..
  · simp [Coherent, issued]

theorem coherent_ofBlob (config : SignerConfiguration) (now : Value) (blob : Blob) :
    (ofBlob config now blob).Coherent := by
  unfold ofBlob
  split
  · exact coherent_failed ..
  · split
    · exact coherent_failed ..
    · split
      · exact coherent_failed ..
      · simp [Coherent, skipped]
      · exact coherent_sign ..

theorem coherent_of (config : Option SignerConfiguration) (now : Value) (candidate : Candidate) :
    (of config now candidate).Coherent := by
  unfold of
  split
  · simp [Coherent, skipped]
  · split
    · simp [Coherent, skipped]
    · simp [Coherent, skipped]
    · exact coherent_ofBlob ..

/-- There is an address exactly when a link was issued. -/
theorem uri_isSome_iff (config : Option SignerConfiguration) (now : Value) (candidate : Candidate) :
    (of config now candidate).uri.isSome ↔ (of config now candidate).outcome = .issued :=
  (coherent_of config now candidate).1

/-- A conversion writes at most one record. -/
theorem length_records_le (config : Option SignerConfiguration) (now : Value)
    (candidate : Candidate) : (of config now candidate).records.length ≤ 1 :=
  (coherent_of config now candidate).2

end Conversion

end SignedLink
