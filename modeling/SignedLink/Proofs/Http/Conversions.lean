import SignedLink.Http.Session
import SignedLink.Proofs.Conversion.Gate
import SignedLink.Proofs.Json.Writable
import SignedLink.Proofs.Text.Utf8
/-!
# SignedLink — requests for conversions

A request asks for a conversion when it reaches one of the two endpoints of
conversions and what it offers can be read there; `Asks` is that relation between
a service, a request, the endpoint and the offer. All other requests leave the
service as it is: other endpoints, paths that lead nowhere, and what cannot be
read, which is refused before the provider is looked at.

A request that asks is answered in the way of its endpoint when there is a
configuration, unless the answer cannot be written, and else with the same
problem at both. Its records can be told at every level, since a length that was
read can also be written.

* `respond_of_active`, `respond_of_inactive`: the answers to a request that asks.
* `responds`: what a service does for any request.
* `exists_message_of_asks`: every record of such a conversion has a message.
-/

namespace SignedLink

namespace Http

/-- The two endpoints of conversions. -/
def Endpoint.IsConversion (endpoint : Endpoint) : Prop :=
  endpoint = .convert ∨ endpoint = .redirect

/-- How an endpoint of conversions answers with an address or the lack of one. -/
def Endpoint.answer : Endpoint → Option String → Answer
  | .convert => Service.conversionAnswer
  | _ => Service.redirectAnswer

namespace Service

/-! ## What a request asks for -/

/-- Where a request goes in a service. -/
def destinationOf (service : Service) (request : Request) : Destination :=
  destination service.routes request.method request.target.path

/-- What is known of the binary that the path of a request names, with the length of its query. -/
def readPath (request : Request) (bindings : Bindings) : Except Answer BlobInfo :=
  readBinary (.ofList ((bindings.lookup identityName).getD [])) (request.target.parameter? "length")

/-- What a request offers at an endpoint of conversions, or the answer that refuses it. -/
def offerAt (request : Request) (bindings : Bindings) : Endpoint → Except Answer Offer
  | .convert => readOffer request
  | _ => (readPath request bindings).map fun info => .value info.toCandidate

/-- A well-formed request for a conversion: it reaches an endpoint of conversions, and what it
offers can be read there. -/
def Asks (service : Service) (request : Request) (endpoint : Endpoint) (offer : Offer) : Prop :=
  endpoint.IsConversion ∧ ∃ bindings,
    service.destinationOf request = .endpoint endpoint bindings ∧
      offerAt request bindings endpoint = .ok offer

variable {service : Service} {request : Request} {endpoint : Endpoint} {offer : Offer}
  {bindings : Bindings}

theorem offerAt_redirect_eq_ok_iff :
    offerAt request bindings .redirect = .ok offer ↔
      ∃ info, readPath request bindings = .ok info ∧ offer = .value info.toCandidate := by
  show (readPath request bindings).map _ = _ ↔ _
  cases readPath request bindings <;> simp [Except.map, eq_comm]

/-! ## Answers -/

/-- At an endpoint of conversions a request is read, and what it offers is converted. -/
theorem respond_of_reaches (conversion : endpoint.IsConversion)
    (reaches : service.destinationOf request = .endpoint endpoint bindings) (now : Value) :
    service.respond now request =
      service.convert now (offerAt request bindings endpoint) endpoint.answer := by
  rw [destinationOf] at reaches
  rw [respond, reaches]
  rcases conversion with rfl | rfl
  · rfl
  · rfl

theorem respond_of_asks (asks : Asks service request endpoint offer) (now : Value) :
    service.respond now request = service.convert now (.ok offer) endpoint.answer := by
  obtain ⟨conversion, bindings, reaches, read⟩ := asks
  rw [respond_of_reaches conversion reaches, read]

theorem respond_of_active (asks : Asks service request endpoint offer)
    (active : service.converter.isActive = true) (now : Value) :
    service.respond now request =
      let conversion := service.converter.convert now offer.candidate
      ⟨{ service with metrics := conversion.account .zero service.metrics },
        offer.answer endpoint.answer conversion.uri, offer.records conversion⟩ := by
  rw [respond_of_asks asks, convert]
  simp only [active, Bool.not_true, Bool.false_eq_true, if_false]

/-- A value of characters is answered with its link or the lack of one. -/
theorem result_of_value {candidate : Candidate}
    (asks : Asks service request endpoint (.value candidate))
    (active : service.converter.isActive = true) (now : Value) :
    (service.respond now request).result =
      endpoint.answer (service.converter.convert now candidate).uri := by
  rw [respond_of_active asks active]
  exact Offer.answer_of_sendable _ fun _ => rfl

theorem respond_of_inactive (asks : Asks service request endpoint offer)
    (inactive : service.converter.isActive = false) (now : Value) :
    service.respond now request = ⟨service, problemAnswer (.unavailable .null), []⟩ := by
  rw [respond_of_asks asks, convert]
  simp only [inactive, Bool.not_false, if_true]

/-- What cannot be read is refused before anything else is done. -/
theorem respond_of_unread {refusal : Answer} (conversion : endpoint.IsConversion)
    (reaches : service.destinationOf request = .endpoint endpoint bindings)
    (unread : offerAt request bindings endpoint = .error refusal) (now : Value) :
    service.respond now request = ⟨service, refusal, []⟩ := by
  rw [respond_of_reaches conversion reaches, unread]
  rfl

/-- Both endpoints tell whether there is an address. -/
theorem status_answer (conversion : endpoint.IsConversion) (uri : Option String) :
    (endpoint = .convert ∧ (endpoint.answer uri).status = 200) ∨
      (endpoint = .redirect ∧ (endpoint.answer uri).status = if uri.isSome then 307 else 404) := by
  rcases conversion with rfl | rfl
  · exact .inl ⟨rfl, rfl⟩
  · cases uri <;> exact .inr ⟨rfl, rfl⟩

/-- Only documents can hold what an answer cannot show. -/
theorem isSendable_of_redirect (asks : Asks service request .redirect offer) :
    offer.isSendable = true := by
  obtain ⟨-, bindings, -, read⟩ := asks
  obtain ⟨info, -, rfl⟩ := offerAt_redirect_eq_ok_iff.mp read
  rfl

/-! ## Refusals -/

/-- An answer that tells of nothing but what could not be read, or not even that. -/
inductive Refuses : Answer → Prop where
  | told {status : Nat} (document : Value) (known : status = 400 ∨ status = 422) :
      Refuses (.detail status [] document)
  | untold (why : Unwritable) : Refuses (.unwritable why)

theorem Refuses.status {answer : Answer} (refuses : Refuses answer) :
    answer.status = 400 ∨ answer.status = 422 ∨ answer.status = 500 := by
  cases refuses with
  | told document known => exact known.imp_right .inl
  | untold why => exact .inr (.inr rfl)

theorem refuses_refusedShowing (halves : Bool) (errors : List FieldError) :
    Refuses (refusedShowing halves errors) := by
  unfold refusedShowing
  split
  · exact .untold _
  · split
    · exact .untold _
    · exact .told _ (.inr rfl)

theorem refuses_of_readOffer {refusal : Answer} (unread : readOffer request = .error refusal) :
    Refuses refusal := by
  unfold readOffer at unread
  split at unread
  · -- JSON that cannot be read
    cases unread
    exact .told _ (.inl rfl)
  · -- JSON with a flaw
    cases unread
    exact refuses_refusedShowing ..
  · -- nothing
    cases unread
    exact refuses_refusedShowing ..
  · -- octets that are neither JSON nor a text
    cases unread
    exact .untold _
  · -- a document with halves of pairs, which its errors may show
    unfold readBroken at unread
    split at unread
    · cases unread
    · cases unread
      exact refuses_refusedShowing ..
  · -- a value
    split at unread
    · cases unread
    · cases unread
      exact refuses_refusedShowing ..

theorem refuses_of_readPath {refusal : Answer}
    (unread : readPath request bindings = .error refusal) : Refuses refusal := by
  unfold readPath readBinary at unread
  dsimp only at unread
  split at unread
  · cases unread
  · cases unread
    exact refuses_refusedShowing ..

theorem refuses_of_unread {refusal : Answer}
    (unread : offerAt request bindings endpoint = .error refusal) : Refuses refusal := by
  unfold offerAt at unread
  split at unread
  · exact refuses_of_readOffer unread
  · cases read : readPath request bindings with
    | ok info =>
      rw [read] at unread
      cases unread
    | error e =>
      rw [read] at unread
      cases unread
      exact refuses_of_readPath read

/-! ## All requests -/

/-- What a service does for a request: how it goes on, what it answers, and what it tells. -/
inductive Responds (service : Service) (now : Value) (request : Request) : Step Answer → Prop where
  /-- the link of what was offered, or the lack of one, is shown -/
  | shown {endpoint : Endpoint} {offer : Offer} {conversion : Conversion}
      (asks : Asks service request endpoint offer) (active : service.converter.isActive = true)
      (converted : service.converter.convert now offer.candidate = conversion)
      (sendable : conversion.uri.isSome = true → offer.isSendable = true) :
      Responds service now request
        ⟨{ service with metrics := conversion.account .zero service.metrics },
          endpoint.answer conversion.uri, offer.records conversion⟩
  /-- there is a link, but the answer that shows it cannot be written -/
  | lost {offer : Offer} {conversion : Conversion}
      (asks : Asks service request .convert offer) (active : service.converter.isActive = true)
      (converted : service.converter.convert now offer.candidate = conversion)
      (linked : conversion.uri.isSome = true) (unsendable : offer.isSendable = false) :
      Responds service now request
        ⟨{ service with metrics := conversion.account .zero service.metrics },
          .unwritable .half, offer.records conversion⟩
  /-- there is no configuration -/
  | unavailable {endpoint : Endpoint} {offer : Offer} (asks : Asks service request endpoint offer)
      (inactive : service.converter.isActive = false) :
      Responds service now request ⟨service, problemAnswer (.unavailable .null), []⟩
  /-- an endpoint of conversions refuses what it cannot read -/
  | refused {endpoint : Endpoint} {bindings : Bindings} {refusal : Answer}
      (conversion : endpoint.IsConversion)
      (reaches : service.destinationOf request = .endpoint endpoint bindings)
      (unread : offerAt request bindings endpoint = .error refusal) :
      Responds service now request ⟨service, refusal, []⟩
  /-- the request is for something else -/
  | elsewhere {answer : Answer}
      (other : ∀ endpoint bindings, service.destinationOf request = .endpoint endpoint bindings →
        ¬ endpoint.IsConversion) :
      Responds service now request ⟨service, answer, []⟩

/-- What a service does for a request that asks. -/
theorem responds_of_asks (asks : Asks service request endpoint offer) (now : Value) :
    Responds service now request (service.respond now request) := by
  cases active : service.converter.isActive with
  | false =>
    rw [respond_of_inactive asks active]
    exact .unavailable asks active
  | true =>
    rw [respond_of_active asks active]
    generalize converted : service.converter.convert now offer.candidate = conversion
    dsimp only
    by_cases sendable : conversion.uri.isSome = true → offer.isSendable = true
    · rw [Offer.answer_of_sendable _ sendable]
      exact .shown asks active converted sendable
    · obtain ⟨linked, unsendable⟩ := Classical.not_imp.mp sendable
      have unsendable : offer.isSendable = false := by simpa using unsendable
      rw [Offer.answer_of_not_sendable _ linked unsendable]
      -- what comes by path can always be shown
      rcases asks.1 with rfl | rfl
      · exact .lost asks active converted linked unsendable
      · rw [isSendable_of_redirect asks] at unsendable
        cases unsendable

/-- What a service does for any request. -/
theorem responds (service : Service) (now : Value) (request : Request) :
    Responds service now request (service.respond now request) := by
  cases goes : service.destinationOf request with
  | endpoint endpoint bindings =>
    by_cases conversion : endpoint.IsConversion
    · cases read : offerAt request bindings endpoint with
      | ok offer => exact responds_of_asks ⟨conversion, bindings, goes, read⟩ now
      | error refusal =>
        rw [respond_of_unread conversion goes read]
        exact .refused conversion goes read
    · -- the other endpoints look at nothing that comes with a request
      have other : ∀ e b, service.destinationOf request = .endpoint e b → ¬ e.IsConversion := by
        rw [goes]
        rintro _ _ ⟨⟩
        exact conversion
      rw [destinationOf] at goes
      rw [respond, goes]
      cases endpoint with
      | convert => exact (conversion (.inl rfl)).elim
      | redirect => exact (conversion (.inr rfl)).elim
      | description | page | health | readiness | metrics => exact .elsewhere other
  | otherMethods | moved | nowhere =>
    have other : ∀ e b, service.destinationOf request = .endpoint e b → ¬ e.IsConversion := by
      rw [goes]
      nofun
    rw [destinationOf] at goes
    rw [respond, goes]
    exact .elsewhere other

/-- A request asks for one thing at most. -/
theorem Asks.unique {endpoint' : Endpoint} {offer' : Offer}
    (asks : Asks service request endpoint offer) (also : Asks service request endpoint' offer') :
    endpoint = endpoint' ∧ offer = offer' := by
  obtain ⟨-, bindings, reaches, read⟩ := asks
  obtain ⟨-, bindings', reaches', read'⟩ := also
  cases reaches.symm.trans reaches'
  exact ⟨rfl, Except.ok.inj (read.symm.trans read')⟩

end Service

end Http

/-! ## Lengths that were read -/

/-- The length of a binary can be told, if it is known. -/
def BlobInfo.IsWritable (info : BlobInfo) : Prop :=
  ∀ n ∈ info.size, (Value.integer n).isWritable = true

theorem haveWritable_of_documentFields {notRecord : Violation} {v : Value} {fields : Fields}
    (writable : v.isWritable = true) (read : documentFields notRecord v = .ok fields) :
    Value.haveWritable fields = true := by
  unfold documentFields at read
  split at read
  · cases read
    exact writable
  · cases read

theorem BlobInfo.isWritable_of_ofValue {notRecord : Violation} {v : Value} {info : BlobInfo}
    (writable : v.isWritable = true) (read : ofValue notRecord v = .ok info) :
    info.IsWritable := by
  unfold ofValue at read
  split at read
  · cases read
  · next fields record =>
    have fieldsWritable := haveWritable_of_documentFields writable record
    dsimp only at read
    split at read
    · next size contentIdentity readSize _ =>
      cases read
      rintro n ⟨⟩
      -- the field holds something, from which the length was read
      unfold optionalField Checked.optional at readSize
      split at readSize
      · cases readSize
      · split at readSize
        · next m length =>
          cases readSize
          exact Checked.integer_isWritable (Value.isWritable_get fieldsWritable _) length
        · cases readSize
    · cases read

theorem ConversionRequest.isWritable_of_ofValue {notRecord notBinary : Violation} {v : Value}
    {conversion : ConversionRequest} (writable : v.isWritable = true)
    (read : ofValue notRecord notBinary v = .ok conversion) :
    ∀ info ∈ conversion.binary, info.IsWritable := by
  unfold ofValue at read
  split at read
  · cases read
  · next fields record =>
    have fieldsWritable := haveWritable_of_documentFields writable record
    dsimp only at read
    split at read
    · cases read
      nofun
    · split at read
      · next info known =>
        cases read
        rintro info ⟨⟩
        exact BlobInfo.isWritable_of_ofValue (Value.isWritable_get fieldsWritable _) known
      · cases read

namespace Http

/-- A text in ASCII that begins like a record is taken for UTF-8. -/
theorem Encoding.decode_ascii {text : List Char} (ascii : ∀ c ∈ text, c.toNat < 128)
    (begins : ∃ rest, Text.Utf8.encode text = 0x7B :: 0x22 :: 0x62 :: 0x69 :: rest) :
    (Encoding.detect (Text.Utf8.encode text)).decode (Text.Utf8.encode text) =
      some (Text.points text) := by
  have utf8 : Encoding.detect (Text.Utf8.encode text) = .utf8 := by
    obtain ⟨rest, begins⟩ := begins
    rw [begins]
    rfl
  rw [utf8]
  show Text.Utf8.decodePoints (Text.Utf8.encode text) = _
  rw [Text.Utf8.decodePoints_ascii (Text.Utf8.lt_of_mem_encode ascii),
    Text.Utf8.map_encode_ascii ascii]

theorem Payload.isWritable_of_readJson {octets : List UInt8} :
    (∀ v, readJson octets = .value v → v.isWritable = true) ∧
      ∀ d, readJson octets = .broken d → d.seen.isWritable = true := by
  unfold readJson
  split
  · exact ⟨nofun, nofun⟩
  · split
    · next read =>
      have writable := Json.readDocument_isWritable read
      split
      · exact ⟨by rintro v ⟨⟩; exact writable, nofun⟩
      · exact ⟨nofun, by rintro d ⟨⟩; exact writable⟩
    · split <;> exact ⟨nofun, nofun⟩

theorem Payload.isWritable_of_read {contentType : Option String} {octets : List UInt8} :
    (∀ v, Payload.read contentType octets = .value v → v.isWritable = true) ∧
      ∀ d, Payload.read contentType octets = .broken d → d.seen.isWritable = true := by
  unfold Payload.read
  split
  · exact ⟨nofun, nofun⟩
  · split
    · exact isWritable_of_readJson
    · split
      · exact ⟨by rintro v ⟨⟩; rfl, nofun⟩
      · exact ⟨nofun, nofun⟩

/-- The length of a binary that is offered can be told. -/
inductive Offer.IsWritable : Offer → Prop where
  | value {binary : Option BlobInfo} (writable : ∀ info ∈ binary, info.IsWritable) :
      IsWritable (.value (ConversionRequest.mk binary).candidate)
  | broken {info : BlobInfo} (identity : List Text.CodePoint) (writable : info.IsWritable) :
      IsWritable (.broken info.size identity)

namespace Service

variable {service : Service} {request : Request} {endpoint : Endpoint} {offer : Offer}

theorem isWritable_brokenOffer (d : Json.Document) {conversion : ConversionRequest}
    (writable : ∀ info ∈ conversion.binary, info.IsWritable) :
    (brokenOffer d conversion).IsWritable := by
  unfold brokenOffer
  split
  · next info identity named _ =>
    split
    · exact .broken identity (writable info named)
    · exact .value writable
  · exact .value writable

theorem isWritable_of_readOffer (read : readOffer request = .ok offer) : offer.IsWritable := by
  unfold readOffer at read
  -- four kinds of payloads are refused whatever they hold
  split at read
  · cases read
  · cases read
  · cases read
  · cases read
  · next d broken =>
    unfold readBroken at read
    split at read
    · next known =>
      cases read
      exact isWritable_brokenOffer d (ConversionRequest.isWritable_of_ofValue
        (Payload.isWritable_of_read.2 d broken) known)
    · cases read
  · next v whole =>
    split at read
    · next known =>
      cases read
      exact .value (ConversionRequest.isWritable_of_ofValue
        (Payload.isWritable_of_read.1 v whole) known)
    · cases read

theorem isWritable_of_readPath {bindings : Bindings} {info : BlobInfo}
    (read : readPath request bindings = .ok info) : info.IsWritable := by
  unfold readPath readBinary at read
  dsimp only at read
  split at read
  · next identity size _ length =>
    cases read
    rintro n ⟨⟩
    -- the query is a text, and its length is read from it like from any other value
    split at length
    · next text _ =>
      cases number : Checked.integer (.text text) with
      | error e =>
        rw [number] at length
        cases length
      | ok m =>
        rw [number] at length
        cases length
        exact Checked.integer_isWritable rfl number
    · cases length
  · cases read

theorem isWritable_of_asks (asks : Asks service request endpoint offer) : offer.IsWritable := by
  obtain ⟨conversion, bindings, -, read⟩ := asks
  rcases conversion with rfl | rfl
  · exact isWritable_of_readOffer read
  · obtain ⟨info, known, rfl⟩ := offerAt_redirect_eq_ok_iff.mp read
    have writable : ∀ told ∈ some info, told.IsWritable := by
      rintro _ ⟨⟩
      exact isWritable_of_readPath known
    exact .value writable

end Service

end Http

/-! ## Records -/

namespace Conversion

variable {held : Option SignerConfiguration} {now : Value} {info : BlobInfo} {r : Logging.Record}

theorem exists_issuedWords (shown : String) {n : Int}
    (writable : (Value.integer n).isWritable = true) :
    ∃ message, issuedWords shown (.integer n) = .ok message := by
  have number : Numeral.write n = .ok (Value.integer n).shown := by
    rw [← Value.written_integer, Value.written, if_pos writable]
  simp [issuedWords, Value.toInteger_integer, number, bind, Except.bind, pure, Except.pure]

theorem not_isNull_of_passes {least : Int} {length identity : Value}
    (passed : passes least length identity = .ok true) :
    length.isNull = false ∧ identity.isNull = false := by
  unfold passes at passed
  cases null : length.isNull with
  | true => simp [null] at passed
  | false =>
    simp only [null, Bool.false_eq_true, if_false] at passed
    split at passed
    · cases passed
    · rw [Except.ok.injEq, Bool.and_eq_true, Bool.and_eq_true] at passed
      exact ⟨rfl, by simpa using passed.1.2⟩

/-- Every record of the conversion of a binary whose length can be told has a message. -/
theorem exists_message_of_isWritable (writable : info.IsWritable)
    (mem : r ∈ (of held now info.toCandidate).records) : ∃ message, r.message = .ok message := by
  cases held with
  | none =>
    obtain rfl := List.mem_singleton.mp mem
    exact ⟨_, rfl⟩
  | some config =>
    obtain ⟨size, contentIdentity⟩ := info
    have failure {cause : ConversionFailure}
        (mem : r ∈ (failed (Value.ofText? contentIdentity) cause).records) :
        ∃ message, r.message = .ok message := by
      obtain rfl := List.mem_singleton.mp mem
      cases contentIdentity <;> exact ⟨_, rfl⟩
    simp only [BlobInfo.toCandidate, of, ofBlob, BlobInfo.toBlob] at mem
    split at mem
    · exact failure mem
    · cases mem
    · next passed =>
      -- what passes has a length and an identity, and the length can be told
      obtain ⟨known, named⟩ := not_isNull_of_passes passed
      cases size with
      | none => cases known
      | some n =>
        cases contentIdentity with
        | none => cases named
        | some identity =>
          unfold sign at mem
          split at mem
          · exact failure mem
          · obtain rfl := List.mem_singleton.mp mem
            exact exists_issuedWords (Value.text identity).shown (writable n rfl)

/-- What was issued has a length that is known. -/
theorem exists_size_of_issued {config : SignerConfiguration}
    (issued : (of (some config) now info.toCandidate).outcome = .issued) :
    ∃ n, info.size = some n := by
  obtain ⟨size, contentIdentity⟩ := info
  simp only [BlobInfo.toCandidate, of, ofBlob, BlobInfo.toBlob] at issued
  split at issued
  · cases issued
  · cases issued
  · next passed =>
    cases size with
    | none => cases (not_isNull_of_passes passed).1
    | some n => exact ⟨n, rfl⟩

end Conversion

namespace Http

/-- Every record about what is offered has a message, if its length can be told. -/
theorem Offer.exists_message {offer : Offer} (writable : offer.IsWritable)
    (config : SignerConfiguration) {now : Value} {r : Logging.Record}
    (mem : r ∈ offer.records (Conversion.of (some config) now offer.candidate)) :
    ∃ message, r.message = .ok message := by
  cases writable with
  | @value binary writable =>
    cases binary with
    | none => cases mem
    | some info => exact Conversion.exists_message_of_isWritable (writable info rfl) mem
  | @broken info identity writable =>
    obtain ⟨told, within, rfl⟩ := List.mem_map.mp mem
    generalize outcome : (Conversion.of _ _ _).outcome = was at *
    unfold retold
    dsimp only
    split
    · -- the length of an issued link is that of the binary
      obtain ⟨n, known⟩ := Conversion.exists_size_of_issued outcome
      have known : info.size = some n := known
      rw [known]
      exact Conversion.exists_issuedWords _ (writable n known)
    · exact ⟨_, rfl⟩
    · -- all other records stay as they are
      have writable : BlobInfo.IsWritable ⟨info.size, some (.ofList (Text.seen identity))⟩ :=
        writable
      exact Conversion.exists_message_of_isWritable writable within

theorem Service.exists_message_of_asks {service : Service} {request : Request}
    {endpoint : Endpoint} {offer : Offer} (asks : Service.Asks service request endpoint offer)
    (active : service.converter.isActive = true) {now : Value} {r : Logging.Record}
    (mem : r ∈ (service.respond now request).records) : ∃ message, r.message = .ok message := by
  rw [respond_of_active asks active] at mem
  obtain ⟨config, held⟩ := Option.isSome_iff_exists.mp active
  have mem : r ∈ offer.records (Conversion.of service.converter.config now offer.candidate) := mem
  rw [held] at mem
  exact offer.exists_message (isWritable_of_asks asks) config mem

end Http

end SignedLink
