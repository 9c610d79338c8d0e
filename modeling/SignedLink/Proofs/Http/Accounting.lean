import SignedLink.Proofs.Http.Availability
import SignedLink.Proofs.Json.RoundTrip
import SignedLink.Proofs.Provider.Accounting
import SignedLink.Proofs.Signing.Success
/-!
# SignedLink — answers and metrics

The counters can be read off the answers that were sent. A hit is an answer
that leads to a link: a document that says to go there, or a redirect. A miss is
an answer that says that there is none: a document without an address, or the
problem of the conversion by path. Misses are what is counted as skipped or
failed, and hits are what is counted as issued, but not all of it: a document
whose identity has halves of surrogate pairs in it gets its link, and the link is
counted, and then the answer cannot be written. Every other answer goes with no
change in any metric, whatever came with the request.

* `Exchange.isHit`, `Exchange.isLost`, `Exchange.isMiss`: the answers that count.
* `count_respond`: what one request adds to the counters.
* `answers_accounted`: the counters and the answers of any run.
* `readOffer_powerText`: a document with too many digits in a number is refused before it is looked
  at.
-/

namespace SignedLink.Http

/-! ## Hits and misses -/

/-- The value under a name in the document of an answer. -/
def Answer.field? (answer : Answer) (name : String) : Option Value :=
  match answer.body with
  | .json (.record fields) => Fields.find? fields name
  | _ => none

/-- A request, the place that it reaches, and the answer to it. -/
structure Exchange where
  request : Request
  destination : Destination
  answer : Answer

namespace Exchange

/-- The answers that lead to a link: a document that says to go there, or a redirect. -/
def isHit (exchange : Exchange) : Bool :=
  match exchange.destination with
  | .endpoint .convert _ =>
    match exchange.answer.status, exchange.answer.field? "redirect" with
    | 200, some (.boolean true) => true
    | _, _ => false
  | .endpoint .redirect _ => exchange.answer.status == 307
  | _ => false

/-- The answers that say that there is no link: a document without an address, or a problem. -/
def isMiss (exchange : Exchange) : Bool :=
  match exchange.destination with
  | .endpoint .convert _ =>
    match exchange.answer.status, exchange.answer.field? "uri" with
    | 200, some .null => true
    | _, _ => false
  | .endpoint .redirect _ =>
    match exchange.answer.status, exchange.answer.field? "message" with
    | 404, some (.text "No CDN redirect") => true
    | _, _ => false
  | _ => false

/-- The answers that could not be written to documents that could be read. -/
def isLost (exchange : Exchange) : Bool :=
  match exchange.destination with
  | .endpoint .convert _ =>
    exchange.answer.status == 500 && (Service.readOffer exchange.request).isOk
  | _ => false

/-- An exchange that is neither a hit nor a miss, and in which nothing was lost. -/
structure IsUncounted (exchange : Exchange) : Prop where
  hit : exchange.isHit = false
  lost : exchange.isLost = false
  miss : exchange.isMiss = false

end Exchange

namespace Service

variable {service : Service} {request : Request} {endpoint : Endpoint} {offer : Offer}
  {bindings : Bindings}

/-- The exchange of a request. -/
def exchange (service : Service) (now : Value) (request : Request) : Exchange :=
  ⟨request, service.destinationOf request, (service.respond now request).result⟩

/-- The exchanges of a run, in order. -/
def exchanges (service : Service) : List Event → List Exchange
  | [] => []
  | .request now request :: rest =>
    service.exchange now request :: (service.respond now request).service.exchanges rest
  | event :: rest => (service.handle event).service.exchanges rest

/-! ## Which answers count -/

/-- An answer that shows an address or the lack of one is a hit or a miss. -/
theorem counted_answer (conversion : endpoint.IsConversion)
    (reaches : service.destinationOf request = .endpoint endpoint bindings)
    (uri : Option String) :
    let exchange : Exchange := ⟨request, service.destinationOf request, endpoint.answer uri⟩
    exchange.isHit = uri.isSome ∧ exchange.isLost = false ∧ exchange.isMiss = uri.isNone := by
  rw [reaches]
  rcases conversion with rfl | rfl
  · cases uri <;> exact ⟨rfl, rfl, rfl⟩
  · cases uri <;> exact ⟨rfl, rfl, rfl⟩

/-- An answer with none of the statuses of hits and misses is neither. -/
theorem not_isHit_of_status (request : Request) (destination : Destination) {answer : Answer}
    (other : answer.status ≠ 200 ∧ answer.status ≠ 307 ∧ answer.status ≠ 404) :
    Exchange.isHit ⟨request, destination, answer⟩ = false ∧
      Exchange.isMiss ⟨request, destination, answer⟩ = false := by
  obtain ⟨noDocument, noRedirect, noProblem⟩ := other
  constructor
  · unfold Exchange.isHit
    split
    · split
      · next is _ => exact absurd is noDocument
      · rfl
    · exact beq_eq_false_iff_ne.mpr noRedirect
    · rfl
  · unfold Exchange.isMiss
    split
    · split
      · next is _ => exact absurd is noDocument
      · rfl
    · split
      · next is _ => exact absurd is noProblem
      · rfl
    · rfl

/-- Refusals that are told, and the lack of a configuration, do not count. -/
theorem isUncounted_of_status (destination : Destination) {answer : Answer}
    (refused : answer.status = 400 ∨ answer.status = 422 ∨ answer.status = 503) :
    Exchange.IsUncounted ⟨request, destination, answer⟩ := by
  obtain ⟨hit, miss⟩ := not_isHit_of_status request destination
    (by omega : answer.status ≠ 200 ∧ answer.status ≠ 307 ∧ answer.status ≠ 404)
  refine ⟨hit, ?_, miss⟩
  have told : (answer.status == 500) = false := beq_eq_false_iff_ne.mpr (by omega)
  unfold Exchange.isLost
  split
  · rw [told]
    rfl
  · rfl

/-- What cannot be read does not count, whether its refusal is told or not. -/
theorem isUncounted_of_unread {refusal : Answer} (conversion : endpoint.IsConversion)
    (unread : offerAt request bindings endpoint = .error refusal) :
    Exchange.IsUncounted ⟨request, .endpoint endpoint bindings, refusal⟩ := by
  have status := (refuses_of_unread unread).status
  obtain ⟨hit, miss⟩ := not_isHit_of_status request (.endpoint endpoint bindings)
    (by omega : refusal.status ≠ 200 ∧ refusal.status ≠ 307 ∧ refusal.status ≠ 404)
  refine ⟨hit, ?_, miss⟩
  -- what is lost was read before
  rcases conversion with rfl | rfl
  · rw [offerAt] at unread
    simp only [Exchange.isLost, unread, Except.isOk, Except.toBool, Bool.and_false]
  · rfl

/-- Only the endpoints of conversions count. -/
theorem isUncounted_of_destination {destination : Destination} (answer : Answer)
    (other : ∀ endpoint bindings, destination = .endpoint endpoint bindings →
      ¬ endpoint.IsConversion) :
    Exchange.IsUncounted ⟨request, destination, answer⟩ := by
  have noDocument (bindings : Bindings) : destination ≠ .endpoint .convert bindings :=
    fun goes => other _ _ goes (.inl rfl)
  have noPath (bindings : Bindings) : destination ≠ .endpoint .redirect bindings :=
    fun goes => other _ _ goes (.inr rfl)
  refine ⟨?_, ?_, ?_⟩
  · unfold Exchange.isHit
    split
    · next goes => exact (noDocument _ goes).elim
    · next goes => exact (noPath _ goes).elim
    · rfl
  · unfold Exchange.isLost
    split
    · next goes => exact (noDocument _ goes).elim
    · rfl
  · unfold Exchange.isMiss
    split
    · next goes => exact (noDocument _ goes).elim
    · next goes => exact (noPath _ goes).elim
    · rfl

/-- A link that cannot be shown is lost. -/
theorem isLost_unwritable (asks : Asks service request .convert offer) (why : Unwritable) :
    let exchange : Exchange := ⟨request, service.destinationOf request, .unwritable why⟩
    exchange.isHit = false ∧ exchange.isLost = true ∧ exchange.isMiss = false := by
  obtain ⟨-, bindings, reaches, read⟩ := asks
  rw [offerAt] at read
  rw [reaches]
  refine ⟨rfl, ?_, rfl⟩
  simp only [Exchange.isLost, read]
  rfl

/-! ## One request -/

/-- A request is a hit, lost, a miss, or nothing of these; and it is tallied as one conversion, as
issued when it is a hit or lost and else as skipped or failed, or it leaves all metrics as they
are. -/
theorem tallied_respond (service : Service) (now : Value) (request : Request) :
    (∃ outcome,
      Tallied service.metrics (service.respond now request).service.metrics outcome .zero ∧
      (service.exchange now request).isHit.toNat + (service.exchange now request).isLost.toNat =
        (outcome == .issued).toNat ∧
      (service.exchange now request).isMiss = (outcome != .issued)) ∨
    ((service.respond now request).service.metrics = service.metrics ∧
      (service.exchange now request).IsUncounted) := by
  -- there is an address exactly when a link was issued
  have linked (candidate : Candidate) :
      ((service.converter.convert now candidate).outcome == .issued) =
        (service.converter.convert now candidate).uri.isSome := by
    rw [Bool.eq_iff_iff, beq_iff_eq]
    exact (Conversion.uri_isSome_iff ..).symm
  have done := responds service now request
  unfold exchange
  generalize service.respond now request = step at done ⊢
  cases done with
  | shown asks active converted sendable =>
    obtain ⟨conversion, bindings, reaches, -⟩ := asks
    subst converted
    left
    refine ⟨_, Conversion.tallied_account .., ?_⟩
    obtain ⟨hit, lost, miss⟩ := counted_answer conversion reaches
      (service.converter.convert now _).uri
    rw [bne, linked, hit, lost, miss, Option.not_isSome]
    exact ⟨rfl, rfl⟩
  | lost asks active converted there unsendable =>
    -- the conversion is counted like any other; only its answer is another
    subst converted
    left
    refine ⟨_, Conversion.tallied_account .., ?_⟩
    obtain ⟨hit, lost, miss⟩ := isLost_unwritable asks .half
    rw [bne, linked, there, hit, lost, miss]
    exact ⟨rfl, rfl⟩
  | unavailable asks inactive =>
    exact .inr ⟨rfl, isUncounted_of_status _ (.inr (.inr rfl))⟩
  | refused conversion reaches unread =>
    rw [reaches]
    exact .inr ⟨rfl, isUncounted_of_unread conversion unread⟩
  | elsewhere other => exact .inr ⟨rfl, isUncounted_of_destination _ other⟩

/-- What does not count leaves all metrics as they are. -/
theorem metrics_respond {now : Value} (uncounted : (service.exchange now request).IsUncounted) :
    (service.respond now request).service.metrics = service.metrics := by
  obtain ⟨outcome, -, issued, missed⟩ | ⟨same, -⟩ := tallied_respond service now request
  · -- there is no third kind of outcome
    rw [uncounted.hit, uncounted.lost] at issued
    rw [uncounted.miss, bne] at missed
    cases is : outcome == .issued with
    | true =>
      rw [is] at issued
      cases issued
    | false =>
      rw [is] at missed
      cases missed
  · exact same

/-- What one request adds to the counters. -/
theorem count_respond (service : Service) (now : Value) (request : Request) :
    let after := (service.respond now request).service.metrics
    after.count "issued" = service.metrics.count "issued" +
      [service.exchange now request].countP Exchange.isHit +
      [service.exchange now request].countP Exchange.isLost ∧
    after.count "skipped" + after.count "failed" =
      service.metrics.count "skipped" + service.metrics.count "failed" +
        [service.exchange now request].countP Exchange.isMiss := by
  have single (p : Exchange → Bool) (e : Exchange) : [e].countP p = (p e).toNat := by
    rw [List.countP_singleton]
    cases p e <;> rfl
  rw [single, single, single]
  dsimp only
  obtain ⟨outcome, tallied, hit, miss⟩ | ⟨same, uncounted⟩ := tallied_respond service now request
  · -- the outcome adds one to its own counter and nothing to the two others
    have issued := tallied.counted .issued
    have skipped := tallied.counted .skipped
    have failed := tallied.counted .failed
    simp only [Outcome.label] at issued skipped failed
    rw [Nat.add_assoc, hit, miss, issued, skipped, failed]
    cases outcome with
    | issued => exact ⟨rfl, rfl⟩
    | skipped =>
      refine ⟨rfl, ?_⟩
      show _ + 1 + (_ + 0) = _ + 1
      omega
    | failed => exact ⟨rfl, rfl⟩
  · rw [same, uncounted.hit, uncounted.lost, uncounted.miss]
    exact ⟨rfl, rfl⟩

/-! ## Answers -/

/-- A document that was sent says to go to an address exactly when it has one. -/
theorem fields_of_document {now : Value}
    (reaches : service.destinationOf request = .endpoint .convert bindings)
    (success : (service.respond now request).result.status = 200) :
    ∃ uri, (service.respond now request).result.field? "uri" = some (Value.ofText? uri) ∧
      (service.respond now request).result.field? "redirect" =
        some (.boolean uri.isSome) := by
  have done := responds service now request
  generalize service.respond now request = step at done success ⊢
  cases done with
  | shown asks active converted sendable =>
    obtain ⟨-, elsewhere, goes, -⟩ := asks
    cases reaches.symm.trans goes
    exact ⟨_, rfl, rfl⟩
  | lost | unavailable => cases success
  | @refused _ _ refusal conversion goes unread =>
    have status := (refuses_of_unread unread).status
    have success : refusal.status = 200 := success
    omega
  | elsewhere other => exact (other _ _ reaches (.inl rfl)).elim

/-- The answers to well-formed requests when there is a configuration, and the ones that cannot be
written. -/
theorem status_of_active (asks : Asks service request endpoint offer)
    (active : service.converter.isActive = true) (now : Value) :
    let status := (service.respond now request).result.status
    (endpoint = .convert ∧ (status = 200 ∨ status = 500) ∨
      endpoint = .redirect ∧ (status = 307 ∨ status = 404)) ∧
    (status = 500 ↔ offer.isSendable = false ∧
      (service.converter.convert now offer.candidate).outcome = .issued) := by
  have linked : (service.converter.convert now offer.candidate).uri.isSome = true ↔
      (service.converter.convert now offer.candidate).outcome = .issued :=
    Conversion.uri_isSome_iff ..
  rw [← linked]
  have done := responds service now request
  generalize service.respond now request = step at done ⊢
  cases done with
  | @shown _ _ conversion also _ converted sendable =>
    obtain ⟨rfl, rfl⟩ := asks.unique also
    have shown : ¬ (offer.isSendable = false ∧ conversion.uri.isSome = true) := by
      rintro ⟨unsendable, linked⟩
      cases unsendable.symm.trans (sendable linked)
    rw [converted]
    dsimp only
    obtain ⟨is, status⟩ | ⟨is, status⟩ := status_answer asks.1 conversion.uri
    · rw [status]
      exact ⟨.inl ⟨is, .inl rfl⟩, iff_of_false (by decide) shown⟩
    · rw [status]
      split
      · exact ⟨.inr ⟨is, .inl rfl⟩, iff_of_false (by decide) shown⟩
      · exact ⟨.inr ⟨is, .inr rfl⟩, iff_of_false (by decide) shown⟩
  | lost also _ converted linked unsendable =>
    obtain ⟨rfl, rfl⟩ := asks.unique also
    rw [converted]
    exact ⟨.inl ⟨rfl, .inr rfl⟩, iff_of_true rfl ⟨unsendable, linked⟩⟩
  | unavailable also inactive => cases active.symm.trans inactive
  | refused conversion reaches unread =>
    obtain ⟨-, elsewhere, goes, read⟩ := asks
    cases reaches.symm.trans goes
    cases unread.symm.trans read
  | elsewhere other =>
    obtain ⟨conversion, bindings, reaches, -⟩ := asks
    exact (other _ _ reaches conversion).elim

/-! ## Runs -/

/-- After a run the counters have grown by the hits, what was lost, and the misses among its
answers. -/
theorem count_after (service : Service) (events : List Event) :
    let after := (service.after events).metrics
    after.count "issued" = service.metrics.count "issued" +
      (service.exchanges events).countP Exchange.isHit +
      (service.exchanges events).countP Exchange.isLost ∧
    after.count "skipped" + after.count "failed" =
      service.metrics.count "skipped" + service.metrics.count "failed" +
        (service.exchanges events).countP Exchange.isMiss := by
  induction events generalizing service with
  | nil => exact ⟨rfl, rfl⟩
  | cons event rest ih =>
    cases event with
    | request now request =>
      -- the first exchange counts by itself, and the run goes on from the service it leaves
      obtain ⟨issued, misses⟩ := count_respond service now request
      obtain ⟨laterIssued, laterMisses⟩ := ih (service.respond now request).service
      have run : service.after (.request now request :: rest) =
          (service.respond now request).service.after rest := rfl
      rw [run, exchanges, ← List.singleton_append, List.countP_append, List.countP_append,
        List.countP_append]
      exact ⟨by omega, by omega⟩
    | detach => exact ih service.detach
    | deactivate => exact ih service.deactivate.service

/-- At any point of any run, the counters have grown by the hits and the misses among the answers
that were sent, and by the links that were lost. Of the next answer: a refusal of what cannot be
read, the lack of a configuration and whatever does not come from the endpoints of conversions go
with no change in any metric; a document says to go to an address exactly when it has one; and a
well-formed request for which there is a configuration is answered with a document, with a redirect
or with the problem that there is no link, unless a link was made that the document cannot show. -/
theorem answers_accounted (service : Service) (events : List Event) :
    let s := service.after events
    s.metrics.count "issued" =
      service.metrics.count "issued" + (service.exchanges events).countP Exchange.isHit +
        (service.exchanges events).countP Exchange.isLost ∧
    s.metrics.count "skipped" + s.metrics.count "failed" =
      service.metrics.count "skipped" + service.metrics.count "failed" +
        (service.exchanges events).countP Exchange.isMiss ∧
    ∀ now request,
      let step := s.respond now request
      (step.result.status = 422 ∨ step.result.status = 503 ∨
          (∀ endpoint offer, ¬ Asks s request endpoint offer) →
        step.service.metrics = s.metrics) ∧
      (∀ bindings, s.destinationOf request = .endpoint .convert bindings →
        step.result.status = 200 →
        ∃ uri, step.result.field? "uri" = some (Value.ofText? uri) ∧
          step.result.field? "redirect" = some (.boolean uri.isSome)) ∧
      (∀ endpoint offer, Asks s request endpoint offer → s.converter.isActive = true →
        (endpoint = .convert ∧ (step.result.status = 200 ∨ step.result.status = 500) ∨
          endpoint = .redirect ∧ (step.result.status = 307 ∨ step.result.status = 404)) ∧
        (step.result.status = 500 ↔ offer.isSendable = false ∧
          (s.converter.convert now offer.candidate).outcome = .issued) ∧
        ∀ r ∈ step.records, ∃ message, r.message = .ok message) := by
  intro s
  obtain ⟨issued, misses⟩ := count_after service events
  refine ⟨issued, misses, fun now request => ⟨?_, fun bindings => fields_of_document, ?_⟩⟩
  · rintro (unprocessable | unavailable | unasked)
    · exact metrics_respond (isUncounted_of_status _ (.inr (.inl unprocessable)))
    · exact metrics_respond (isUncounted_of_status _ (.inr (.inr unavailable)))
    · have done := responds s now request
      show (s.respond now request).service.metrics = s.metrics
      generalize s.respond now request = step at done ⊢
      cases done with
      | shown asks => exact (unasked _ _ asks).elim
      | lost asks => exact (unasked _ _ asks).elim
      | unavailable | refused | elsewhere => rfl
  · intro endpoint offer asks active
    obtain ⟨answers, lost⟩ := status_of_active asks active now
    exact ⟨answers, lost, fun r => exists_message_of_asks asks active⟩

/-! ## The service of a key -/

/-- A service with the key of two Mersenne primes. -/
def mersenne : Service where
  settings := .mersenne
  routes := routesBehind true (.literal "/api/v1".toList)
  provider := ⟨some Settings.mersenneSigner⟩
  attached := true
  metrics := .empty

/-- Its signer makes a link for every binary of one octet with a long enough identity. -/
theorem exists_link_mersenneSigner (identity : String) (long : 4 ≤ identity.toList.length) :
    ∃ link signature, StorageKey.ofText? identity = some link.storageKey ∧
      Link.IsIssued "https://files.example/" "K1" (.rsa .mersenneKey) link signature ∧
      (mersenne.converter.convert (.integer 0)
        (⟨some 1, some identity⟩ : BlobInfo).toCandidate).outcome = .issued ∧
      (mersenne.converter.convert (.integer 0)
        (⟨some 1, some identity⟩ : BlobInfo).toCandidate).uri = some link.url := by
  obtain ⟨link, signature, signed, stored, -, issued⟩ :=
    Link.exists_issued identity "https://files.example/" "K1" .mersenneKey 60 long
      (by rw [Rsa.PrivateKey.size_mersenneKey]; decide) (.integer 0) (by decide)
  have issues : Conversion.Issues (some Settings.mersenneSigner) (.integer 0)
      (⟨some 1, some identity⟩ : BlobInfo).toCandidate link :=
    .signed rfl ⟨rfl, by decide, rfl⟩ signed
  have threshold : HasThreshold (some Settings.mersenneSigner) := by
    rintro _ ⟨⟩
    exact Int.le_refl 0
  exact ⟨link, signature, stored, issued, Conversion.of_issues threshold issues⟩

/-! ## Answers that do not account for what was asked -/

/-- A request to this service whose document spells half of a surrogate pair in its identity. -/
def halfPost : Request where
  origin := "http://localhost"
  method := "POST"
  target := .ofString "/api/v1/uri"
  contentType := some "application/json"
  payload := Text.Utf8.encode
    "\x7b\"binary\":\x7b\"length\":1,\"content_identity\":\"\\ud800abc\"\x7d\x7d".toList

/-- What is known of a binary whose identity has halves of surrogate pairs in it. -/
def broken? : Offer → Option (Option Int × List Text.CodePoint)
  | .broken size identity => some (size, identity)
  | .value _ => none

theorem broken?_eq_some_iff {size : Option Int} {identity : List Text.CodePoint} :
    broken? offer = some (size, identity) ↔ offer = .broken size identity := by
  cases offer <;> simp [broken?]

/-- The half that the escape spells, and the letters behind it. -/
def halfIdentity : List Text.CodePoint :=
  [.ofNat 0xD800, .scalar 'a', .scalar 'b', .scalar 'c']

theorem asks_halfPost :
    Asks mersenne halfPost .convert (.broken (some 1) halfIdentity) := by
  have reaches : mersenne.destinationOf halfPost = .endpoint .convert [] := by decide +kernel
  have known : (readOffer halfPost).toOption.bind broken? = some (some 1, halfIdentity) := by
    decide +kernel
  refine ⟨.inl rfl, [], reaches, ?_⟩
  show readOffer halfPost = _
  cases read : readOffer halfPost with
  | error refusal =>
    rw [read] at known
    cases known
  | ok offer =>
    rw [read] at known
    rw [broken?_eq_some_iff.mp known]

/-- A document about a binary whose length is a power of ten. -/
def powerText (n : Nat) (rest : List Char) : List Char :=
  "\x7b\"binary\":\x7b\"length\":".toList ++ '1' :: (List.replicate n '0' ++ rest)

/-- The reader gets as far as the length, and no further when it has too many digits. -/
theorem value_powerText {n : Nat} {rest : List Char} (long : Fault.numeralLimit ≤ n)
    (ends : Json.EndsNumber rest) (allowance depth : Nat) :
    Json.value [] (allowance + 5) (depth + 2) 0 (powerText n rest) =
      .error ⟨.longNumeral, 20⟩ := by
  have digits : ∀ c ∈ '1' :: List.replicate n '0', Text.isAsciiDigit c = true := by
    refine List.forall_mem_cons.mpr ⟨rfl, fun c mem => ?_⟩
    rw [(List.mem_replicate.mp mem).2]
    rfl
  have many : Fault.numeralLimit < ('1' :: List.replicate n '0').length := by
    rw [List.length_cons, List.length_replicate]
    exact Nat.lt_succ_of_le long
  have first : Text.isAsciiDigit '1' = true := rfl
  have refused : Json.value [] (allowance + 1) depth 20
      ('1' :: (List.replicate n '0' ++ rest)) = .error ⟨.longNumeral, 20⟩ := by
    rw [Json.value_plain allowance depth 20 (by decide) (by decide) (by decide)]
    exact (Json.wordOrNumber_of_digit first false _ 20).trans
      (Json.number_of_long digits nofun many ends false 20)
  -- two braces and two names stand in front of the length
  unfold powerText
  simp [Json.value, Json.members, Json.stringBody, Json.skipSpace, Json.isSpace, refused]

theorem readDocument_powerText {n : Nat} {rest : List Char} (long : Fault.numeralLimit ≤ n)
    (ends : Json.EndsNumber rest) :
    Json.readDocument (Text.points (powerText n rest)) = .error ⟨.longNumeral, 20⟩ := by
  have room : 5 ≤ 2 * (powerText n rest).length + 2 := by
    have least : 2 ≤ Fault.numeralLimit := by decide
    unfold powerText
    simp only [List.length_append, List.length_cons, List.length_replicate]
    omega
  obtain ⟨allowance, enough⟩ := Nat.exists_eq_add_of_le' room
  have start : Json.skipSpace 0 (powerText n rest) = (0, powerText n rest) := by
    unfold powerText
    simp [Json.skipSpace, Json.isSpace]
  have deep : Json.depthLimit = 948 + 2 := rfl
  simp only [Json.readDocument, Json.halvesOf_points, Text.seen_points, Json.documentWithin, enough,
    start, deep, value_powerText long ends]

/-- The whole document is refused for the number, and not told apart from octets that are no text. -/
theorem readOffer_powerText {n : Nat} {rest : List Char} (long : Fault.numeralLimit ≤ n)
    (ends : Json.EndsNumber rest) (ascii : ∀ c ∈ rest, c.toNat < 128)
    (json : request.contentType = some "application/json")
    (payload : request.payload = Text.Utf8.encode (powerText n rest)) :
    readOffer request = .error (.detail 400 [] (.text "There was an error parsing the body")) := by
  have begins : ∃ behind, Text.Utf8.encode (powerText n rest) =
      0x7B :: 0x22 :: 0x62 :: 0x69 :: behind := ⟨_, rfl⟩
  have text : ∀ c ∈ powerText n rest, c.toNat < 128 := by
    unfold powerText
    refine List.forall_mem_append.mpr ⟨by simp, List.forall_mem_cons.mpr ⟨by simp,
      List.forall_mem_append.mpr ⟨fun c mem => ?_, ascii⟩⟩⟩
    rw [(List.mem_replicate.mp mem).2]
    simp
  have decoded := Encoding.decode_ascii text begins
  have nonempty : (Text.Utf8.encode (powerText n rest)).isEmpty = false := by
    obtain ⟨behind, begins⟩ := begins
    rw [begins]
    rfl
  have isJson : isJson (some "application/json") = true := by decide
  simp only [readOffer, json, payload, Payload.read, nonempty, isJson, readJson, decoded,
    readDocument_powerText long ends, Bool.false_eq_true, if_false, if_true, true_or]

/-- A request to this service with a length that has one digit more than are read. -/
def longPost : Request :=
  { halfPost with
    payload := Text.Utf8.encode
      (powerText Fault.numeralLimit ",\"content_identity\":\"abcd\"\x7d\x7d".toList) }

theorem readOffer_longPost :
    readOffer longPost = .error (.detail 400 [] (.text "There was an error parsing the body")) := by
  have ends : Json.EndsNumber ",\"content_identity\":\"abcd\"\x7d\x7d".toList := by
    rintro c ⟨⟩
    decide
  unfold longPost
  exact readOffer_powerText (Nat.le_refl _) ends (by simp) rfl rfl

/-- The link is counted as issued, but what is answered is no hit. -/
theorem respond_halfPost :
    let step := mersenne.respond (.integer 0) halfPost
    (∃ offer, Asks mersenne halfPost .convert offer) ∧ step.result.status = 500 ∧
      step.service.metrics.count "issued" = mersenne.metrics.count "issued" + 1 ∧
      (mersenne.exchanges [.request (.integer 0) halfPost]).countP Exchange.isHit = 0 := by
  intro step
  -- of the identity only its length matters
  obtain ⟨identity, long, asks⟩ : ∃ identity, 4 ≤ (Text.seen identity).length ∧
      Asks mersenne halfPost .convert (.broken (some 1) identity) :=
    ⟨halfIdentity, by decide, asks_halfPost⟩
  obtain ⟨link, signature, -, -, issued, -⟩ :=
    exists_link_mersenneSigner (.ofList (Text.seen identity)) (by rwa [String.toList_ofList])
  have status : step.result.status = 500 :=
    (status_of_active asks rfl (.integer 0)).2.mpr ⟨rfl, issued⟩
  obtain ⟨hit, -⟩ := not_isHit_of_status halfPost
    (mersenne.destinationOf halfPost) (by omega : step.result.status ≠ 200 ∧
      step.result.status ≠ 307 ∧ step.result.status ≠ 404)
  have tallied : Tallied mersenne.metrics step.service.metrics .issued .zero := by
    have account := Conversion.tallied_account (mersenne.converter.convert (.integer 0)
      (Offer.broken (some 1) identity).candidate) .zero mersenne.metrics
    rw [← issued]
    show Tallied _ (mersenne.respond (.integer 0) halfPost).service.metrics _ _
    rw [respond_of_active asks rfl]
    exact account
  refine ⟨⟨_, asks⟩, status, tallied.counted .issued, ?_⟩
  show [mersenne.exchange (.integer 0) halfPost].countP Exchange.isHit = 0
  rw [List.countP_singleton]
  show (if Exchange.isHit ⟨halfPost, _, step.result⟩ = true then 1 else 0) = 0
  rw [hit]
  rfl

/-- The length is not read, so nothing is answered about a link. -/
theorem respond_longPost : (mersenne.respond (.integer 0) longPost).result.status = 400 := by
  have reaches : mersenne.destinationOf longPost = .endpoint .convert [] := by decide +kernel
  rw [respond_of_unread (.inl rfl) reaches readOffer_longPost]
  rfl

/-- A binary with half of a surrogate pair in its identity is counted as issued without a hit, and
one with a longer length than is read is answered neither with a link nor with the lack of one. -/
theorem not_accounted_mersenne :
    let step := mersenne.respond (.integer 0) halfPost
    ((∃ offer, Asks mersenne halfPost .convert offer) ∧ step.result.status = 500 ∧
      step.service.metrics.count "issued" = mersenne.metrics.count "issued" + 1 ∧
      (mersenne.exchanges [.request (.integer 0) halfPost]).countP Exchange.isHit = 0) ∧
    (mersenne.respond (.integer 0) longPost).result.status = 400 :=
  ⟨respond_halfPost, respond_longPost⟩

end Service

end SignedLink.Http
