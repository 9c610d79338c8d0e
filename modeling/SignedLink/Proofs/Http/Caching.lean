import Mathlib.Data.List.ReduceOption
import SignedLink.Proofs.Http.Locations
/-!
# SignedLink — what may be kept of the answers

Answers about conversions should be kept by nobody on the way. Those with a
link or the lack of one say so, at both endpoints. The answer that there is no
configuration does not, though the endpoint of documents has already asked for
it: what it asked for is lost with the answer that the problem replaces. Neither
does the refusal of what cannot be read, which reaches no endpoint at all, nor
the answer in the place of one that cannot be written.

* `destinationOf_of_isFor`: a request for a conversion is not given to anything else.
* `isNoStore_iff`: which answers of the two endpoints forbid keeping, by why they do not.
-/

namespace SignedLink.Http

/-- An answer that says that it is not to be kept. -/
def Answer.IsNoStore (answer : Answer) : Prop :=
  answer.headers.find? "cache-control" = some "no-store"

theorem Answer.not_isNoStore_of_absent {answer : Answer}
    (absent : answer.headers.find? "cache-control" = none) : ¬ answer.IsNoStore := by
  rw [IsNoStore, absent]
  nofun

/-- A request for conversions below a path: by document, or by path. -/
inductive Request.IsFor (request : Request) (apiPath : List Char) : Endpoint → Prop
  | document {template : Template} (method : request.method = "POST")
      (read : Template.ofPath (convertPath apiPath) = .ok template)
      (matched : (template.match? request.target.path).isSome = true) :
    IsFor request apiPath .convert
  | path {template : Template} (method : request.method = "GET")
      (read : Template.ofPath (redirectPath apiPath) = .ok template)
      (matched : (template.match? request.target.path).isSome = true) :
    IsFor request apiPath .redirect

theorem Request.IsFor.isConversion {request : Request} {apiPath : List Char} {endpoint : Endpoint}
    (directed : request.IsFor apiPath endpoint) : endpoint.IsConversion := by
  cases directed with
  | document => exact .inl rfl
  | path => exact .inr rfl

namespace Service

variable {service fresh : Service} {settings : Settings} {request : Request} {endpoint : Endpoint}
  {offer : Offer} {bindings : Bindings}

/-! ## Where such requests go -/

/-- No page and no other endpoint of the service hides a conversion. -/
theorem destinationOf_of_isFor (made : make settings = .ok fresh)
    (directed : request.IsFor settings.apiPath.toList endpoint) :
    ∃ bindings, fresh.destinationOf request = .endpoint endpoint bindings := by
  obtain ⟨found, routed, rfl⟩ := make_eq_ok made
  obtain ⟨first, rfl, -, convertible, redirectable⟩ := exists_templates_of_routes routed
  cases directed with
  | document method read matched =>
    cases convertible.symm.trans read
    obtain ⟨bindings, matched⟩ := Option.isSome_iff_exists.mp matched
    refine ⟨bindings, ?_⟩
    show destination (routesBehind settings.docsEnabled first) request.method _ = _
    rw [method]
    refine destination_of_findRoute? ?_
    rw [findRoute?_post, matched]
    rfl
  | path method read matched =>
    cases redirectable.symm.trans read
    obtain ⟨bindings, matched⟩ := Option.isSome_iff_exists.mp matched
    refine ⟨bindings, ?_⟩
    show destination (routesBehind settings.docsEnabled first) request.method _ = _
    rw [method]
    exact destination_of_match?_redirectable settings.docsEnabled matched

/-! ## Answers -/

/-- With a link or without one, an answer about a conversion is not to be kept. -/
theorem isNoStore_answer (conversion : endpoint.IsConversion) (uri : Option String) :
    (endpoint.answer uri).IsNoStore := by
  rcases conversion with rfl | rfl
  · rfl
  · cases uri with
    | none =>
      have headers : noRedirect.headers.find? "cache-control" = some "no-store" := by
        decide +kernel
      exact headers
    | some uri => rfl

/-- Nor is an answer about what was offered, if it can be written. -/
theorem isNoStore_offer (conversion : endpoint.IsConversion) (offer : Offer)
    (uri : Option String) :
    let answer := offer.answer endpoint.answer uri
    (answer.IsNoStore ∧ answer.status ≠ 500) ∨
      (answer.headers.find? "cache-control" = none ∧ answer.status = 500) := by
  unfold Offer.answer
  split
  · exact .inr ⟨rfl, rfl⟩
  · refine .inl ⟨isNoStore_answer conversion uri, ?_⟩
    obtain ⟨-, status⟩ | ⟨-, status⟩ := status_answer conversion uri
    · rw [status]
      decide
    · rw [status]
      split <;> decide

theorem Refuses.find?_cacheControl {answer : Answer} (refuses : Refuses answer) :
    answer.headers.find? "cache-control" = none := by
  cases refuses <;> rfl

/-- A refusal that cannot be written is told by its status. -/
theorem Refuses.status_eq_iff {answer : Answer} (refuses : Refuses answer) :
    answer.status = 500 ↔ ∃ why, answer = .unwritable why := by
  cases refuses with
  | @told status document known =>
    have other : status ≠ 500 := by omega
    exact iff_of_false other fun ⟨_, same⟩ => other (congrArg Answer.status same)
  | untold why => exact iff_of_true rfl ⟨why, rfl⟩

/-- What a path and a query hold can always be shown. -/
theorem readPath_ne_unwritable (why : Unwritable) :
    readPath request bindings ≠ .error (.unwritable why) := by
  intro unread
  unfold readPath readBinary at unread
  dsimp only at unread
  split at unread
  · cases unread
  · -- the only inputs are a text and a text or nothing
    have finite (name part : String) (s : Option String) {α : Type} (read : Checked α) :
        ∀ e ∈ (FieldError.ofReading? name (Value.ofText? s) read).map (FieldError.within part),
          isFinite e.input = true := by
      cases read with
      | ok _ => nofun
      | error violation =>
        rintro _ ⟨⟩
        cases s <;> rfl
    rw [Except.error.injEq, refused, refusedShowing, if_neg, if_neg Bool.false_ne_true] at unread
    · cases congrArg Answer.status unread
    · rw [List.any_eq_true]
      rintro ⟨e, mem, infinite⟩
      rw [List.reduceOption_mem_iff, List.mem_cons, List.mem_singleton] at mem
      rcases mem with path | query
      · rw [finite "content_identity" "path" (some _) _ e path.symm] at infinite
        cases infinite
      · rw [finite "length" "query" _ _ e query.symm] at infinite
        cases infinite

/-- What an endpoint refuses without telling why is a document that cannot be shown. -/
theorem offerAt_eq_unwritable_iff {why : Unwritable} (conversion : endpoint.IsConversion) :
    offerAt request bindings endpoint = .error (.unwritable why) ↔
      endpoint = .convert ∧ readOffer request = .error (.unwritable why) := by
  rcases conversion with rfl | rfl
  · exact (and_iff_right rfl).symm
  · refine iff_of_false ?_ (fun other => by cases other.1)
    show (readPath request bindings).map _ ≠ _
    cases read : readPath request bindings with
    | ok info => nofun
    | error refusal =>
      intro same
      cases same
      exact readPath_ne_unwritable why read

/-- A request for a conversion that can be read asks, and no other does. -/
theorem asks_iff_of_reaches (conversion : endpoint.IsConversion)
    (reaches : service.destinationOf request = .endpoint endpoint bindings) :
    Asks service request endpoint offer ↔ offerAt request bindings endpoint = .ok offer := by
  constructor
  · rintro ⟨-, elsewhere, goes, read⟩
    cases reaches.symm.trans goes
    exact read
  · exact fun read => ⟨conversion, bindings, reaches, read⟩

/-- Which answers forbid keeping; no other says anything of it. -/
theorem isNoStore_or_absent (conversion : endpoint.IsConversion)
    (reaches : service.destinationOf request = .endpoint endpoint bindings) (now : Value) :
    let answer := (service.respond now request).result
    let written := (∃ offer, Asks service request endpoint offer) ∧
      service.converter.isActive = true ∧ answer.status ≠ 500
    (answer.IsNoStore ∧ written) ∨ (answer.headers.find? "cache-control" = none ∧ ¬ written) := by
  cases read : offerAt request bindings endpoint with
  | ok offer =>
    -- the request can be read, so the configuration decides
    have asks := (asks_iff_of_reaches conversion reaches).mpr read
    cases held : service.converter.isActive with
    | true =>
      rw [respond_of_active asks held]
      rcases isNoStore_offer conversion offer (service.converter.convert now offer.candidate).uri
        with ⟨noStore, written⟩ | ⟨absent, lost⟩
      · exact .inl ⟨noStore, ⟨offer, asks⟩, rfl, written⟩
      · exact .inr ⟨absent, fun h => h.2.2 lost⟩
    | false =>
      -- the problem has headers of its own, and those that the endpoint has set are lost
      rw [respond_of_inactive asks held]
      exact .inr ⟨rfl, fun h => Bool.false_ne_true h.2.1⟩
  | error refusal =>
    -- what cannot be read is refused before anything asks for a configuration
    rw [respond_of_unread conversion reaches read]
    refine .inr ⟨(refuses_of_unread read).find?_cacheControl, ?_⟩
    rintro ⟨⟨offer, asks⟩, -⟩
    cases read.symm.trans ((asks_iff_of_reaches conversion reaches).mp asks)

/-- The answers that there is no configuration, and the refusals that are told. -/
theorem status_iff_of_reaches (conversion : endpoint.IsConversion)
    (reaches : service.destinationOf request = .endpoint endpoint bindings) (now : Value) :
    let status := (service.respond now request).result.status
    let asked := ∃ offer, Asks service request endpoint offer
    (status = 503 ↔ asked ∧ service.converter.isActive = false) ∧
      (status = 400 ∨ status = 422 ↔ ¬ asked ∧ status ≠ 500) := by
  cases read : offerAt request bindings endpoint with
  | ok offer =>
    have asks := (asks_iff_of_reaches conversion reaches).mpr read
    have asked : ∃ offer, Asks service request endpoint offer := ⟨offer, asks⟩
    cases held : service.converter.isActive with
    | true =>
      -- none of the statuses that go with a configuration is one of these
      obtain ⟨known, -⟩ := status_of_active asks held now
      exact ⟨iff_of_false (by omega) fun h => Bool.true_eq_false.mp h.2,
        iff_of_false (by omega) fun h => h.1 asked⟩
    | false =>
      have status : (service.respond now request).result.status = 503 := by
        rw [respond_of_inactive asks held]
        rfl
      exact ⟨iff_of_true status ⟨asked, rfl⟩, iff_of_false (by omega) fun h => h.1 asked⟩
  | error refusal =>
    have unasked : ¬ ∃ offer, Asks service request endpoint offer := by
      rintro ⟨offer, asks⟩
      cases read.symm.trans ((asks_iff_of_reaches conversion reaches).mp asks)
    have status : (service.respond now request).result.status = refusal.status := by
      rw [respond_of_unread conversion reaches read]
    have known := (refuses_of_unread read).status
    exact ⟨iff_of_false (by omega) fun h => unasked h.1,
      fun told => ⟨unasked, by omega⟩, fun h => by omega⟩

/-- The answers in the place of those that cannot be written. -/
theorem status_eq_500_iff (conversion : endpoint.IsConversion)
    (reaches : service.destinationOf request = .endpoint endpoint bindings) (now : Value) :
    (service.respond now request).result.status = 500 ↔
      (∃ offer, Asks service request endpoint offer ∧ service.converter.isActive = true ∧
        offer.isSendable = false ∧
        (service.converter.convert now offer.candidate).outcome = .issued) ∨
      endpoint = .convert ∧ ∃ why, readOffer request = .error (.unwritable why) := by
  -- both reasons show in what the endpoint makes of the request
  have unread : (endpoint = .convert ∧ ∃ why, readOffer request = .error (.unwritable why)) ↔
      ∃ why, offerAt request bindings endpoint = .error (.unwritable why) := by
    simp only [offerAt_eq_unwritable_iff conversion, exists_and_left]
  rw [unread]
  simp only [asks_iff_of_reaches conversion reaches]
  cases read : offerAt request bindings endpoint with
  | ok offer =>
    have asks := (asks_iff_of_reaches conversion reaches).mpr read
    simp only [Except.ok.injEq, exists_eq_left', reduceCtorEq, exists_false, or_false]
    cases held : service.converter.isActive with
    | true =>
      rw [(status_of_active asks held now).2]
      exact (and_iff_right rfl).symm
    | false =>
      have status : (service.respond now request).result.status = 503 := by
        rw [respond_of_inactive asks held]
        rfl
      exact iff_of_false (by omega) fun h => Bool.false_ne_true h.1
  | error refusal =>
    rw [respond_of_unread conversion reaches read, (refuses_of_unread read).status_eq_iff]
    simp

/-- Which answers of the two endpoints say that they are not to be kept: those about conversions
that were made or missed, if they can be written. The others say nothing of it: when there is no
configuration, when the request cannot be read, and when the link that was made, or what the refusal
is about, cannot be written. -/
theorem isNoStore_iff (made : make settings = .ok fresh)
    (directed : request.IsFor settings.apiPath.toList endpoint) (provider : Provider)
    (attached : Bool) (metrics : Metrics) (now : Value) :
    let service : Service := { fresh with provider, attached, metrics }
    let answer := (service.respond now request).result
    let active := service.converter.isActive
    let asked := ∃ offer, Asks service request endpoint offer
    (answer.IsNoStore ↔ asked ∧ active = true ∧ answer.status ≠ 500) ∧
      (answer.headers.find? "cache-control" = none ↔ ¬ answer.IsNoStore) ∧
      (answer.status = 503 ↔ asked ∧ active = false) ∧
      (answer.status = 400 ∨ answer.status = 422 ↔ ¬ asked ∧ answer.status ≠ 500) ∧
      (answer.status = 500 ↔
        (∃ offer, Asks service request endpoint offer ∧ active = true ∧
          offer.isSendable = false ∧
          (service.converter.convert now offer.candidate).outcome = .issued) ∨
        endpoint = .convert ∧ ∃ why, readOffer request = .error (.unwritable why)) := by
  intro service answer active asked
  have conversion := directed.isConversion
  obtain ⟨bindings, reaches⟩ := destinationOf_of_isFor made directed
  have reaches : service.destinationOf request = .endpoint endpoint bindings := reaches
  obtain ⟨unavailable, refused⟩ := status_iff_of_reaches conversion reaches now
  refine ⟨?_, ?_, unavailable, refused, status_eq_500_iff conversion reaches now⟩
  · rcases isNoStore_or_absent conversion reaches now with ⟨noStore, written⟩ | ⟨absent, other⟩
    · exact iff_of_true noStore written
    · exact iff_of_false (Answer.not_isNoStore_of_absent absent) other
  · rcases isNoStore_or_absent conversion reaches now with ⟨noStore, -⟩ | ⟨absent, -⟩
    · exact iff_of_false (fun absent => Answer.not_isNoStore_of_absent absent noStore)
        (not_not_intro noStore)
    · exact iff_of_true absent (Answer.not_isNoStore_of_absent absent)

/-! ## The service of a key -/

theorem isFor_mersennePost (identity : String) (payload : List UInt8) :
    ({ mersennePost identity with payload } : Request).IsFor Settings.mersenne.apiPath.toList
      .convert := by
  have read : Template.ofPath (convertPath Settings.mersenne.apiPath.toList) =
      .ok (Template.literal "/api/v1/uri".toList) := by decide +kernel
  have matched : ((Template.literal "/api/v1/uri".toList).match?
      (Target.ofString ("/api/v1" ++ "/uri")).path).isSome = true := by decide +kernel
  exact .document rfl read matched

/-- The link of an identity of digits and letters is not to be kept. -/
theorem isNoStore_mersennePost :
    (mersenne.respond (.integer 0) (mersennePost "1234deadbeef")).result.IsNoStore := by
  have directed := isFor_mersennePost "1234deadbeef" (mersennePost "1234deadbeef").payload
  obtain ⟨noStore, -⟩ :=
    isNoStore_iff make_mersenne directed mersenne.provider true .empty (.integer 0)
  have asks := asks_mersennePost "1234deadbeef"
  have sendable := (status_of_active asks rfl (.integer 0)).2
  refine noStore.mpr ⟨⟨_, asks⟩, rfl, fun lost => ?_⟩
  cases (sendable.mp lost).1

/-- The same request says nothing of being kept in the answer of a service without a configuration,
and neither does one without a document in that of a service with one. -/
theorem not_isNoStore_mersennePost :
    let unavailable := (Service.respond { mersenne with provider := .inactive } (.integer 0)
      (mersennePost "1234deadbeef")).result
    let unread := (mersenne.respond (.integer 0)
      { mersennePost "1234deadbeef" with payload := [] }).result
    (unavailable.status = 503 ∧ ¬ unavailable.IsNoStore) ∧
      unread.status = 422 ∧ ¬ unread.IsNoStore := by
  intro unavailable unread
  obtain ⟨bindings, reaches⟩ := destinationOf_of_isFor make_mersenne
    (isFor_mersennePost "1234deadbeef" (mersennePost "1234deadbeef").payload)
  have asks : Asks { mersenne with provider := .inactive } (mersennePost "1234deadbeef") .convert
      (.value (⟨some 1, some "1234deadbeef"⟩ : BlobInfo).toCandidate) :=
    asks_mersennePost "1234deadbeef"
  have problem : unavailable = problemAnswer (.unavailable .null) :=
    congrArg Step.result (respond_of_inactive asks rfl (.integer 0))
  have blank : mersenne.destinationOf { mersennePost "1234deadbeef" with payload := [] } =
      .endpoint .convert bindings := reaches
  have refusal : unread = refused [⟨[.text "body"], .missing, .null⟩] :=
    congrArg Step.result (respond_of_unread (.inl rfl) blank rfl (.integer 0))
  rw [problem, refusal]
  exact ⟨⟨rfl, Answer.not_isNoStore_of_absent rfl⟩, rfl, Answer.not_isNoStore_of_absent rfl⟩

end Service

end SignedLink.Http
