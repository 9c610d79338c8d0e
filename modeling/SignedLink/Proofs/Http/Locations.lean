import SignedLink.Proofs.Http.Accounting
import SignedLink.Proofs.Http.Target
import SignedLink.Proofs.Json.Characters
import SignedLink.Proofs.Json.RoundTrip
import SignedLink.Proofs.Signing.Success
import SignedLink.Proofs.Text.Percent
import SignedLink.Proofs.Validation.Digits
/-!
# SignedLink — one link for documents and paths

A binary can be named by a document, and by a path with its length in the
query. Both name the same value, however the identity has to be encoded in the
path, so at one time both are answered with the same link. The document shows
it as it was signed. The redirect encodes it once more for its header, which
only leaves links alone that are made of safe characters.

* `Request.Posts`, `Request.Gets`: the two requests about a binary.
* `Payload.read_document`: a document can be written for every binary of readable length.
* `respond_gets`: the answer to the path when the document is answered with a link.
* `location_of_document`: where the path leads then.
-/

namespace SignedLink

/-- A link is only made for lengths that are not negative. -/
theorem Conversion.nonneg_of_uri {held : Option SignerConfiguration} {now : Value} {n : Int}
    {identity : Option String} {uri : String}
    (given : (of held now (⟨some n, identity⟩ : BlobInfo).toCandidate).uri = some uri) :
    0 ≤ n := by
  cases held with
  | none => cases given
  | some config =>
    by_contra negative
    have small : decide (n < 0) = true := decide_eq_true (by omega)
    simp [of, ofBlob, BlobInfo.toCandidate, BlobInfo.toBlob, Value.ofInt?, passes, Value.isNull,
      isNegative, small, skipped] at given

namespace Http

variable {root identity uri : String} {n : Int} {request : Request} {service : Service}
  {now : Value}

/-! ## The two requests -/

/-- The document about a binary of a length and an identity. -/
def document (n : Int) (identity : String) : Value :=
  .record [("binary", .record [("length", .integer n), ("content_identity", .text identity)])]

/-- The target that names the binary by its path, with its length in the query. -/
def pathTarget (root : String) (n : Int) (identity : String) : List Char :=
  root.toList ++ "/binaries/".toList ++ Text.Percent.encode [] identity.toList ++
    '?' :: ("length=".toList ++ Text.decimal n)

/-- A request for the link of a binary, by a document. -/
structure Request.Posts (request : Request) (root : String) (n : Int) (identity : String) :
    Prop where
  method : request.method = "POST"
  target : request.target = .ofString (root ++ "/uri")
  payload : Payload.read request.contentType request.payload = .value (document n identity)

/-- A request for the link of a binary, by its path. -/
structure Request.Gets (request : Request) (root : String) (n : Int) (identity : String) :
    Prop where
  method : request.method = "GET"
  target : request.target = .ofString (.ofList (pathTarget root n identity))

/-! ## The document -/

/-- A document can be written for every binary, as long as its length can be read. -/
theorem Payload.read_document (identity : String)
    (short : (Nat.toDigits 10 n.natAbs).length ≤ Fault.numeralLimit) :
    Payload.read (some "application/json")
        (Text.Utf8.encode (Json.Style.signed.write (document n identity))) =
      .value (document n identity) := by
  have readable : Json.Readable Json.depthLimit (document n identity) := by
    have inner : ["length", "content_identity"].Nodup := by decide
    refine .record (List.forall_mem_singleton.mpr (.record ?_ inner)) (List.nodup_singleton _)
    rw [List.forall_mem_cons, List.forall_mem_singleton]
    exact ⟨.integer short, .text identity⟩
  have ascii := Json.isAscii_write (document n identity)
  -- the first characters are the same for all binaries, and they tell the encoding
  have begins : ∃ rest, Text.Utf8.encode (Json.Style.signed.write (document n identity)) =
      0x7B :: 0x22 :: 0x62 :: 0x69 :: rest := ⟨_, rfl⟩
  have decoded := Encoding.decode_ascii ascii begins
  have back := Json.readDocument_write Json.separating_signed readable
  have nonempty : (Text.Utf8.encode (Json.Style.signed.write (document n identity))).isEmpty =
      false := by
    obtain ⟨rest, begins⟩ := begins
    rw [begins]
    rfl
  have json : isJson (some "application/json") = true := by decide
  simp only [Payload.read, nonempty, json, readJson, decoded, back,
    Json.Document.isWhole_ofValue, Json.seen_ofValue readable, Bool.false_eq_true, if_false,
    if_true]

/-- What such a document offers. -/
theorem readOffer_of_posts (posts : request.Posts root n identity) :
    Service.readOffer request =
      .ok (.value (⟨some n, some identity⟩ : BlobInfo).toCandidate) := by
  simp only [Service.readOffer, posts.payload]
  rfl

namespace Service

/-- A length that was read can be written. -/
theorem isWritable_of_posts (posts : request.Posts root n identity) :
    (Value.integer n).isWritable = true := by
  have whole := Payload.isWritable_of_read.1 _ posts.payload
  simp only [document, Value.isWritable, Value.haveWritable, Bool.and_true] at whole ⊢
  exact whole

/-- The path of a request by document. -/
theorem path_of_posts (noQuery : '?' ∉ root.toList) (posts : request.Posts root n identity) :
    request.target.path = Text.Percent.decode root.toList ++ "/uri".toList := by
  have noQuery : '?' ∉ (root ++ "/uri").toList := by
    rw [String.toList_append]
    simp [noQuery]
  rw [posts.target, Target.ofString_path noQuery, String.toList_append]
  exact Text.Percent.decode_append_slash root.toList "uri".toList

/-- A document that was answered with a link came to the endpoint of documents, and the link is that
of the binary. -/
theorem converted_of_posts {described : Bool} {first : Template}
    (routes : service.routes = routesBehind described first)
    (posts : request.Posts root n identity)
    (good : (service.respond now request).result.status = 200)
    (shown : (service.respond now request).result.field? "uri" = some (.text uri)) :
    (first.convertible.match? request.target.path).isSome = true ∧
      service.converter.isActive = true ∧
      (service.converter.convert now (⟨some n, some identity⟩ : BlobInfo).toCandidate).uri =
        some uri := by
  have found := findRoute?_post described first request.target.path
  cases matched : first.convertible.match? request.target.path with
  | none =>
    -- nothing else takes the method, and what takes no request answers otherwise
    rw [matched, Option.map_none] at found
    have elsewhere (endpoint : Endpoint) (bindings : Bindings) :
        service.destinationOf request ≠ .endpoint endpoint bindings := by
      rw [destinationOf, routes, posts.method, destination, found]
      dsimp only
      intro same
      split at same
      · cases same
      · split at same <;> cases same
    unfold respond at good
    split at good
    · next goes => exact (elsewhere _ _ goes).elim
    · cases good
    · cases good
    · cases good
  | some bindings =>
    rw [matched, Option.map_some] at found
    have reaches : service.destinationOf request = .endpoint .convert bindings := by
      rw [destinationOf, routes, posts.method]
      exact destination_of_findRoute? found
    have asks : Asks service request .convert
        (.value (⟨some n, some identity⟩ : BlobInfo).toCandidate) :=
      ⟨.inl rfl, bindings, reaches, readOffer_of_posts posts⟩
    cases active : service.converter.isActive with
    | false =>
      rw [respond_of_inactive asks active] at good
      cases good
    | true =>
      rw [result_of_value asks active] at shown
      refine ⟨rfl, rfl, ?_⟩
      have field : some (Value.ofText? (service.converter.convert now
          (⟨some n, some identity⟩ : BlobInfo).toCandidate).uri) = some (.text uri) := shown
      cases link : (service.converter.convert now
          (⟨some n, some identity⟩ : BlobInfo).toCandidate).uri with
      | none =>
        rw [link] at field
        cases field
      | some other =>
        rw [link] at field
        cases field
        rfl

/-! ## The path -/

theorem target_of_gets (noQuery : '?' ∉ root.toList) (gets : request.Gets root n identity) :
    request.target = ⟨Text.Percent.decode root.toList ++ "/binaries/".toList ++ identity.toList,
      "length=".toList ++ Text.decimal n⟩ := by
  -- the query begins behind the identity, of which no question mark is left
  have noQuery : '?' ∉ root.toList ++ "/binaries/".toList ++
      Text.Percent.encode [] identity.toList := by
    have encoded : '?' ∉ Text.Percent.encode [] identity.toList := by
      intro mem
      rcases Text.Percent.mem_encode mem with unreserved | mem | percent
      · exact absurd unreserved (by decide)
      · cases mem
      · exact absurd percent (by decide)
    simp [noQuery, encoded]
  have path : Text.Percent.decode (root.toList ++ "/binaries/".toList ++
      Text.Percent.encode [] identity.toList) =
      Text.Percent.decode root.toList ++ "/binaries/".toList ++ identity.toList := by
    -- no escape goes across a slash
    have slashes : root.toList ++ "/binaries/".toList ++ Text.Percent.encode [] identity.toList =
        root.toList ++ '/' :: ("binaries".toList ++
          '/' :: Text.Percent.encode [] identity.toList) := by simp
    rw [slashes, Text.Percent.decode_append_slash, Text.Percent.decode_append_slash,
      Text.Percent.decode_encode (by simp)]
    have word : Text.Percent.decode "binaries".toList = "binaries".toList := by decide +kernel
    rw [word]
    simp
  rw [gets.target, pathTarget, Target.ofString_query noQuery, path]

/-- What the path and the query of the request name. -/
theorem readPath_of_gets {bindings : Bindings} (noQuery : '?' ∉ root.toList)
    (gets : request.Gets root n identity) (named : identity ≠ "")
    (short : identity.toList.length ≤ Violation.textLimit) (nonneg : 0 ≤ n)
    (writable : (Value.integer n).isWritable = true)
    (bound : bindings.lookup identityName = some identity.toList) :
    readPath request bindings = .ok ⟨some n, some identity⟩ := by
  have limited : Checked.limitedText (.text identity) = .ok identity := by
    have nonempty : identity.isEmpty = false := by simpa using named
    simp only [Checked.limitedText, Checked.nonEmptyText, Checked.text, nonempty,
      Bool.false_eq_true, if_false, if_neg (Nat.not_lt.mpr short)]
  have length : request.target.parameter? "length" = some (.ofList (Text.decimal n)) := by
    rw [target_of_gets noQuery gets]
    have plain : ("length".toList.all fun c => Target.IsPlain c ∧ c ≠ '=') = true := by decide
    rw [List.all_eq_true] at plain
    exact Target.parameter?_single _ (fun c mem => of_decide_eq_true (plain c mem))
      Target.isPlain_decimal
  rw [readPath, bound, length, Option.getD_some, String.ofList_toList]
  simp only [readBinary, limited, Checked.integer_decimal nonneg writable]
  rfl

section

variable {settings : Settings} {fresh : Service} {provider : Provider} {attached : Bool}
  {metrics : Metrics} {post get : Request} {between : List Event}

/-- When the document is answered with a link, the path is answered with the redirect to it, at the
same time and after any requests. -/
theorem respond_gets (made : make settings = .ok fresh) (noQuery : '?' ∉ root.toList)
    (named : identity ≠ "") (short : identity.toList.length ≤ 512)
    (slashless : '/' ∉ identity.toList) (posts : post.Posts root n identity)
    (gets : get.Gets root n identity) (requests : ∀ event ∈ between, event.IsRequest) :
    let service : Service := { fresh with provider, attached, metrics }
    let answer := (service.respond now post).result
    answer.status = 200 → answer.field? "uri" = some (.text uri) →
      ((service.after between).respond now get).result = redirectAnswer uri := by
  intro service answer good shown
  obtain ⟨found, routed, rfl⟩ := make_eq_ok made
  obtain ⟨first, rfl, distinct⟩ := routes_eq_ok routed
  obtain ⟨beside, active, link⟩ := converted_of_posts rfl posts good shown
  obtain ⟨counted, frame⟩ : ∃ metrics, service.after between = { service with metrics } :=
    after_eq requests
  have writable : (Value.integer n).isWritable = true :=
    isWritable_of_posts posts
  have nonempty : identity.toList ≠ [] := by simpa using named
  rw [path_of_posts noQuery posts] at beside
  obtain ⟨bindings, reaches, bound⟩ :=
    destination_redirect settings.docsEnabled distinct nonempty slashless beside
  have asks : Asks (service.after between) get .redirect
      (.value (⟨some n, some identity⟩ : BlobInfo).toCandidate) := by
    have goes : (service.after between).destinationOf get = .endpoint .redirect bindings := by
      rw [frame, destinationOf, gets.method, target_of_gets noQuery gets]
      exact reaches
    have read := readPath_of_gets noQuery gets named short (Conversion.nonneg_of_uri link) writable
      bound
    exact ⟨.inr rfl, bindings, goes, offerAt_redirect_eq_ok_iff.mpr ⟨_, read, rfl⟩⟩
  have kept : (service.after between).converter = service.converter := by
    rw [frame]
    rfl
  rw [result_of_value asks (by rw [kept]; exact active), kept, link]
  rfl

/-- Where the path leads when the document is answered with a link: to the same link, encoded once
more for the header, so that only links of safe characters stay what they are. -/
theorem location_of_document (made : make settings = .ok fresh) (noQuery : '?' ∉ root.toList)
    (named : identity ≠ "") (short : identity.toList.length ≤ 512)
    (slashless : '/' ∉ identity.toList) (posts : post.Posts root n identity)
    (gets : get.Gets root n identity) (requests : ∀ event ∈ between, event.IsRequest) :
    let service : Service := { fresh with provider, attached, metrics }
    let answer := (service.respond now post).result
    let redirect := ((service.after between).respond now get).result
    answer.status = 200 → answer.field? "uri" = some (.text uri) →
      redirect.status = 307 ∧
      redirect.headers.find? "location" =
        some (.ofList (Text.Percent.encode Answer.addressChars uri.toList)) ∧
      (redirect.headers.find? "location" = some uri ↔
        ∀ c ∈ uri.toList, Text.Percent.isUnreserved c = true ∨ c ∈ Answer.addressChars) := by
  intro service answer redirect good shown
  have same : redirect = redirectAnswer uri :=
    respond_gets made noQuery named short slashless posts gets requests good shown
  have location : redirect.headers.find? "location" =
      some (.ofList (Text.Percent.encode Answer.addressChars uri.toList)) := by
    rw [same]
    rfl
  refine ⟨by rw [same]; rfl, location, ?_⟩
  rw [location, Option.some.injEq, ← Text.Percent.encode_eq_self_iff, String.ext_iff,
    String.toList_ofList]

end

/-! ## The service of a key -/

/-- A request to this service for the link of a binary of one octet, by a document. -/
def mersennePost (identity : String) : Request where
  origin := "http://localhost"
  method := "POST"
  target := .ofString ("/api/v1" ++ "/uri")
  contentType := some "application/json"
  payload := Text.Utf8.encode (Json.Style.signed.write (document 1 identity))

/-- A request to this service for the link of such a binary, by its path. -/
def mersenneGet (identity : String) : Request where
  origin := "http://localhost"
  method := "GET"
  target := .ofString (.ofList (pathTarget "/api/v1" 1 identity))
  contentType := none
  payload := []

theorem make_mersenne : make .mersenne = .ok { mersenne with provider := .inactive } := by
  with_unfolding_all rfl

theorem posts_mersennePost (identity : String) :
    (mersennePost identity).Posts "/api/v1" 1 identity :=
  ⟨rfl, rfl, Payload.read_document identity (by decide)⟩

theorem asks_mersennePost (identity : String) :
    Asks mersenne (mersennePost identity) .convert
      (.value (⟨some 1, some identity⟩ : BlobInfo).toCandidate) := by
  have reaches : mersenne.destinationOf (mersennePost identity) = .endpoint .convert [] := by
    have goes : destination mersenne.routes "POST" (Target.ofString ("/api/v1" ++ "/uri")).path =
        .endpoint .convert [] := by decide +kernel
    exact goes
  have read := readOffer_of_posts (posts_mersennePost identity)
  exact ⟨.inl rfl, [], reaches, read⟩

theorem gets_mersenneGet (identity : String) : (mersenneGet identity).Gets "/api/v1" 1 identity :=
  ⟨rfl, rfl⟩

/-- This service signs the link of every binary with a long enough identity. -/
theorem respond_mersennePost (identity : String) (long : 4 ≤ identity.toList.length) :
    ∃ link signature, StorageKey.ofText? identity = some link.storageKey ∧
      Link.IsIssued "https://files.example/" "K1" (.rsa .mersenneKey) link signature ∧
      (mersenne.respond (.integer 0) (mersennePost identity)).result =
        conversionAnswer (some link.url) := by
  obtain ⟨link, signature, stored, issued, -, uri⟩ := exists_link_mersenneSigner identity long
  refine ⟨link, signature, stored, issued, ?_⟩
  rw [result_of_value (asks_mersennePost identity) rfl, uri]
  rfl

theorem shown_of_conversionAnswer {answer : Answer} (is : answer = conversionAnswer (some uri)) :
    answer.status = 200 ∧ answer.field? "uri" = some (.text uri) := by
  rw [is]
  exact ⟨rfl, rfl⟩

/-- An identity of digits and letters, asked for at the service of a key. -/
theorem location_of_document_mersenne :
    ∃ uri, (mersenne.respond (.integer 0) (mersennePost "1234deadbeef")).result =
        conversionAnswer (some uri) ∧
      ((mersenne.respond (.integer 0) (mersenneGet "1234deadbeef")).result.headers.find?
        "location" = some (.ofList (Text.Percent.encode Answer.addressChars uri.toList))) := by
  obtain ⟨link, signature, -, -, answered⟩ := respond_mersennePost "1234deadbeef" (by decide)
  obtain ⟨good, shown⟩ := shown_of_conversionAnswer answered
  have requests : ∀ event ∈ ([] : List Event), event.IsRequest := by
    rintro _ ⟨⟩
  obtain ⟨-, location, -⟩ := location_of_document make_mersenne (by decide) (by decide) (by decide)
    (by decide) (posts_mersennePost "1234deadbeef") (gets_mersenneGet "1234deadbeef") requests good
    shown
  exact ⟨link.url, answered, location⟩

/-- The redirect does not lead to the link that was signed when there is a space in the identity. -/
theorem location_ne_uri :
    ∃ uri, (mersenne.respond (.integer 0) (mersennePost "ab cd")).result =
        conversionAnswer (some uri) ∧
      (mersenne.respond (.integer 0) (mersenneGet "ab cd")).result.headers.find? "location" ≠
        some uri := by
  obtain ⟨link, signature, stored, issued, answered⟩ := respond_mersennePost "ab cd" (by decide)
  refine ⟨link.url, answered, ?_⟩
  obtain ⟨good, shown⟩ := shown_of_conversionAnswer answered
  have requests : ∀ event ∈ ([] : List Event), event.IsRequest := by
    rintro _ ⟨⟩
  have redirects := respond_gets make_mersenne (by decide) (by decide) (by decide) (by decide)
    (posts_mersennePost "ab cd") (gets_mersenneGet "ab cd") requests good shown
  have redirected : (mersenne.respond (.integer 0) (mersenneGet "ab cd")).result =
      redirectAnswer (some link.url) := redirects
  -- the space comes into the link with the storage key
  have space : ' ' ∈ link.url.toList := by
    have key : link.storageKey = "ab c-d" := Option.some.inj (stored.symm.trans (by decide))
    rw [issued.url_eq, String.toList_ofList, Link.compose, key]
    exact List.mem_append_left _ (by decide)
  rw [redirected]
  intro same
  have location : Text.Percent.encode Answer.addressChars link.url.toList = link.url.toList := by
    rw [← String.toList_ofList (l := Text.Percent.encode _ _)]
    exact congrArg String.toList (Option.some.inj same)
  rcases Text.Percent.encode_eq_self_iff.mp location _ space with unreserved | kept
  · exact absurd unreserved (by decide)
  · exact absurd kept (by decide)

end Service

end Http

end SignedLink
