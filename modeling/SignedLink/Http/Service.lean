import SignedLink.Http.Interface
import SignedLink.Http.Offer
import SignedLink.Http.Payload
import SignedLink.Http.Problem
import SignedLink.Provider.Routed
/-!
# SignedLink — the service

A service holds a provider from its start to its stop. At the start it
activates the provider from the settings when they name a base address, and a
refusal stops the start. Requests are validated before the provider is looked
at; without a configuration conversions are unavailable. No request changes
the configuration.
-/

namespace SignedLink.Http

/-- Why no service can be made from settings. -/
inductive SetupFlaw where
  /-- a described interface needs a title -/
  | untitled
  /-- a described interface needs a version -/
  | unversioned
  | relativePath
  | slashedPath
  | route (flaw : RouteFlaw)
deriving DecidableEq

/-- The message of a flaw. -/
def SetupFlaw.message : SetupFlaw → String
  | .untitled => "A title must be provided for OpenAPI, e.g.: 'My API'"
  | .unversioned => "A version must be provided for OpenAPI, e.g.: '2.1.0'"
  | .relativePath => "A path prefix must start with '/'"
  | .slashedPath => "A path prefix must not end with '/', as the routes will start with '/'"
  | .route flaw => flaw.message

/-- A service. -/
structure Service where
  settings : Settings
  routes : List Route
  provider : Provider
  /-- whether conversions reach the provider; those that do not find it meet an inactive one -/
  attached : Bool
  metrics : Metrics

namespace Service

/-- What is wrong with settings, if anything. -/
def setupFlaw? (settings : Settings) : Option SetupFlaw :=
  let path := settings.apiPath.toList
  if settings.docsEnabled && settings.projectName.isEmpty then some .untitled
  else if settings.docsEnabled && settings.version.isEmpty then some .unversioned
  else if path.isEmpty then none
  else if path.head? != some '/' then some .relativePath
  else if path.getLast? == some '/' then some .slashedPath
  else none

/-- A service that has not been started. -/
def make (settings : Settings) : Except SetupFlaw Service :=
  match setupFlaw? settings with
  | some flaw => .error flaw
  | none =>
    match Http.routes settings with
    | .error flaw => .error (.route flaw)
    | .ok routes =>
      .ok { settings, routes, provider := .inactive, attached := true, metrics := .empty }

/-- What a step did: the service after it, what came of it, and the records. -/
structure Step (α : Type) where
  service : Service
  result : α
  records : List Logging.Record

/-- A record of the service itself. -/
def told (message : String) : Logging.Record :=
  .of Logging.serviceLogger .info message

/-! ## Start and stop -/

/-- Starts the service. -/
def start (service : Service) (files : FileSystem) : Step (Except ConfigError Unit) :=
  let starting := told ("✅ " ++ service.settings.projectName ++ " starting up")
  if service.settings.redirectConfigured then
    let step := service.provider.activate files service.settings.properties
    ⟨{ service with provider := step.provider }, step.result, starting :: step.records⟩
  else
    ⟨service, .ok (), [starting, told "CLOUDFRONT_URL not set; CDN redirects disabled"]⟩

/-- A start whose records go through a routing: the step, and what the sinks get. A record that
cannot be put together is one about a property, so a fault leaves the service as it was. -/
def startRouted (service : Service) (routing : Logging.Routing) (origin : Logging.Origin)
    (files : FileSystem) :
    Except Fault (Step (Except ConfigError Unit) × List Logging.Delivery) :=
  let step := service.start files
  (routing.deliverAll origin step.records).map fun deliveries => (step, deliveries)

/-- Deactivates the provider. -/
def deactivate (service : Service) : Step Unit :=
  let step := service.provider.deactivate
  ⟨{ service with provider := step.provider }, (), step.records⟩

/-- Stops the service. -/
def stop (service : Service) : Step Unit :=
  let step := service.deactivate
  { step with
    records := step.records ++ [told ("🛑 " ++ service.settings.projectName ++ " shutting down")] }

/-- Takes the provider away from conversions. -/
def detach (service : Service) : Service :=
  { service with attached := false }

/-! ## Answers -/

/-- The provider that conversions meet. -/
def converter (service : Service) : Provider :=
  if service.attached then service.provider else .inactive

/-- One error of a request, inside the part of the request where it is. -/
def errorDocument (e : FieldError) : Value :=
  .record ([("type", .text e.violation.code), ("loc", .list e.place),
    ("msg", .text e.violation.message), ("input", e.input)] ++
    if e.violation.details.isEmpty then [] else [("ctx", .record e.violation.details)])

mutual

/-- Whether every number in a value is finite. -/
def isFinite : Value → Bool
  | .real .nan | .real (.infinite _) => false
  | .list items => areFinite items
  | .record fields => haveFinite fields
  | _ => true

/-- The same of the items of a list. -/
def areFinite : List Value → Bool
  | [] => true
  | v :: rest => isFinite v && areFinite rest

/-- The same of the values of fields. -/
def haveFinite : List (String × Value) → Bool
  | [] => true
  | (_, v) :: rest => isFinite v && haveFinite rest

end

/-- The answer to a request that is refused, which shows what violates a rule as it is, if it can be
written. -/
def refusedShowing (halves : Bool) (errors : List FieldError) : Answer :=
  if errors.any fun e => !isFinite e.input then .unwritable .notFinite
  else if halves then .unwritable .half
  else .detail 422 [] (.list (errors.map errorDocument))

/-- The answer to a request that is refused, without halves of surrogate pairs in what it shows. -/
def refused (errors : List FieldError) : Answer :=
  refusedShowing false errors

/-- The answer that tells of a problem. -/
def problemAnswer (p : Problem) : Answer :=
  .of p.status.toNat ((p.headers.getD []).map fun h => (h.1.toLower, h.2.plain))
    (.json (.record (p.document .null)))

/-- The answer when a value has no link. -/
def noRedirect : Answer :=
  problemAnswer (.of 404 "No CDN redirect" (some [("Cache-Control", .text "no-store")]))

/-! ## Requests -/

/-- What a document with halves of surrogate pairs offers, once it has been read as it is seen. -/
def brokenOffer (d : Json.Document) (conversion : ConversionRequest) : Offer :=
  match conversion.binary, d.part ["binary", "content_identity"] with
  | some info, .text identity =>
    if identity.any Text.CodePoint.isHalf then .broken info.size identity
    else .value conversion.candidate
  | _, _ => .value conversion.candidate

/-- The part of a document that an error is about. -/
def violatingPart (d : Json.Document) (e : FieldError) : Json.Document :=
  d.part (e.place.filterMap fun v =>
    match v with
    | .text name => some name
    | _ => none)

/-- What a document with halves of surrogate pairs offers, or the answer that refuses it. No rule
tells a half from U+FFFD, as neither is part of a number or of a name that is known; so the document
is read as it is seen. -/
def readBroken (d : Json.Document) : Except Answer Offer :=
  match ConversionRequest.ofValue .attributes .attributes d.seen with
  | .ok conversion => .ok (brokenOffer d conversion)
  | .error errors =>
    .error (refusedShowing (errors.any fun e => !(violatingPart d e).isWhole)
      (errors.map (FieldError.within "body")))

/-- What the payload of a request offers, or the answer that refuses it. -/
def readOffer (request : Request) : Except Answer Offer :=
  match Payload.read request.contentType request.payload with
  | .unreadable => .error (.detail 400 [] (.text "There was an error parsing the body"))
  | .flawed e =>
    .error (refused [⟨[.text "body", .integer e.position], .malformedJson e.flaw, .record []⟩])
  | .nothing => .error (refused [⟨[.text "body"], .missing, .null⟩])
  | .octets => .error (.unwritable .octets)
  | .broken d => readBroken d
  | .value v =>
    match ConversionRequest.ofValue .attributes .attributes v with
    | .ok conversion => .ok (.value conversion.candidate)
    | .error errors => .error (refused (errors.map (FieldError.within "body")))

/-- What is known of the binary that a path and a query name, or the answer that refuses it. -/
def readBinary (identity : String) (length : Option String) : Except Answer BlobInfo :=
  let checkedIdentity := Checked.limitedText (.text identity)
  let checkedLength :=
    match length with
    | some s => (Checked.integer (.text s)).map some
    | none => .ok none
  match checkedIdentity, checkedLength with
  | .ok identity, .ok size => .ok ⟨size, some identity⟩
  | _, _ =>
    .error (refused ([
      (FieldError.ofReading? "content_identity" (.text identity) checkedIdentity).map
        (FieldError.within "path"),
      (FieldError.ofReading? "length" (Value.ofText? length) checkedLength).map
        (FieldError.within "query")].reduceOption))

/-- Converts what a request offers, if it could be read, and answers with the link or the lack of
one. The signing of a request takes no time. -/
def convert (service : Service) (now : Value) (offer : Except Answer Offer)
    (shown : Option String → Answer) : Step Answer :=
  match offer with
  | .error refusal => ⟨service, refusal, []⟩
  | .ok offer =>
    if !service.converter.isActive then
      ⟨service, problemAnswer (.unavailable .null), []⟩
    else
      let conversion := service.converter.convert now offer.candidate
      ⟨{ service with metrics := conversion.account .zero service.metrics },
        offer.answer shown conversion.uri, offer.records conversion⟩

/-- The answer to a conversion by document. -/
def conversionAnswer (uri : Option String) : Answer :=
  (Answer.json 200 (ConversionAnswer.ofUri uri).toValue).noStore

/-- The answer to a conversion by path. -/
def redirectAnswer : Option String → Answer
  | some uri => (Answer.redirect uri).noStore
  | none => noRedirect

/-- Answers a request to an endpoint. -/
def respondAt (service : Service) (now : Value) (request : Request) (endpoint : Endpoint)
    (bindings : Bindings) : Step Answer :=
  match endpoint with
  | .description =>
    ⟨service, .of 200 [] (.interface service.settings.projectName service.settings.version
      (listedPaths service.routes)), []⟩
  | .page => ⟨service, .of 200 [] .page, []⟩
  | .convert =>
    service.convert now (readOffer request) conversionAnswer
  | .redirect =>
    let identity := String.ofList ((bindings.lookup identityName).getD [])
    service.convert now
      ((readBinary identity (request.target.parameter? "length")).map fun info =>
        .value info.toCandidate)
      redirectAnswer
  | .health => ⟨service, .json 200 (.record [("ok", .boolean true)]), []⟩
  | .readiness =>
    let active := Value.boolean service.provider.isActive
    ⟨service, .json 200 (.record [("ready", active), ("checks", .record [("signer", active)])]), []⟩
  | .metrics => ⟨service, .of 200 [] (.metrics service.metrics.exposition), []⟩

/-- Answers a request. -/
def respond (service : Service) (now : Value) (request : Request) : Step Answer :=
  match destination service.routes request.method request.target.path with
  | .endpoint endpoint bindings => service.respondAt now request endpoint bindings
  | .otherMethods methods =>
    ⟨service, .detail 405 [("allow", ", ".intercalate methods)] (.text (reason 405)), []⟩
  | .moved path =>
    let query := if request.target.query.isEmpty then [] else '?' :: request.target.query
    ⟨service, .redirect (request.origin ++ String.ofList (path ++ query)), []⟩
  | .nowhere => ⟨service, .detail 404 [] (.text (reason 404)), []⟩

end Service

end SignedLink.Http
