import SignedLink.Proofs.Config.Settings
import SignedLink.Proofs.Http.Conversions
import SignedLink.Proofs.Http.Interface
import SignedLink.Proofs.Provider.Activation
/-!
# SignedLink — when a service is available

A service comes up with exactly the signer of its settings, or without one when
no base address is set, or not at all. Requests change nothing but the metrics,
so what it came up with it keeps: the probe tells the same before and after
every request, and the two endpoints of conversions agree with it.

Not all valid settings have a service: the prefix of its paths may be none. And a
start tells what it does. Where `DEBUG` is asked for it tells the settings of
the signer too, and does not get past one that is too long a number.

* `respond_eq`: what a request can change.
* `start_cases`: the three ways in which a start ends.
* `startRouted_eq_error_iff`: the starts that do not get past what they tell.
* `available_as_configured`: the probe and the endpoints after any requests.
-/

namespace SignedLink

/-- The settings of a signer have a number in them that is too long to be told. -/
def Settings.HasLongNumber (settings : Settings) : Prop :=
  (Value.integer settings.ttlSeconds).isWritable = false ∨
    (Value.integer settings.minSizeKb).isWritable = false

theorem Settings.hasUntold_properties_iff {settings : Settings} :
    Provider.HasUntold settings.properties ↔ settings.HasLongNumber := by
  -- everything else that is told is a text, or nothing
  have text (s : Option String) : (Value.ofText? s).isWritable = true := by cases s <;> rfl
  have told : Provider.HasUntold settings.properties ↔
      (Value.ofText? settings.cloudFrontUrl).isWritable = false ∨
        (Value.integer settings.ttlSeconds).isWritable = false ∨
        (Value.ofText? settings.privateKeyFile).isWritable = false ∨
        (Value.ofText? settings.keyPairId).isWritable = false ∨
        (Value.integer settings.minSizeKb).isWritable = false := by
    simp only [Provider.HasUntold, Provider.toldProperties, List.mem_cons, List.not_mem_nil,
      or_false, exists_eq_or_imp, exists_eq_left]
    rfl
  rw [told, HasLongNumber]
  simp only [text, Bool.true_eq_false, false_or]

namespace Http.Service

variable {service : Service} {settings : Settings} {files : FileSystem} {events : List Event}
  {config : SignerConfiguration} {before routing : Logging.Routing} {environment : Environment}
  {stamp : Logging.Stamp} {f : Fault}

/-! ## Requests -/

/-- A request changes nothing but the metrics. -/
theorem respond_eq (service : Service) (now : Value) (request : Request) :
    ∃ metrics, (service.respond now request).service = { service with metrics } := by
  have done := responds service now request
  generalize service.respond now request = step at done ⊢
  cases done <;> exact ⟨_, rfl⟩

/-- Requests, however many, change nothing but the metrics. -/
theorem after_eq (requests : ∀ event ∈ events, event.IsRequest) :
    ∃ metrics, service.after events = { service with metrics } := by
  induction events generalizing service with
  | nil => exact ⟨_, rfl⟩
  | cons event rest ih =>
    obtain ⟨first, others⟩ := List.forall_mem_cons.mp requests
    cases event with
    | request now request =>
      obtain ⟨between, step⟩ := respond_eq service now request
      obtain ⟨metrics, run⟩ : ∃ metrics,
          after { service with metrics := between } rest = { service with metrics } := ih others
      refine ⟨metrics, ?_⟩
      rw [after_cons]
      show (service.respond now request).service.after rest = _
      rw [step, run]
    | detach => exact first.elim
    | deactivate => exact first.elim

/-! ## The probe and the endpoints -/

/-- What the probe tells. -/
def readiness (ready : Bool) : Answer :=
  .json 200 (.record [("ready", .boolean ready), ("checks", .record [("signer", .boolean ready)])])

/-- Whoever asks for the readiness is told this. -/
def Reports (service : Service) (ready : Bool) : Prop :=
  ∀ now request, request.method = "GET" → request.target.path = "/readyz".toList →
    (service.respond now request).result = readiness ready

/-- Every well-formed request for a conversion is answered with a status like this. -/
def Answers (service : Service) (admits : Nat → Prop) : Prop :=
  ∀ now request endpoint offer, Asks service request endpoint offer →
    admits (service.respond now request).result.status

theorem make_eq_ok (made : make settings = .ok service) :
    ∃ routes, Http.routes settings = .ok routes ∧
      service = ⟨settings, routes, .inactive, true, .empty⟩ := by
  unfold make at made
  split at made
  · cases made
  · split at made
    · cases made
    · next found routed =>
      cases made
      exact ⟨found, routed, rfl⟩

/-- The probe of a service that was made from settings tells whether its provider is active. -/
theorem reports_of_make {serving : Service} {metrics : Metrics}
    (made : make settings = .ok service) (provider : Provider)
    (frame : serving = { service with provider, metrics }) :
    serving.Reports provider.isActive := by
  obtain ⟨found, routed, rfl⟩ := make_eq_ok made
  obtain ⟨first, rfl, -⟩ := routes_eq_ok routed
  subst frame
  intro now request get path
  have goes : destination (routesBehind settings.docsEnabled first) request.method
      request.target.path = .endpoint .readiness [] := by
    rw [get, path]
    exact destination_readiness ..
  simp only [respond, goes]
  rfl

/-- The endpoints of conversions are unavailable exactly without a configuration. -/
theorem answers_of_inactive (inactive : service.converter.isActive = false) :
    service.Answers (· = 503) := by
  intro now request endpoint offer asks
  rw [respond_of_inactive asks inactive]
  rfl

theorem answers_of_active (active : service.converter.isActive = true) :
    service.Answers (· ≠ 503) := by
  intro now request endpoint offer asks
  have shown (uri : Option String) : (endpoint.answer uri).status ≠ 503 := by
    obtain ⟨-, status⟩ | ⟨-, status⟩ := status_answer asks.1 uri
    · rw [status]
      decide
    · rw [status]
      split <;> decide
  rw [respond_of_active asks active]
  show (offer.answer endpoint.answer (service.converter.convert now offer.candidate).uri).status ≠ _
  unfold Offer.answer
  split
  · decide
  · exact shown _

/-! ## Starts -/

/-- A start succeeds without a base address, and with one exactly when the settings have a signer;
then that signer is held. A start that fails leaves nothing behind. -/
theorem start_cases (made : make settings = .ok service) (files : FileSystem) :
    (settings.redirectConfigured = false → (service.start files).result = .ok () ∧
      (service.start files).service = service) ∧
    (settings.redirectConfigured = true → ∀ config, settings.signer files = .ok config →
      (service.start files).result = .ok () ∧
        (service.start files).service = { service with provider := ⟨some config⟩ }) ∧
    (settings.redirectConfigured = true → ∀ e, settings.signer files = .error e →
      (service.start files).result = .error e ∧ (service.start files).service = service) := by
  obtain ⟨found, routed, rfl⟩ := make_eq_ok made
  refine ⟨?_, ?_, ?_⟩
  · intro unwanted
    simp only [start, unwanted, Bool.false_eq_true, if_false, and_self]
  · intro wanted config signer
    rw [Settings.signer] at signer
    simp only [start, wanted, if_true, Provider.activate, signer, and_self]
  · intro wanted e refused
    rw [Settings.signer] at refused
    simp only [start, wanted, if_true, Provider.activate, refused, and_self]

/-- A start ends with a fault exactly when it tells properties that cannot be told. -/
theorem startRouted_eq_error_iff (origin : Logging.Origin) (spared : before.SparesProvider)
    (configured : before.configure environment stamp = .ok routing) :
    service.startRouted routing origin files = .error f ↔
      service.settings.redirectConfigured = true ∧
        (Logging.Plan.ofEnvironment environment).level = "DEBUG" ∧ f = .longInteger ∧
          service.settings.HasLongNumber := by
  -- what a start tells by itself has a message, so only the activation can end it
  have silent (message : String) : routing.fault? (told message) = none := by
    rw [Option.eq_none_iff_forall_ne_some]
    intro g found
    cases (Logging.Routing.fault?_eq_some_iff.mp found).2.2
  have delivered : service.startRouted routing origin files = .error f ↔
      routing.deliverAll origin (service.start files).records = .error f := by
    rw [startRouted]
    cases routing.deliverAll origin (service.start files).records <;> simp [Except.map]
  rw [delivered, Logging.Routing.deliverAll_eq_error_iff, start]
  cases wanted : service.settings.redirectConfigured with
  | false => simp [silent]
  | true =>
    simp only [if_true, List.findSome?_cons, silent, true_and]
    rw [← Logging.Routing.deliverAll_eq_error_iff origin,
      Provider.deliverAll_activate_eq_error_iff origin spared configured,
      Settings.hasUntold_properties_iff]

/-- A start that has no number to tell which is too long is the start, with what the sinks get of
it. -/
theorem exists_startRouted (origin : Logging.Origin) (spared : before.SparesProvider)
    (configured : before.configure environment stamp = .ok routing)
    (told : service.settings.redirectConfigured = true →
      (Logging.Plan.ofEnvironment environment).level = "DEBUG" →
        ¬ service.settings.HasLongNumber) :
    ∃ deliveries,
      service.startRouted routing origin files = .ok (service.start files, deliveries) := by
  have noFault (f : Fault) : service.startRouted routing origin files ≠ .error f := by
    intro ends
    obtain ⟨wanted, details, -, long⟩ := (startRouted_eq_error_iff origin spared configured).mp ends
    exact told wanted details long
  rw [startRouted] at noFault ⊢
  cases delivered : routing.deliverAll origin (service.start files).records with
  | error f => exact absurd (by rw [delivered]; rfl) (noFault f)
  | ok deliveries => exact ⟨deliveries, rfl⟩

/-! ## Services that are running -/

/-- A service that holds nothing says so, and refuses every conversion. -/
theorem serves_of_unheld {serving : Service} {metrics : Metrics}
    (made : make settings = .ok service) (frame : serving = { service with metrics }) :
    serving.Reports false ∧ serving.Answers (· = 503) := by
  obtain ⟨found, routed, same⟩ := make_eq_ok made
  have inactive : serving.converter.isActive = false := by
    rw [frame, same]
    rfl
  have reports : serving.Reports service.provider.isActive :=
    reports_of_make made service.provider frame
  rw [same] at reports
  exact ⟨reports, answers_of_inactive inactive⟩

/-- A service that holds a signer says so, and refuses no conversion. -/
theorem serves_of_held {serving : Service} {metrics : Metrics}
    (made : make settings = .ok service)
    (frame : serving = { service with provider := ⟨some config⟩, metrics }) :
    serving.Reports true ∧ serving.Answers (· ≠ 503) := by
  obtain ⟨found, routed, same⟩ := make_eq_ok made
  have active : serving.converter.isActive = true := by
    rw [frame, same]
    rfl
  exact ⟨reports_of_make made ⟨some config⟩ frame, answers_of_active active⟩

/-- A service of valid settings is available as it is configured, after any requests: without a base
address it starts and refuses every conversion; with one and a signer it starts, holds that signer
and refuses none; with one and no signer it does not start, for the same reason for which there is
no signer. After a stop, and after a start that failed, it holds nothing. However its records are
routed, this is what comes of a start, unless it is asked to tell a number that is too long. -/
theorem available_as_configured {sources : Settings.Sources}
    (valid : Settings.ofSources sources = .ok settings) (made : make settings = .ok service)
    (files : FileSystem) (origin : Logging.Origin) (spared : before.SparesProvider)
    (configured : before.configure environment stamp = .ok routing)
    (requests : ∀ event ∈ events, event.IsRequest) :
    let started := service.start files
    let serving := started.service.after events
    let blank := ∀ v ∈ sources.find? "CLOUDFRONT_URL", Property.IsBlank v
    (blank ∨ (Logging.Plan.ofEnvironment environment).level ≠ "DEBUG" ∨
        ¬ settings.HasLongNumber →
      ∃ deliveries, service.startRouted routing origin files = .ok (started, deliveries)) ∧
    (blank → started.result = .ok () ∧ serving.Reports false ∧ serving.Answers (· = 503)) ∧
    (¬ blank → ∀ config, settings.signer files = .ok config →
      started.result = .ok () ∧ serving.provider.config = some config ∧ serving.Reports true ∧
        serving.Answers (· ≠ 503)) ∧
    (¬ blank → ∀ e, settings.signer files = .error e →
      started.result = .error e ∧ started.service.provider.config = none) ∧
    serving.stop.service.provider.config = none := by
  intro started serving blank
  obtain ⟨unwanted, signed, refused⟩ := start_cases made files
  obtain ⟨found, routed, same⟩ := make_eq_ok made
  have configuredUrl := Settings.redirectConfigured_eq valid
  have unset := Settings.cloudFrontUrl_eq_none_iff valid
  -- whatever the start leaves, requests change only the metrics of it
  obtain ⟨metrics, frame⟩ : ∃ metrics, serving = { started.service with metrics } :=
    after_eq requests
  have wanted : settings.redirectConfigured = true ↔ ¬ blank := by
    rw [configuredUrl, Option.isSome_iff_ne_none]
    exact not_congr unset
  refine ⟨fun told => ?_, fun isBlank => ?_, fun nonblank config signer => ?_,
    fun nonblank e signer => ?_, rfl⟩
  · refine exists_startRouted origin spared configured fun set details => ?_
    rw [same] at set ⊢
    rcases told with isBlank | other | short
    · exact absurd isBlank (wanted.mp set)
    · exact absurd details other
    · exact short
  · rw [unset.mpr isBlank] at configuredUrl
    obtain ⟨result, left⟩ := unwanted configuredUrl
    exact ⟨result, serves_of_unheld made (by rw [frame, left])⟩
  · obtain ⟨result, held⟩ := signed (wanted.mpr nonblank) config signer
    have frame : serving = { service with provider := ⟨some config⟩, metrics } := by
      rw [frame, held]
    exact ⟨result, by rw [frame], serves_of_held made frame⟩
  · obtain ⟨result, left⟩ := refused (wanted.mpr nonblank) e signer
    exact ⟨result, by rw [left, same]; rfl⟩

/-! ## The settings of a key -/

/-- Sources in which the key of two Mersenne primes is given, with links that are valid for so many
seconds. -/
def lastingSources (n : Int) : Settings.Sources :=
  { Settings.mersenneSources with
    given := ("CLOUDFRONT_TTL_SECONDS", .integer n) :: Settings.mersenneSources.given }

/-- The settings that are read from them. -/
def lasting (n : Int) : Settings :=
  { Settings.mersenne with ttlSeconds := n }

theorem make_lasting (n : Int) :
    make (lasting n) =
      .ok ⟨lasting n, routesBehind true (.literal "/api/v1".toList), .inactive, true, .empty⟩ := by
  have sound : setupFlaw? (lasting n) = none := by
    have same : setupFlaw? (lasting n) = setupFlaw? .mersenne := rfl
    rw [same]
    decide +kernel
  have routed : Http.routes (lasting n) =
      .ok (routesBehind true (.literal "/api/v1".toList)) := by
    have same : Http.routes (lasting n) = Http.routes .mersenne := rfl
    rw [same]
    with_unfolding_all rfl
  rw [make, sound, routed]

/-- What is not the time of validity is found as in the sources without it. -/
theorem find?_lastingSources {n : Int} {setting : String}
    (other : (Settings.Search.default.key "CLOUDFRONT_TTL_SECONDS" ==
      Settings.Search.default.key setting) = false) :
    (lastingSources n).find? setting = Settings.mersenneSources.find? setting := by
  have apart : (setting == "CLOUDFRONT_TTL_SECONDS") = false := by
    rw [beq_eq_false_iff_ne]
    rintro rfl
    simp at other
  have given : Settings.Search.default.given? (lastingSources n).given setting =
      Settings.Search.default.given? Settings.mersenneSources.given setting := by
    simp only [Settings.Search.given?, lastingSources, Fields.find?, List.lookup_cons, apart,
      List.reverse_cons, List.find?_append, List.find?_cons, other, List.find?_nil, Option.or_none]
  have search : (lastingSources n).search = .default := rfl
  unfold Settings.Sources.find?
  rw [search, given]
  rfl

theorem ofSources_lastingSources {n : Int} (nonneg : 0 ≤ n) :
    Settings.ofSources (lastingSources n) = .ok (lasting n) := by
  have natural : Checked.natural (.integer n) = .ok n := by
    simp [Checked.natural, Checked.integer, Int.not_lt.mpr nonneg]
  have seconds : Settings.field (lastingSources n) "CLOUDFRONT_TTL_SECONDS"
      Settings.default.ttlSeconds Checked.natural = .ok n := natural
  obtain ⟨address, name, version, path, stage, docs, -, size, file, pem, pair⟩ :=
    Settings.ofSources_eq_ok_iff.mp Settings.ofSources_mersenneSources
  have same {α : Type} (setting : String) (default : α) (read : Value → Checked α)
      (other : (Settings.Search.default.key "CLOUDFRONT_TTL_SECONDS" ==
        Settings.Search.default.key setting) = false) :
      Settings.field (lastingSources n) setting default read =
        Settings.field Settings.mersenneSources setting default read := by
    rw [Settings.field, Settings.field, find?_lastingSources other]
  -- all other settings are read as before
  refine Settings.ofSources_eq_ok_iff.mpr ⟨?_, ?_, ?_, ?_, ?_, ?_, seconds, ?_, ?_, ?_, ?_⟩
  · rw [Settings.cloudFrontUrlField, find?_lastingSources (by decide +kernel)]
    exact address
  · exact (same _ _ _ (by decide +kernel)).trans name
  · exact (same _ _ _ (by decide +kernel)).trans version
  · exact (same _ _ _ (by decide +kernel)).trans path
  · exact (same _ _ _ (by decide +kernel)).trans stage
  · exact (same _ _ _ (by decide +kernel)).trans docs
  · exact (same _ _ _ (by decide +kernel)).trans size
  · exact (same _ _ _ (by decide +kernel)).trans file
  · exact (same _ _ _ (by decide +kernel)).trans pem
  · exact (same _ _ _ (by decide +kernel)).trans pair

theorem signer_lasting {n : Int} (nonneg : 0 ≤ n) (files : FileSystem) :
    ∃ config, (lasting n).signer files = .ok config := by
  have address : Fields.get (lasting n).properties Property.cloudFrontUrl =
      .text "https://files.example/" := rfl
  have pair : Fields.get (lasting n).properties Property.keyPairId = .text "K1" := rfl
  have source : Options.keySourceOf (lasting n).properties =
      Options.keySourceOf Settings.mersenne.properties := rfl
  refine ⟨_, SignerConfiguration.ofProperties_eq_ok_iff.mpr
    ⟨⟨"https://files.example/", "K1", n, 0, .inline (Text.trim Options.mersennePem)⟩,
      Text.trim Options.mersennePem, .mersenneKey, ?_, rfl, ?_, rfl⟩⟩
  · refine Options.ofProperties_eq_ok_iff.mpr ⟨?_, ?_, ?_, ?_, ?_⟩
    · rw [address]
      rfl
    · rw [pair]
      rfl
    · rw [Settings.properties_ttl]
      exact Property.wholeNumber_integer nonneg
    · rw [Settings.properties_minSize]
      exact Property.wholeNumber_integer (Int.le_refl 0)
    · rw [source]
      rfl
  · rw [Key.normalize_trim, SignerConfiguration.load_mersennePem]

theorem not_isBlank_lastingSources (n : Int) :
    ¬ ∀ v ∈ (lastingSources n).find? "CLOUDFRONT_URL", Property.IsBlank v := by
  rw [find?_lastingSources (by decide +kernel)]
  intro blank
  exact absurd (blank (.text "https://files.example") rfl)
    (by decide : ¬ Text.trimChars "https://files.example".toList = [])

/-- The service of such settings, before and after it is asked whether it is ready. -/
theorem available_as_configured_lasting :
    let asked := Event.request (.integer 1700000000)
      ⟨"http://localhost", "GET", .ofString "/readyz", none, []⟩
    ∃ service config routing deliveries, make (lasting 60) = .ok service ∧
      Logging.Routing.fresh.configure [] ⟨0, 0, 0⟩ = .ok routing ∧
      service.startRouted routing ⟨⟨0, 0, 0⟩, none, "", 0⟩ .empty =
        .ok (service.start .empty, deliveries) ∧
      (service.start .empty).result = .ok () ∧
      ((service.start .empty).service.after [asked]).provider.config = some config ∧
      ((service.start .empty).service.after [asked]).Reports true ∧
      (service.start .empty).service.Reports true := by
  intro asked
  obtain ⟨config, signer⟩ := signer_lasting (n := 60) (by decide) .empty
  obtain ⟨routing, configured⟩ : ∃ routing,
      Logging.Routing.fresh.configure [] ⟨0, 0, 0⟩ = .ok routing := ⟨_, rfl⟩
  have nonblank := not_isBlank_lastingSources 60
  have short : ¬ (lasting 60).HasLongNumber := by
    rw [Settings.HasLongNumber]
    decide
  obtain ⟨goes, -, first, -⟩ := available_as_configured (ofSources_lastingSources (by decide))
    (make_lasting 60) .empty ⟨⟨0, 0, 0⟩, none, "", 0⟩ Logging.Routing.sparesProvider_fresh
    configured (List.forall_mem_nil _)
  have request : asked.IsRequest := trivial
  obtain ⟨-, -, later, -⟩ := available_as_configured (ofSources_lastingSources (by decide))
    (make_lasting 60) .empty ⟨⟨0, 0, 0⟩, none, "", 0⟩ Logging.Routing.sparesProvider_fresh
    configured (List.forall_mem_singleton.mpr request)
  obtain ⟨deliveries, ends⟩ := goes (.inr (.inr short))
  obtain ⟨result, -, before, -⟩ := first nonblank _ signer
  obtain ⟨-, held, after, -⟩ := later nonblank _ signer
  exact ⟨_, config, routing, deliveries, make_lasting 60, configured, ends, result, held, after,
    before⟩

/-- Valid settings whose service is not available as they ask for: none is made under a prefix that
does not begin with a slash. And there is a signer for links that are valid for a number of seconds
with one digit more than are written, but where `DEBUG` is asked for the service does not start. -/
theorem not_available_lasting :
    (∃ settings, Settings.ofSources ⟨.default, [("API_V1_STR", .text "v1")], [], []⟩ =
        .ok settings ∧
      settings.cloudFrontUrl = none ∧ make settings = .error .relativePath) ∧
    ∃ service config routing,
      Settings.ofSources (lastingSources (10 ^ Fault.numeralLimit)) =
        .ok (lasting (10 ^ Fault.numeralLimit)) ∧
      make (lasting (10 ^ Fault.numeralLimit)) = .ok service ∧
      (lasting (10 ^ Fault.numeralLimit)).signer .empty = .ok config ∧
      Logging.Routing.fresh.configure [("LOG_LEVEL", "DEBUG")] ⟨0, 0, 0⟩ = .ok routing ∧
      service.startRouted routing ⟨⟨0, 0, 0⟩, none, "", 0⟩ .empty = .error .longInteger := by
  have nonneg : (0 : Int) ≤ 10 ^ Fault.numeralLimit := by positivity
  have long : (Value.integer (10 ^ Fault.numeralLimit)).isWritable = false := by
    have digits (k : Nat) : (10 ^ k : Int).natAbs = 10 ^ k := Int.natAbs_pow 10 k
    rw [← Bool.not_eq_true, Value.isWritable_integer_iff, digits]
    exact Nat.lt_irrefl _
  obtain ⟨config, signer⟩ := signer_lasting nonneg .empty
  obtain ⟨routing, configured⟩ : ∃ routing,
      Logging.Routing.fresh.configure [("LOG_LEVEL", "DEBUG")] ⟨0, 0, 0⟩ = .ok routing := ⟨_, rfl⟩
  refine ⟨⟨{ Settings.default with apiPath := "v1" }, rfl, rfl, rfl⟩, _, config, routing,
    ofSources_lastingSources nonneg, make_lasting _, signer, configured, ?_⟩
  rw [startRouted_eq_error_iff _ Logging.Routing.sparesProvider_fresh configured]
  exact ⟨rfl, by decide +kernel, rfl, .inl long⟩

end Http.Service

end SignedLink
