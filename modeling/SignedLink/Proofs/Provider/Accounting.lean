import SignedLink.Proofs.Conversion.Gate
import SignedLink.Proofs.Logging.DefaultLevel
import SignedLink.Proofs.Provider.Holding
import SignedLink.Proofs.Provider.Readiness
import SignedLink.Provider.Routed
/-!
# SignedLink — gating and accounting of conversions

Every conversion is counted once, under its outcome and no other; the time of
signing is observed under the same outcome, unless the value was skipped. What
else a host does with the provider is not counted. So after any run each counter
shows how many conversions of the run had that outcome.

The outcome itself is known from the configuration that is held at that moment
and from the answers of the store: it is the one for which there is a reason.
At the default level the record of a conversion never gets in its way.

* `Tallied`: how metrics change by one conversion.
* `count_after`: the counters after a run.
* `convert_accounted`: what a conversion answers and counts, at any point of any run.
-/

namespace SignedLink

namespace Outcome

/-- Outcomes with the same label are the same. -/
theorem label_inj {a b : Outcome} : a.label = b.label ↔ a = b := by
  cases a <;> cases b <;> decide

end Outcome

/-! ## One conversion -/

/-- Metrics before and after one outcome whose signing took some seconds: one more conversion under
its label, and one more value in the histogram under the same label unless it was skipped. -/
structure Tallied (before after : Metrics) (outcome : Outcome) (seconds : Binary64) : Prop where
  counted : ∀ o, after.count o.label = before.count o.label + if o = outcome then 1 else 0
  observed : outcome ≠ .skipped → ∀ o, after.latencies.lookup o.label =
    if o = outcome then some (((before.latencies.lookup o.label).getD .empty).observe seconds)
    else before.latencies.lookup o.label
  unobserved : outcome = .skipped → after.latencies = before.latencies

/-- The metrics are tallied by the outcome of a conversion. -/
theorem Conversion.tallied_account (c : Conversion) (seconds : Binary64) (m : Metrics) :
    Tallied m (c.account seconds m) c.outcome seconds := by
  obtain ⟨outcome, uri, records⟩ := c
  have counted (before : Metrics) (o : Outcome) :
      (before.addConversion outcome.label).count o.label =
        before.count o.label + if o = outcome then 1 else 0 := by
    rw [Metrics.count_addConversion]
    simp only [Outcome.label_inj]
  have observed (o : Outcome) : (m.addLatency outcome.label seconds).latencies.lookup o.label =
      if o = outcome then some (((m.latencies.lookup o.label).getD .empty).observe seconds)
      else m.latencies.lookup o.label := by
    show (m.latencies.update .empty (Histogram.observe seconds) outcome.label).lookup o.label = _
    rw [Metrics.lookup_update]
    by_cases same : o = outcome
    · simp [same]
    · simp [same, Outcome.label_inj]
  -- a miss takes the shorter way, on which nothing is observed
  cases outcome with
  | skipped => exact ⟨counted m, fun other => absurd rfl other, fun _ => rfl⟩
  | issued => exact ⟨counted (m.addLatency "issued" seconds), fun _ => observed, nofun⟩
  | failed => exact ⟨counted (m.addLatency "failed" seconds), fun _ => observed, nofun⟩

/-! ## Runs -/

namespace Provider

namespace Session

variable {s : Session} {action : Action}

/-- The outcome of an action, if it is a conversion. -/
def outcome? (s : Session) : Action → Option Outcome
  | .convert now _ candidate => some (s.provider.convert now candidate).outcome
  | _ => none

/-- The outcomes of the conversions of a run, in order. -/
def outcomes (s : Session) : List Action → List Outcome
  | [] => []
  | action :: rest => (s.outcome? action).toList ++ (s.perform action).session.outcomes rest

/-- An action is counted under its outcome; one that is no conversion is not counted. -/
theorem count_perform (s : Session) (action : Action) (o : Outcome) :
    (s.perform action).session.metrics.count o.label =
      s.metrics.count o.label + (s.outcome? action).toList.count o := by
  cases action with
  | convert now seconds candidate =>
    have tallied := (s.provider.convert now candidate).tallied_account seconds s.metrics
    show ((s.provider.convert now candidate).account seconds s.metrics).count o.label =
      _ + [(s.provider.convert now candidate).outcome].count o
    rw [tallied.counted o, List.count_singleton]
    congr 1
    by_cases same : o = (s.provider.convert now candidate).outcome
    · simp [same]
    · simp [same, Ne.symm same]
  | activate files properties => rfl
  | reconfigure config => rfl
  | deactivate => rfl
  | close => rfl

/-- After a run each counter shows how many conversions of the run had that outcome. -/
theorem count_after (s : Session) (actions : List Action) (o : Outcome) :
    (s.after actions).metrics.count o.label =
      s.metrics.count o.label + (s.outcomes actions).count o := by
  induction actions generalizing s with
  | nil => rfl
  | cons action rest ih =>
    -- the first action is counted before the run of the others begins
    rw [after_cons, ih, count_perform, outcomes, List.count_append, Nat.add_assoc]

end Session

/-! ## Conversions with routed records -/

/-- At the default level a conversion of a regular value always ends, with the address that it has
without its record. -/
theorem convertRouted_of_default {p : Provider} {before routing : Logging.Routing}
    {environment : Environment} {stamp : Logging.Stamp} {candidate : Candidate}
    (plain : before.LeavesProvider) (default : environment.getD "LOG_LEVEL" "INFO" = "INFO")
    (configured : before.configure environment stamp = .ok routing)
    (regular : candidate.IsRegular) (origin : Logging.Origin) (now : Value) :
    ∃ deliveries, p.convertRouted routing origin now candidate =
      .ok ((p.convert now candidate).uri, deliveries) := by
  have details := Logging.Routing.passes_debug_of_default plain default configured
  obtain ⟨deliveries, delivered⟩ : ∃ deliveries,
      routing.deliverAll origin (p.convert now candidate).records = .ok deliveries := by
    refine Logging.Routing.exists_deliverAll origin fun r mem => ?_
    -- details are dropped before they are put together, and all else can be put together
    obtain ⟨logger, detail | told⟩ := Conversion.isTellable_of_mem_of regular mem
    · rw [logger, detail]
      exact .inl details
    · exact .inr told
  refine ⟨deliveries, ?_⟩
  simp only [convertRouted, delivered]
  rfl

/-! ## Any point of any run -/

/-- What is known of one conversion: it answers with the address of a link exactly when there is a
reason for that link, and its outcome, under which it is counted, is the one there is a reason
for. -/
structure IsAccounted (s : Session) (now : Value) (seconds : Binary64) (candidate : Candidate)
    (outcome : Outcome) : Prop where
  address : ∀ uri, (s.perform (.convert now seconds candidate)).reply = .converted (some uri) ↔
    ∃ link, Conversion.Issues s.provider.config now candidate link ∧ uri = link.url
  miss : (s.perform (.convert now seconds candidate)).reply = .converted none ↔
    ∀ link, ¬ Conversion.Issues s.provider.config now candidate link
  issued : outcome = .issued ↔ ∃ link, Conversion.Issues s.provider.config now candidate link
  failed : outcome = .failed ↔
    ∃ failure, Conversion.Fails s.provider.config now candidate failure
  skipped : outcome = .skipped ↔
    (∀ link, ¬ Conversion.Issues s.provider.config now candidate link) ∧
      ∀ failure, ¬ Conversion.Fails s.provider.config now candidate failure
  tallied : Tallied s.metrics (s.perform (.convert now seconds candidate)).session.metrics outcome
    seconds

theorem isAccounted_of_isSound {s : Session} {candidate : Candidate} (sound : s.provider.IsSound)
    (regular : candidate.IsRegular) (now : Value) (seconds : Binary64) :
    IsAccounted s now seconds candidate (s.provider.convert now candidate).outcome := by
  -- with a least size that is not negative the gate is the comparison that it looks like
  have threshold : HasThreshold s.provider.config :=
    fun config holds => (sound config holds).size_nonneg
  have address (uri : String) : (s.provider.convert now candidate).uri = some uri ↔
      ∃ link, Conversion.Issues s.provider.config now candidate link ∧ uri = link.url :=
    Conversion.uri_eq_some_iff threshold regular
  have issued := @Conversion.outcome_eq_issued_iff _ now _ threshold regular
  have failed := @Conversion.outcome_eq_failed_iff _ now _ threshold regular
  refine ⟨fun uri => ?_, ?_, issued, failed, ?_, Conversion.tallied_account ..⟩
  · rw [← address]
    simp [Session.perform]
  · have missed : (s.perform (.convert now seconds candidate)).reply = .converted none ↔
        (s.provider.convert now candidate).uri = none := by
      simp [Session.perform]
    rw [missed, Option.eq_none_iff_forall_ne_some]
    simp only [ne_eq, address]
    constructor
    · intro no link reason
      exact no link.url ⟨link, reason, rfl⟩
    · rintro no uri ⟨link, reason, -⟩
      exact no link reason
  · -- the third outcome is left when the other two are excluded
    rw [← not_exists, ← not_exists, ← issued, ← failed]
    show (Conversion.of s.provider.config now candidate).outcome = .skipped ↔ _
    cases (Conversion.of s.provider.config now candidate).outcome <;> simp

/-- At any point of any run, the conversion of a regular value answers and is counted as there is a
reason for it, and at the default level its record does not keep it from answering; and up to that
point each counter has grown by the conversions of the run with its outcome. -/
theorem convert_accounted {initial : Option SignerConfiguration} {actions : List Action}
    {candidate : Candidate} (metrics : Metrics)
    (validated : ∀ config ∈ initial, config.IsValidated)
    (admissible : ∀ a ∈ actions, a.IsAdmissible) (regular : candidate.IsRegular) (now : Value)
    (seconds : Binary64) :
    let s := Session.after ⟨⟨initial⟩, metrics⟩ actions
    (∃ outcome, IsAccounted s now seconds candidate outcome) ∧
    (∀ o : Outcome, s.metrics.count o.label =
      metrics.count o.label + (Session.outcomes ⟨⟨initial⟩, metrics⟩ actions).count o) ∧
    (∀ before environment stamp routing origin, Logging.Routing.LeavesProvider before →
      environment.getD "LOG_LEVEL" "INFO" = "INFO" →
      before.configure environment stamp = .ok routing →
      ∃ uri deliveries, (s.perform (.convert now seconds candidate)).reply = .converted uri ∧
        s.provider.convertRouted routing origin now candidate = .ok (uri, deliveries)) := by
  intro s
  have sound : s.provider.IsSound := (isSound_of_isValidated validated).after admissible
  refine ⟨⟨_, isAccounted_of_isSound sound regular now seconds⟩, Session.count_after _ actions, ?_⟩
  intro before environment stamp routing origin plain default configured
  obtain ⟨deliveries, routed⟩ :=
    convertRouted_of_default plain default configured regular origin now
  exact ⟨_, deliveries, rfl, routed⟩

/-- A provider is activated with a key of two Mersenne primes, is offered something that is no
binary value, and then a binary. -/
theorem convert_accounted_mersenneKey :
    ∃ link : Link,
      let s := Session.after ⟨⟨none⟩, .empty⟩
        [.activate .empty (Options.mersenneProperties 600),
          .convert (.integer 1700000000) .zero .foreign]
      s.metrics.count Outcome.skipped.label = 1 ∧
        (s.perform (.convert (.integer 1700000000) .zero
          (BlobInfo.toCandidate ⟨some 1, some "abcd"⟩))).reply = .converted (some link.url) := by
  have made := SignerConfiguration.ofProperties_mersenneProperties
    .empty (by decide : (0 : Int) ≤ 600)
  have sound := (SignerConfiguration.isValidated_of_ofProperties made).wellFormed
  obtain ⟨link, signed, -⟩ := @Conversion.of_fit _ .mersenneKey
    (BlobInfo.toBlob ⟨some 1, some "abcd"⟩) "abcd" 1 1700000000 (.integer 1700000000) sound rfl
    ⟨rfl, by decide, rfl⟩ (by decide) (.integer 1700000000)
    ⟨by rw [Rsa.PrivateKey.size_mersenneKey]; decide, by decide⟩
  obtain ⟨⟨outcome, accounted⟩, counted, -⟩ := @convert_accounted none
    [.activate .empty (Options.mersenneProperties 600),
      .convert (.integer 1700000000) .zero .foreign]
    (BlobInfo.toCandidate ⟨some 1, some "abcd"⟩) .empty (by simp) (by simp [Action.IsAdmissible])
    (BlobInfo.isRegular _) (.integer 1700000000) .zero
  have idle : ∀ a ∈ [Action.convert (.integer 1700000000) .zero .foreign], a.IsIdle := by
    rw [List.forall_mem_singleton]
    rintro held ⟨⟩
  have latest : IsLatest none
      [.activate .empty (Options.mersenneProperties 600),
        .convert (.integer 1700000000) .zero .foreign] (some _) :=
    .installed [] (.activate made) idle
  have holds := (@Session.isLatest_iff ⟨⟨none⟩, .empty⟩ _ _).mp latest
  have miss (held : Option SignerConfiguration) :
      (Conversion.of held (.integer 1700000000) .foreign).outcome = .skipped := by
    cases held <;> rfl
  have address := (accounted.address link.url).mpr
    ⟨link, .signed holds ⟨rfl, by decide, rfl⟩ signed, rfl⟩
  refine ⟨link, ?_, address⟩
  rw [counted .skipped]
  simp only [Session.outcomes, Session.outcome?, convert, miss]
  rfl

end Provider

end SignedLink
