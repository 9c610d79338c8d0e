import SignedLink.Conversion.Basic
/-!
# SignedLink — how a conversion ends

A conversion of a regular value has three ends, and the two that are not a
miss have a reason each. `Issues` is the reason for a link: there is a
configuration, the binary is larger than the least size and has an identity,
and the link of that identity is signed. `Fails` is the reason for a failure: an
answer of the store that does not come, or a link that is not signed although
the gate was passed. Everything else is skipped, so a binary that stays at the
gate is skipped whatever its identity is.

The reasons exclude each other, and each determines the conversion, with its
record. `of_cases` closes the circle: without a reason there is a miss.

* `of_issues`, `of_fails`: what a conversion is for each reason.
* `of_cases`: a regular value has a reason or is skipped.
* `uri_eq_some_iff`, `outcome_eq_issued_iff`, `outcome_eq_failed_iff`: the reasons are exact.
* `isTellable_of_mem_of`: a record of a conversion can be put together, unless it is a detail.
-/

namespace SignedLink

/-! ## Regular values and thresholds -/

/-- A binary that answers with an integer or nothing for its length, and with a text or nothing for
its identity. It may also fail to answer. -/
structure Blob.IsRegular (blob : Blob) : Prop where
  length : ∀ v, blob.length = .ok v → ∃ n, v = Value.ofInt? n
  identity : ∀ v, blob.identity = .ok v → ∃ s, v = Value.ofText? s

/-- No binary value at all, a binary value without a binary, or one with a regular binary. -/
def Candidate.IsRegular : Candidate → Prop
  | .binary (some blob) => blob.IsRegular
  | _ => True

/-- Nothing held, or a configuration whose least size is not negative. -/
def HasThreshold (held : Option SignerConfiguration) : Prop :=
  ∀ config ∈ held, 0 ≤ config.minimumSizeBytes

theorem SignerConfiguration.WellFormed.hasThreshold {config : SignerConfiguration}
    (sound : config.WellFormed) : HasThreshold (some config) := by
  rintro _ ⟨⟩
  exact sound.size_nonneg

/-- A binary that is known beforehand is regular. -/
theorem BlobInfo.isRegular (info : BlobInfo) : info.toCandidate.IsRegular :=
  ⟨fun _ known => ⟨info.size, (Except.ok.inj known).symm⟩,
    fun _ identified => ⟨info.contentIdentity, (Except.ok.inj identified).symm⟩⟩

namespace Conversion

/-! ## The gate -/

/-- A binary that passes the gate, with its length and identity. -/
structure Passes (config : SignerConfiguration) (blob : Blob) (n : Int) (identity : String) :
    Prop where
  known : blob.length = .ok (.integer n)
  large : config.minimumSizeBytes < n
  identified : blob.identity = .ok (.text identity)

/-- A known length passes when it is above the least size and there is an identity. -/
theorem passes_integer {least n : Int} {identity : Value} (nonneg : 0 ≤ least) :
    passes least (.integer n) identity = .ok (!identity.isNull && decide (least < n)) := by
  -- a length above the least size is not negative, so the first test adds nothing
  have sizes : (!decide (n < 0) && !decide (n ≤ least)) = decide (least < n) := by
    by_cases large : least < n
    · have : ¬ n < 0 := by omega
      have : ¬ n ≤ least := by omega
      simp [*]
    · have : n ≤ least := by omega
      simp [*]
  simp only [passes, Value.isNull, isNegative, isSmall, Bool.false_eq_true, if_false]
  rw [Bool.and_right_comm, sizes, Bool.and_comm]

/-! ## Reasons -/

/-- The link of an identity under a configuration. -/
def signing (config : SignerConfiguration) (now : Value) (identity : String) :
    Except SigningError Link :=
  Link.sign (.text identity) config.baseUrl config.keyPairId config.key
    (.integer config.ttlSeconds) now

/-- The reason for a link. -/
inductive Issues (held : Option SignerConfiguration) (now : Value) : Candidate → Link → Prop where
  | signed {config : SignerConfiguration} {blob : Blob} {n : Int} {identity : String} {link : Link}
      (active : held = some config) (passed : Passes config blob n identity)
      (signed : signing config now identity = .ok link) :
      Issues held now (.binary (some blob)) link

/-- The reason for a failure. -/
inductive Fails (held : Option SignerConfiguration) (now : Value) :
    Candidate → ConversionFailure → Prop where
  /-- the length does not come -/
  | length {config : SignerConfiguration} {blob : Blob} {f : Fault} (active : held = some config)
      (raised : blob.length = .error f) : Fails held now (.binary (some blob)) (.fault f)
  /-- the identity does not come -/
  | identity {config : SignerConfiguration} {blob : Blob} {length : Value} {f : Fault}
      (active : held = some config) (answered : blob.length = .ok length)
      (raised : blob.identity = .error f) : Fails held now (.binary (some blob)) (.fault f)
  /-- the link is not signed -/
  | unsigned {config : SignerConfiguration} {blob : Blob} {n : Int} {identity : String}
      {e : SigningError} (active : held = some config) (passed : Passes config blob n identity)
      (unsigned : signing config now identity = .error e) :
      Fails held now (.binary (some blob)) (.signing e)

variable {held : Option SignerConfiguration} {now : Value} {candidate : Candidate}

/-- What passes the gate is signed. -/
theorem ofBlob_of_passes {config : SignerConfiguration} {blob : Blob} {n : Int} {identity : String}
    (nonneg : 0 ≤ config.minimumSizeBytes) (passed : Passes config blob n identity) :
    ofBlob config now blob = sign config now (.text identity) (.integer n) := by
  have large := passed.large
  simp only [ofBlob, passed.known, passed.identified, passes_integer nonneg, Value.isNull,
    Bool.not_false, Bool.true_and, decide_eq_true large]

/-- With the reason for a link, the conversion issues that link. -/
theorem of_issues {link : Link} (threshold : HasThreshold held)
    (reason : Issues held now candidate link) :
    (of held now candidate).outcome = .issued ∧ (of held now candidate).uri = some link.url := by
  obtain ⟨rfl, passed, signed⟩ := reason
  have made : of (some _) now (.binary (some _)) = sign _ now _ _ :=
    ofBlob_of_passes (threshold _ rfl) passed
  unfold signing at signed
  simp only [made, sign, signed]
  exact ⟨rfl, rfl⟩

/-- With the reason for a failure, the conversion fails and tells it. -/
theorem of_fails {failure : ConversionFailure} (threshold : HasThreshold held)
    (reason : Fails held now candidate failure) :
    (of held now candidate).outcome = .failed ∧ (of held now candidate).uri = none ∧
      ∃ r, (of held now candidate).records = [r] ∧ r.failure = some failure := by
  cases reason with
  | length active raised =>
    subst active
    simp only [of, ofBlob, raised]
    exact ⟨rfl, rfl, _, rfl, rfl⟩
  | identity active answered raised =>
    subst active
    simp only [of, ofBlob, answered, raised]
    exact ⟨rfl, rfl, _, rfl, rfl⟩
  | unsigned active passed unsigned =>
    subst active
    have made : of (some _) now (.binary (some _)) = sign _ now _ _ :=
      ofBlob_of_passes (threshold _ rfl) passed
    unfold signing at unsigned
    simp only [made, sign, unsigned]
    exact ⟨rfl, rfl, _, rfl, rfl⟩

/-- A regular value has a reason for a link or for a failure, or it is skipped. -/
theorem of_cases (threshold : HasThreshold held) (regular : candidate.IsRegular) :
    (∃ link, Issues held now candidate link) ∨ (∃ failure, Fails held now candidate failure) ∨
      ∃ records, of held now candidate = skipped records := by
  match held, candidate with
  | none, _ => exact .inr (.inr ⟨_, rfl⟩)
  | some config, .foreign => exact .inr (.inr ⟨_, rfl⟩)
  | some config, .binary none => exact .inr (.inr ⟨_, rfl⟩)
  | some config, .binary (some blob) =>
    have nonneg : 0 ≤ config.minimumSizeBytes := threshold config rfl
    show _ ∨ _ ∨ ∃ records, ofBlob config now blob = skipped records
    cases known : blob.length with
    | error f => exact .inr (.inl ⟨_, .length rfl known⟩)
    | ok length =>
      cases identified : blob.identity with
      | error f => exact .inr (.inl ⟨_, .identity rfl known identified⟩)
      | ok identity =>
        obtain ⟨n, rfl⟩ := regular.length _ known
        obtain ⟨s, rfl⟩ := regular.identity _ identified
        -- both answers are there; the gate is open only for a large size with an identity
        match n, s with
        | none, _ =>
          exact .inr (.inr ⟨[], by simp [ofBlob, known, identified, Value.ofInt?, passes,
            Value.isNull]⟩)
        | some n, none =>
          exact .inr (.inr ⟨[], by simp [ofBlob, known, identified, Value.ofInt?, Value.ofText?,
            passes_integer nonneg, Value.isNull]⟩)
        | some n, some s =>
          by_cases large : config.minimumSizeBytes < n
          · have passed : Passes config blob n s := ⟨known, large, identified⟩
            cases signed : signing config now s with
            | ok link => exact .inl ⟨link, .signed rfl passed signed⟩
            | error e => exact .inr (.inl ⟨_, .unsigned rfl passed signed⟩)
          · exact .inr (.inr ⟨[], by simp [ofBlob, known, identified, Value.ofInt?,
              passes_integer nonneg, large]⟩)

/-! ## The reasons are exact -/

/-- A conversion is issued exactly when there is a reason for a link. -/
theorem outcome_eq_issued_iff (threshold : HasThreshold held) (regular : candidate.IsRegular) :
    (of held now candidate).outcome = .issued ↔ ∃ link, Issues held now candidate link := by
  constructor
  · intro issued
    rcases of_cases threshold regular with reason | ⟨failure, reason⟩ | ⟨records, skips⟩
    · exact reason
    · rw [(of_fails threshold reason).1] at issued
      cases issued
    · rw [skips] at issued
      cases issued
  · rintro ⟨link, reason⟩
    exact (of_issues threshold reason).1

/-- A conversion fails exactly when there is a reason for a failure. -/
theorem outcome_eq_failed_iff (threshold : HasThreshold held) (regular : candidate.IsRegular) :
    (of held now candidate).outcome = .failed ↔ ∃ failure, Fails held now candidate failure := by
  constructor
  · intro failed
    rcases of_cases threshold regular with ⟨link, reason⟩ | reason | ⟨records, skips⟩
    · rw [(of_issues threshold reason).1] at failed
      cases failed
    · exact reason
    · rw [skips] at failed
      cases failed
  · rintro ⟨failure, reason⟩
    exact (of_fails threshold reason).1

/-- There is an address exactly when there is a reason for a link, and it is that of the link. -/
theorem uri_eq_some_iff {uri : String} (threshold : HasThreshold held)
    (regular : candidate.IsRegular) :
    (of held now candidate).uri = some uri ↔
      ∃ link, Issues held now candidate link ∧ uri = link.url := by
  constructor
  · intro given
    have told : (of held now candidate).uri.isSome := by rw [given]; rfl
    have issued := (uri_isSome_iff held now candidate).mp told
    obtain ⟨link, reason⟩ := (outcome_eq_issued_iff threshold regular).mp issued
    rw [(of_issues threshold reason).2] at given
    exact ⟨link, reason, (Option.some.inj given).symm⟩
  · rintro ⟨link, reason, rfl⟩
    exact (of_issues threshold reason).2

/-! ## Records -/

/-- A record of the provider whose message can be put together, or that is only a detail. -/
def IsTellable (r : Logging.Record) : Prop :=
  r.logger = Logging.providerLogger ∧ (r.level = .debug ∨ ∃ message, r.message = .ok message)

/-- A failure is told with a text for the identity, or with nothing for it. -/
theorem isTellable_of_mem_failed {identity : Option String} {failure : ConversionFailure}
    {r : Logging.Record} (mem : r ∈ (failed (Value.ofText? identity) failure).records) :
    IsTellable r := by
  obtain rfl := List.mem_singleton.mp mem
  cases identity with
  | none => exact ⟨rfl, .inr ⟨_, rfl⟩⟩
  | some s => exact ⟨rfl, .inr ⟨_, rfl⟩⟩

theorem isTellable_of_mem_sign {config : SignerConfiguration} {identity : Option String}
    {length : Value} {r : Logging.Record}
    (mem : r ∈ (sign config now (Value.ofText? identity) length).records) : IsTellable r := by
  unfold sign at mem
  split at mem
  · exact isTellable_of_mem_failed mem
  · obtain rfl := List.mem_singleton.mp mem
    exact ⟨rfl, .inl rfl⟩

theorem isTellable_of_mem_ofBlob {config : SignerConfiguration} {blob : Blob}
    (regular : blob.IsRegular) {r : Logging.Record} (mem : r ∈ (ofBlob config now blob).records) :
    IsTellable r := by
  have unknown (f : Fault) (told : r ∈ (failed .null (.fault f)).records) : IsTellable r :=
    @isTellable_of_mem_failed none _ _ told
  unfold ofBlob at mem
  split at mem
  · exact unknown _ mem
  · split at mem
    · exact unknown _ mem
    · next identified =>
      obtain ⟨s, rfl⟩ := regular.identity _ identified
      split at mem
      · exact isTellable_of_mem_failed mem
      · cases mem
      · exact isTellable_of_mem_sign mem

/-- The records of the conversion of a regular value are tellable. -/
theorem isTellable_of_mem_of (regular : candidate.IsRegular) {r : Logging.Record}
    (mem : r ∈ (of held now candidate).records) : IsTellable r := by
  match held, candidate with
  | none, _ =>
    obtain rfl := List.mem_singleton.mp mem
    exact ⟨rfl, .inl rfl⟩
  | some config, .foreign => cases mem
  | some config, .binary none => cases mem
  | some config, .binary (some blob) => exact isTellable_of_mem_ofBlob regular mem

end Conversion

end SignedLink
