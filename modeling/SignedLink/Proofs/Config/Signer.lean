import SignedLink.Config.Signer
import SignedLink.Proofs.Config.Options
import SignedLink.Proofs.Key.Load
/-!
# SignedLink — which configurations are built

Options in their normal form and a key always make a record: nothing that the
record asks of its fields can still be violated. So a bag of properties gives
a configuration exactly when its options are read and a key is loaded from the
text that they name; and then the configuration is known field by field.

* `ofProperties_eq_ok_iff`: the bags that give a configuration, and the configuration they give.
* `minimumSizeBytes_of_ofProperties`: the least size in bytes is that in kilobytes times 1024.
* `ofProperties_cases`: a bag gives a configuration, a refusal of a documented kind, or a fault.
-/

namespace SignedLink

/-- The configuration that options and a key make. -/
def Options.configuration (options : Options) (key : Rsa.PrivateKey) : SignerConfiguration where
  baseUrl := .ofList (Property.addressChars options.baseUrl.toList)
  ttlSeconds := options.ttlSeconds
  minimumSizeBytes := options.minSizeKb * 1024
  keyPairId := options.keyPairId
  key := .rsa key

/-- The armoured text of the key of two Mersenne primes. -/
def Options.mersennePem : String :=
  .ofList (Key.armour (Base64.encode (Key.encode .mersenneKey)))

/-- A bag with that key in it, for all sizes and a validity. -/
def Options.mersenneProperties (ttl : Int) : Fields :=
  [(Property.cloudFrontUrl, .text "https://files.example"), (Property.keyPairId, .text "K1"),
    (Property.ttl, .integer ttl), (Property.minSize, .integer 0),
    (Property.privateKey, .text Options.mersennePem)]

namespace SignerConfiguration

variable {options : Options} {files : FileSystem} {properties : Fields}
  {config : SignerConfiguration}

/-! ## Options in their normal form -/

theorem natural_of_nonneg {n : Int} (nonneg : 0 ≤ n) : Checked.natural (.integer n) = .ok n :=
  Checked.natural_eq_ok_iff.mpr ⟨rfl, nonneg⟩

theorem nonEmptyText_of_ne {s : String} (nonempty : s ≠ "") :
    Checked.nonEmptyText (.text s) = .ok s := by
  simp [Checked.nonEmptyText, Checked.text, nonempty]

/-- Options in their normal form and a key make a record. -/
theorem validate_of_isNormal (normal : options.IsNormal) (key : Rsa.PrivateKey) :
    validate {
      baseUrl := some (.text options.baseUrl)
      ttlSeconds := some (.integer options.ttlSeconds)
      minimumSizeBytes := some (.integer (options.minSizeKb * 1024))
      keyPairId := some (.text options.keyPairId)
      key := some (.rsa key) } = .ok (options.configuration key) := by
  -- the address was trimmed before, so trimming it for the record leaves something of it
  have nonblank : Property.addressChars options.baseUrl.toList ≠ [] := by
    rw [ne_eq, Property.addressChars_eq_nil_iff, normal.trimmed]
    simpa using normal.addressed
  have ttl := natural_of_nonneg normal.ttl_nonneg
  have size : Checked.natural (.integer (options.minSizeKb * 1024)) =
      .ok (options.minSizeKb * 1024) := by
    refine natural_of_nonneg ?_
    have := normal.size_nonneg
    omega
  have name := nonEmptyText_of_ne normal.named
  simp [validate, draftAddress, Property.address, checkedAddress, nonblank, numberOr, ttl, size,
    given, name, checkedKey, SigningKey.isRsa, Options.configuration]

/-- From options in their normal form, only the key decides whether there is a configuration. -/
theorem create_of_isNormal (normal : options.IsNormal) (pem : String) :
    create (.text options.baseUrl) (.integer options.ttlSeconds) (.integer options.minSizeKb)
        (.text pem) (.text options.keyPairId) =
      match Key.load (Key.normalize (some pem)) with
      | .ok key => .ok (options.configuration key)
      | .error e => .error (.key e) := by
  have ttl := @Property.wholeNumber_integer Property.ttl Property.defaultTtlSeconds _
    normal.ttl_nonneg
  have size := @Property.wholeNumber_integer Property.minSize Property.defaultMinSizeKb _
    normal.size_nonneg
  -- the numbers come back as they are, so what is left is the key
  simp only [create, ttl, size, loadKey, normalKeyText, bind, Except.bind]
  cases Key.load (Key.normalize (some pem)) with
  | error e => rfl
  | ok key => exact validate_of_isNormal normal key

/-- What the text of a key gives when it is there: a blank one counts as no key. -/
theorem ofOptions_of_keyText (normal : options.IsNormal) {pem : String}
    (found : Options.keyText files options.keySource = .ok pem) :
    ofOptions files options =
      if Text.trimChars pem.toList = [] then .error (.required Property.privateKeyFile)
      else
        match Key.load (Key.normalize (some pem)) with
        | .ok key => .ok (options.configuration key)
        | .error e => .error (.key e) := by
  rw [← create_of_isNormal normal pem]
  simp only [ofOptions, found, bind, Except.bind, List.isEmpty_iff]
  split <;> rfl

/-- Options with the same source of the key that make the same configuration of every key have the
same outcome. -/
theorem ofOptions_congr {other : Options} (normal : options.IsNormal) (otherNormal : other.IsNormal)
    (source : other.keySource = options.keySource)
    (same : ∀ key, other.configuration key = options.configuration key) (files : FileSystem) :
    ofOptions files other = ofOptions files options := by
  cases found : Options.keyText files options.keySource with
  | error e => simp [ofOptions, source, found, bind, Except.bind]
  | ok pem =>
    rw [ofOptions_of_keyText normal found, ofOptions_of_keyText otherNormal (source ▸ found)]
    simp only [same]

/-! ## Bags of properties -/

theorem ofProperties_eq_ofOptions (read : Options.ofProperties properties = .ok options) :
    ofProperties files properties = ofOptions files options := by
  rw [ofProperties, read]
  rfl

/-- The bags that give a configuration, and the configuration they give. That the text of the key is
not blank goes without saying, since no key is loaded from a blank one. -/
theorem ofProperties_eq_ok_iff :
    ofProperties files properties = .ok config ↔
      ∃ options pem key, Options.ofProperties properties = .ok options ∧
        Options.keyText files options.keySource = .ok pem ∧
        Key.load (Key.normalize (some pem)) = .ok key ∧ config = options.configuration key := by
  constructor
  · intro made
    obtain ⟨options, read, made⟩ := Except.bind_eq_ok_iff.mp made
    have normal := Options.isNormal_of_ofProperties read
    obtain ⟨pem, found, -⟩ := Except.bind_eq_ok_iff.mp made
    rw [ofOptions_of_keyText normal found] at made
    split at made
    · simp at made
    · split at made
      · next key loaded =>
        exact ⟨options, pem, key, read, found, loaded, (Except.ok.inj made).symm⟩
      · simp at made
  · rintro ⟨options, pem, key, read, found, loaded, rfl⟩
    have nonblank : Text.trimChars pem.toList ≠ [] := by
      -- a blank text has no markers, so no key would have been loaded
      intro blank
      rw [Key.load_normalize_of_blank blank] at loaded
      cases loaded
    refine Except.bind_eq_ok_iff.mpr ⟨options, read, ?_⟩
    rw [ofOptions_of_keyText (Options.isNormal_of_ofProperties read) found, if_neg nonblank, loaded]

/-- Whether a configuration has passed validation. -/
def IsValidated (config : SignerConfiguration) : Prop :=
  ∃ draft, validate draft = .ok config

theorem IsValidated.wellFormed (validated : config.IsValidated) : config.WellFormed := by
  obtain ⟨draft, made⟩ := validated
  exact wellFormed_of_validate made

/-- What is made of a bag of properties has passed validation. -/
theorem isValidated_of_ofProperties (made : ofProperties files properties = .ok config) :
    config.IsValidated := by
  obtain ⟨options, pem, key, read, -, -, rfl⟩ := ofProperties_eq_ok_iff.mp made
  exact ⟨_, validate_of_isNormal (Options.isNormal_of_ofProperties read) key⟩

/-- An activated signer has an RSA key that was loaded from a text. -/
theorem exists_key_of_ofProperties (made : ofProperties files properties = .ok config) :
    ∃ key pem, config.key = .rsa key ∧ Key.load pem = .ok key := by
  obtain ⟨options, pem, key, -, -, loaded, rfl⟩ := ofProperties_eq_ok_iff.mp made
  exact ⟨key, _, rfl, loaded⟩

/-- The least size in bytes is that in kilobytes times 1024. -/
theorem minimumSizeBytes_of_ofProperties (made : ofProperties files properties = .ok config) :
    ∃ minSizeKb, Property.wholeNumber Property.minSize Property.defaultMinSizeKb
        (Fields.get properties Property.minSize) = .ok minSizeKb ∧
      config.minimumSizeBytes = 1024 * minSizeKb := by
  obtain ⟨options, pem, key, read, -, -, rfl⟩ := ofProperties_eq_ok_iff.mp made
  obtain ⟨-, -, -, size, -⟩ := Options.ofProperties_eq_ok_iff.mp read
  exact ⟨options.minSizeKb, size, Int.mul_comm ..⟩

/-- A bag of texts and numbers with the text of a key in it gives the configuration that it
spells. -/
theorem ofProperties_inline {baseUrl keyPairId pem : String} {ttl size : Int}
    {key : Rsa.PrivateKey} (files : FileSystem) (addressed : Text.trim baseUrl ≠ "")
    (named : Text.trim keyPairId ≠ "") (ttl_nonneg : 0 ≤ ttl) (size_nonneg : 0 ≤ size)
    (loaded : Key.load (Key.normalize (some pem)) = .ok key) :
    ofProperties files [(Property.cloudFrontUrl, .text baseUrl),
        (Property.keyPairId, .text keyPairId), (Property.ttl, .integer ttl),
        (Property.minSize, .integer size), (Property.privateKey, .text pem)] =
      .ok (Options.configuration ⟨Text.trim baseUrl, Text.trim keyPairId, ttl, size,
        .inline (Text.trim pem)⟩ key) := by
  refine ofProperties_eq_ok_iff.mpr ⟨_, Text.trim pem, key, ?_, rfl, ?_, rfl⟩
  · refine Options.ofProperties_eq_ok_iff.mpr ⟨?_, ?_, ?_, ?_, rfl⟩
    · exact Property.requiredText_eq_ok_iff.mpr ⟨rfl, baseUrl, rfl, rfl, addressed⟩
    · exact Property.requiredText_eq_ok_iff.mpr ⟨rfl, keyPairId, rfl, rfl, named⟩
    · exact Property.wholeNumber_integer ttl_nonneg
    · exact Property.wholeNumber_integer size_nonneg
  · rw [Key.normalize_trim, loaded]

theorem load_mersennePem :
    Key.load (Key.normalize (some Options.mersennePem)) = .ok .mersenneKey := by
  have loaded := Key.load_armour .mersenneKey
  rwa [if_pos Key.mersenneKey_fits] at loaded

theorem ofProperties_mersenneProperties (files : FileSystem) {ttl : Int} (nonneg : 0 ≤ ttl) :
    ofProperties files (Options.mersenneProperties ttl) =
      .ok (Options.configuration ⟨"https://files.example", "K1", ttl, 0,
        .inline (Text.trim Options.mersennePem)⟩ .mersenneKey) :=
  ofProperties_inline files (by decide) (by decide) nonneg (by decide) load_mersennePem

/-! ## Refusals and faults -/

/-- The faults that building a configuration can end with are those of reading its options and the
file of its key. -/
theorem isFault_of_ofProperties {f : Fault}
    (h : ofProperties files properties = .error (.fault f)) : Options.IsFault properties f := by
  rcases Except.bind_eq_error_iff.mp h with unread | ⟨options, read, h⟩
  · exact Options.isFault_of_ofProperties unread
  have normal := Options.isNormal_of_ofProperties read
  obtain ⟨-, -, -, -, source⟩ := Options.ofProperties_eq_ok_iff.mp read
  -- once there is a text, the markers, its body and its structure only lead to refusals
  cases found : Options.keyText files options.keySource with
  | error e =>
    have : e = .fault f := by
      simpa [ofOptions, found, bind, Except.bind] using h
    subst this
    exact Options.isFault_of_keyText source found
  | ok pem =>
    rw [ofOptions_of_keyText normal found] at h
    split at h
    · simp at h
    · split at h <;> simp at h

/-- A bag of properties gives a well-formed configuration, or a refusal of a documented kind, or a
fault, for which one of its properties is to blame. -/
theorem ofProperties_cases (files : FileSystem) (properties : Fields) :
    (∃ config, ofProperties files properties = .ok config ∧ config.WellFormed) ∨
      (∃ e kind, ofProperties files properties = .error e ∧ e.kind? = some kind) ∨
      (∃ f, ofProperties files properties = .error (.fault f) ∧ Options.IsFault properties f) := by
  cases made : ofProperties files properties with
  | ok config => exact .inl ⟨config, rfl, (isValidated_of_ofProperties made).wellFormed⟩
  | error e =>
    right
    cases documented : e.kind? with
    | some kind => exact .inl ⟨e, kind, rfl, documented⟩
    | none =>
      obtain ⟨f, rfl⟩ := ConfigError.kind?_eq_none_iff.mp documented
      exact .inr ⟨f, rfl, isFault_of_ofProperties made⟩

/-- An infinite validity is a fault, although everything else is there. -/
theorem ofProperties_infiniteTtl :
    ∃ e, ofProperties .empty
        [(Property.cloudFrontUrl, .text "https://files.example"), (Property.keyPairId, .text "K1"),
          (Property.ttl, .real (.infinite false)), (Property.privateKey, .text "armoured")] =
      .error e ∧ e.kind? = none :=
  ⟨.fault .wholeOfInfinity, rfl, rfl⟩

end SignerConfiguration

end SignedLink
