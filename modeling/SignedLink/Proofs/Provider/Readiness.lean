import SignedLink.Proofs.Conversion.Gate
import SignedLink.Proofs.Config.Signer
import SignedLink.Proofs.Signing.Verification
import SignedLink.Provider
/-!
# SignedLink — what an activated provider can sign

An activation looks at the form of the options and of the key, and not at what
they will be used for. Two things are left to the conversions: whether the
modulus of the key has room for a signature, and whether the expiry, which is
the time of the conversion plus the validity, lies in the calendar. Where both
hold, every value that passes the gate gets a link; where one does not, every
such value fails, and the failure stays inside the conversion.

* `Link.Misfit`, `Link.sign_of_unfit`: why a link cannot be signed, and how it is refused.
* `convert_of_activated`: the conversions of an activated provider.
* `convert_beyond_calendar`: a validity that is accepted and cannot be signed.
-/

namespace SignedLink

namespace Link

/-- Why a key does not sign anything for an expiry: the expiry is outside the calendar, or it is in
the calendar and the modulus is too short. -/
inductive Misfit (key : Rsa.PrivateKey) (expiresAt : Int) : SigningCause → Prop where
  | expiry (outside : ¬ Policy.InCalendar expiresAt) (f : Fault) : Misfit key expiresAt (.expiry f)
  | shortModulus (inside : Policy.InCalendar expiresAt) (short : key.size < Rsa.leastSize) :
      Misfit key expiresAt .shortModulus

variable {baseUrl keyPairId : String} {key : Rsa.PrivateKey}

/-- Outside the calendar there is no address, and a modulus that is too short makes none either. -/
theorem address_of_unfit {resource : String} {expiresAt : Int}
    (unfit : ¬ (Rsa.leastSize ≤ key.size ∧ Policy.InCalendar expiresAt)) :
    ∃ cause, address resource keyPairId (.rsa key) expiresAt = .error cause ∧
      Misfit key expiresAt cause := by
  unfold address
  -- the calendar is asked before the key
  cases timed : Policy.expiry expiresAt with
  | error f =>
    refine ⟨.expiry f, rfl, .expiry (fun inside => ?_) f⟩
    rw [Policy.expiry_eq_ok_iff.mpr ⟨inside, rfl⟩] at timed
    cases timed
  | ok t =>
    obtain ⟨inside, rfl⟩ := Policy.expiry_eq_ok_iff.mp timed
    have short : key.size < Rsa.leastSize := by
      by_contra enough
      exact unfit ⟨Nat.not_lt.mp enough, inside⟩
    have unsigned : Rsa.sign? key (Text.Utf8.encode (Policy.text resource t)) = none :=
      Rsa.sign?_eq_none_iff.mpr short
    refine ⟨.shortModulus, ?_, .shortModulus inside short⟩
    simp only [signPolicy, unsigned]

/-- What cannot be signed is refused with the storage key and the cause. -/
theorem sign_of_unfit {identity : String} {ttl start : Int} {now : Value}
    (long : 4 ≤ identity.toList.length) (reading : IsReading now start)
    (unfit : ¬ (Rsa.leastSize ≤ key.size ∧ Policy.InCalendar (start + ttl))) :
    ∃ storageKey cause, StorageKey.ofText? identity = some storageKey ∧
      sign (.text identity) baseUrl keyPairId (.rsa key) (.integer ttl) now =
        .error (.unsigned storageKey cause) ∧ Misfit key (start + ttl) cause := by
  obtain ⟨storageKey, stored⟩ := StorageKey.exists_ofText? long
  obtain ⟨cause, refused, misfit⟩ :=
    @address_of_unfit keyPairId key (baseUrl ++ storageKey) (start + ttl) unfit
  refine ⟨storageKey, cause, stored, ?_, misfit⟩
  simp only [sign, StorageKey.ofValue_text_eq_ok_iff.mpr stored, toInteger_of_isReading reading,
    Value.toInteger_integer, refused]

end Link

namespace Conversion

variable {config : SignerConfiguration} {key : Rsa.PrivateKey} {blob : Blob} {identity : String}
  {n start : Int} {now : Value}

/-- What passes the gate gets a link when the modulus has room and the expiry is in the calendar. -/
theorem of_fit (sound : config.WellFormed) (rsa : config.key = .rsa key)
    (passed : Passes config blob n identity) (long : 4 ≤ identity.toList.length)
    (reading : IsReading now start)
    (fit : Rsa.leastSize ≤ key.size ∧ Policy.InCalendar (start + config.ttlSeconds)) :
    ∃ link, signing config now identity = .ok link ∧
      (of (some config) now (.binary (some blob))).outcome = .issued ∧
      (of (some config) now (.binary (some blob))).uri = some link.url := by
  obtain ⟨enough, inside⟩ := fit
  obtain ⟨link, signature, signed, -⟩ := Link.exists_issued identity config.baseUrl
    config.keyPairId key config.ttlSeconds long enough reading inside
  rw [← rsa] at signed
  obtain ⟨issued, address⟩ := of_issues sound.hasThreshold (.signed rfl passed signed)
  exact ⟨link, signed, issued, address⟩

/-- Otherwise its conversion fails and tells the cause. -/
theorem of_unfit (sound : config.WellFormed) (rsa : config.key = .rsa key)
    (passed : Passes config blob n identity) (long : 4 ≤ identity.toList.length)
    (reading : IsReading now start)
    (unfit : ¬ (Rsa.leastSize ≤ key.size ∧ Policy.InCalendar (start + config.ttlSeconds))) :
    ∃ storageKey cause record,
      (of (some config) now (.binary (some blob))).outcome = .failed ∧
      (of (some config) now (.binary (some blob))).uri = none ∧
      (of (some config) now (.binary (some blob))).records = [record] ∧
      StorageKey.ofText? identity = some storageKey ∧
      record.failure = some (.signing (.unsigned storageKey cause)) ∧
      Link.Misfit key (start + config.ttlSeconds) cause := by
  obtain ⟨storageKey, cause, stored, refused, misfit⟩ := @Link.sign_of_unfit config.baseUrl
    config.keyPairId key identity config.ttlSeconds start now long reading unfit
  rw [← rsa] at refused
  obtain ⟨failed, miss, record, told, failure⟩ :=
    of_fails sound.hasThreshold (.unsigned rfl passed refused)
  exact ⟨storageKey, cause, record, failed, miss, told, stored, failure, misfit⟩

end Conversion

namespace Provider

/-- After an activation the provider holds a well-formed configuration with an RSA key that was
loaded. A binary above the least size gets a link when the modulus of that key has at least 46
octets and the expiry lies in the calendar. Otherwise its conversion fails for the one of the two
that is missing, and there is no link. -/
theorem convert_of_activated {files : FileSystem} {properties : Fields} {p : Provider} {blob : Blob}
    {identity : String} {n start : Int} {now : Value}
    (activated : (p.activate files properties).result = .ok ())
    (known : blob.length = .ok (.integer n)) (identified : blob.identity = .ok (.text identity))
    (large : ∀ config ∈ (p.activate files properties).provider.config, config.minimumSizeBytes < n)
    (long : 4 ≤ identity.toList.length) (reading : IsReading now start) :
    ∃ config key pem, (p.activate files properties).provider.config = some config ∧
      config.key = .rsa key ∧ Key.load pem = .ok key ∧
      let conversion := (p.activate files properties).provider.convert now (.binary (some blob))
      if 46 ≤ key.size ∧ Policy.InCalendar (start + config.ttlSeconds) then
        ∃ link, Link.sign (.text identity) config.baseUrl config.keyPairId config.key
            (.integer config.ttlSeconds) now = .ok link ∧
          conversion.outcome = .issued ∧ conversion.uri = some link.url
      else
        ∃ storageKey cause record, conversion.outcome = .failed ∧ conversion.uri = none ∧
          conversion.records = [record] ∧ StorageKey.ofText? identity = some storageKey ∧
          record.failure = some (.signing (.unsigned storageKey cause)) ∧
          Link.Misfit key (start + config.ttlSeconds) cause := by
  obtain ⟨config, made, holds⟩ := activate_ok activated
  obtain ⟨key, pem, rsa, loaded⟩ := SignerConfiguration.exists_key_of_ofProperties made
  have sound := (SignerConfiguration.isValidated_of_ofProperties made).wellFormed
  have passed : Conversion.Passes config blob n identity := ⟨known, large config holds, identified⟩
  refine ⟨config, key, pem, holds, rsa, loaded, ?_⟩
  intro conversion
  have converted : conversion = Conversion.of (some config) now (.binary (some blob)) := by
    show Conversion.of (p.activate files properties).provider.config now _ = _
    rw [holds]
  rw [converted]
  split
  · next fit => exact Conversion.of_fit sound rsa passed long reading fit
  · next unfit => exact Conversion.of_unfit sound rsa passed long reading unfit

/-- A binary of one octet, with a key of two Mersenne primes and a validity of ten minutes. -/
theorem convert_of_activated_mersenneKey :
    ∃ link : Link, ((inactive.activate .empty (Options.mersenneProperties 600)).provider.convert
      (.integer 1700000000) (BlobInfo.toCandidate ⟨some 1, some "abcd"⟩)).uri = some link.url := by
  have made := SignerConfiguration.ofProperties_mersenneProperties .empty
    (by decide : (0 : Int) ≤ 600)
  obtain ⟨activated, holds⟩ := activate_of_ofProperties inactive made
  obtain ⟨config, key, pem, same, rsa, -, converted⟩ := @convert_of_activated .empty
    (Options.mersenneProperties 600) inactive (BlobInfo.toBlob ⟨some 1, some "abcd"⟩) "abcd" 1
    1700000000 (.integer 1700000000) activated rfl rfl (by rw [holds]; rintro _ ⟨⟩; decide)
    (by decide) (.integer 1700000000)
  obtain rfl := Option.some.inj (holds.symm.trans same)
  obtain rfl : .mersenneKey = key := SigningKey.rsa.inj rsa
  -- 81 octets have room for a signature, and ten minutes from now the calendar goes on
  rw [if_pos ⟨by rw [Rsa.PrivateKey.size_mersenneKey]; decide, by decide⟩] at converted
  obtain ⟨link, -, -, address⟩ := converted
  exact ⟨link, address⟩

/-- A validity that ends one second after the calendar is accepted, and then nothing is signed. -/
theorem convert_beyond_calendar :
    let activation := inactive.activate .empty
      (Options.mersenneProperties (Policy.latest + 1 - 1700000000))
    activation.result = .ok () ∧
      (∃ config, activation.provider.config = some config ∧ config.minimumSizeBytes < 1) ∧
      (activation.provider.convert (.integer 1700000000)
        (BlobInfo.toCandidate ⟨some 1, some "abcd"⟩)).outcome = .failed ∧
      (activation.provider.convert (.integer 1700000000)
        (BlobInfo.toCandidate ⟨some 1, some "abcd"⟩)).uri = none := by
  have made := SignerConfiguration.ofProperties_mersenneProperties .empty
    (by decide : 0 ≤ Policy.latest + 1 - 1700000000)
  obtain ⟨activated, holds⟩ := activate_of_ofProperties inactive made
  have sound := (SignerConfiguration.isValidated_of_ofProperties made).wellFormed
  obtain ⟨-, -, -, failed, miss, -⟩ := @Conversion.of_unfit _ .mersenneKey
    (BlobInfo.toBlob ⟨some 1, some "abcd"⟩) "abcd" 1 1700000000 (.integer 1700000000) sound rfl
    ⟨rfl, by decide, rfl⟩ (by decide) (.integer 1700000000)
    (fun fit => absurd fit.2 (by decide))
  -- of the activation only what is held counts from here on
  generalize inactive.activate .empty
    (Options.mersenneProperties (Policy.latest + 1 - 1700000000)) = activation at activated holds ⊢
  refine ⟨activated, ⟨_, holds, by decide⟩, ?_⟩
  simp only [convert, holds]
  exact ⟨failed, miss⟩

end Provider

end SignedLink
