import SignedLink.Proofs.Signing.PolicyText
/-!
# SignedLink — when a link is refused

A call for a text or no text at all is refused for one of four reasons, and
they are looked at in this order: the identity has no storage key, the key is
no RSA key, the expiry is not in the calendar, the key does not sign. The
errors have two documented kinds, one for the identity and one for all that
has to do with signing; for a text and a whole number of seconds no fault gets
past them.

* `Fails`, `sign_eq_error_iff`: the reasons in their order, and the errors of a call.
* `IsTimed`: the three places in which a link tells its expiry.
* `sign_fails_iff`: the calls that end with an error of either kind, and what holds of the others.
-/

namespace SignedLink

/-! ## Kinds of error -/

/-- The documented kinds of error of a signing call. -/
inductive SigningErrorKind where
  | identity
  | signing
deriving DecidableEq

/-- The kind of an error. A fault is of no kind. -/
def SigningError.kind? : SigningError → Option SigningErrorKind
  | .identity .tooShort => some .identity
  | .identity (.fault _) | .number _ => none
  | .notRsa _ | .unsigned .. => some .signing

theorem SigningKey.isRsa_eq_false_iff {key : SigningKey} :
    key.isRsa = false ↔ ∃ typeName, key = .other typeName := by
  cases key <;> simp [isRsa]

/-! ## The steps of a call -/

/-- Only too short an identity keeps a text, or no text, from having a storage key. -/
theorem StorageKey.ofValue_ofText? (identity : Option String) :
    ofValue (.ofText? identity) =
      match identity.bind ofText? with
      | some key => .ok key
      | none => .error .tooShort := by
  cases identity <;> rfl

theorem StorageKey.bind_ofText?_eq_none_iff {identity : Option String} :
    identity.bind ofText? = none ↔ ∀ s, identity = some s → s.toList.length < 4 := by
  cases identity with
  | none => simp
  | some s => simp [ofText?_eq_none_iff]

namespace Policy

variable {expiresAt : Int}

/-- Exactly the times beyond the calendar are refused. -/
theorem exists_expiry_eq_error_iff :
    (∃ f, expiry expiresAt = .error f) ↔ ¬ InCalendar expiresAt := by
  constructor
  · rintro ⟨f, refused⟩ inside
    rw [expiry_eq_ok_iff.mpr ⟨inside, rfl⟩] at refused
    cases refused
  · intro outside
    cases taken : expiry expiresAt with
    | error f => exact ⟨f, rfl⟩
    | ok t => exact absurd (expiry_eq_ok_iff.mp taken).1 outside

/-- A time of the calendar has a moment, which goes back to it. -/
theorem exists_moment (inside : InCalendar expiresAt) :
    ∃ m, moment expiresAt = .ok m ∧ m.toSeconds = expiresAt := by
  have taken := expiry_eq_ok_iff.mpr ⟨inside, rfl⟩
  unfold expiry at taken
  cases found : moment expiresAt with
  | error f => simp [found, Except.map] at taken
  | ok m =>
    rw [found] at taken
    exact ⟨m, rfl, Except.ok.inj taken⟩

end Policy

namespace Link

variable {baseUrl keyPairId : String} {key : SigningKey} {identity : Option String}
  {ttl start expiresAt : Int} {now : Value} {link : Link} {e : SigningError}

/-- There is no address for a time beyond the calendar, or when the key does not sign the policy. -/
theorem address_eq_error_iff {resource : String} {cause : SigningCause} :
    address resource keyPairId key expiresAt = .error cause ↔
      (∃ f, Policy.expiry expiresAt = .error f ∧ cause = .expiry f) ∨
        (Policy.InCalendar expiresAt ∧
          signPolicy key (Policy.text resource expiresAt) = .error cause) := by
  unfold address
  cases taken : Policy.expiry expiresAt with
  | error f =>
    have outside := Policy.exists_expiry_eq_error_iff.mp ⟨f, taken⟩
    simp [outside, eq_comm]
  | ok t =>
    obtain ⟨inside, rfl⟩ := Policy.expiry_eq_ok_iff.mp taken
    cases signed : signPolicy key (Policy.text resource t) with
    | error c => simp [inside, signed]
    | ok signature => simp [signed]

/-- Why a call is refused, in the order in which it is found out. -/
inductive Fails (identity : Option String) (baseUrl : String) (key : SigningKey) (expiresAt : Int) :
    SigningError → Prop where
  | identity (unstored : identity.bind StorageKey.ofText? = none) :
      Fails identity baseUrl key expiresAt (.identity .tooShort)
  | notRsa {storageKey typeName : String}
      (stored : identity.bind StorageKey.ofText? = some storageKey)
      (other : key = .other typeName) : Fails identity baseUrl key expiresAt (.notRsa typeName)
  | expiry {storageKey : String} {f : Fault}
      (stored : identity.bind StorageKey.ofText? = some storageKey) (rsa : key.isRsa = true)
      (outside : Policy.expiry expiresAt = .error f) :
      Fails identity baseUrl key expiresAt (.unsigned storageKey (.expiry f))
  | declined {storageKey : String} {cause : SigningCause}
      (stored : identity.bind StorageKey.ofText? = some storageKey) (rsa : key.isRsa = true)
      (inside : Policy.InCalendar expiresAt)
      (unsigned : signPolicy key (Policy.text (baseUrl ++ storageKey) expiresAt) = .error cause) :
      Fails identity baseUrl key expiresAt (.unsigned storageKey cause)

/-! ## The errors of a call -/

theorem sign_of_unstored (unstored : identity.bind StorageKey.ofText? = none) :
    sign (.ofText? identity) baseUrl keyPairId key (.integer ttl) now =
      .error (.identity .tooShort) := by
  simp only [sign, StorageKey.ofValue_ofText?, unstored]

theorem sign_of_other {storageKey typeName : String} (began : now.toInteger = .ok start)
    (stored : identity.bind StorageKey.ofText? = some storageKey) :
    sign (.ofText? identity) baseUrl keyPairId (.other typeName) (.integer ttl) now =
      .error (.notRsa typeName) := by
  simp only [sign, StorageKey.ofValue_ofText?, stored, began, Value.toInteger_integer]

theorem sign_of_address_error {storageKey : String} {cause : SigningCause}
    (began : now.toInteger = .ok start)
    (stored : identity.bind StorageKey.ofText? = some storageKey) (rsa : key.isRsa = true)
    (unmade : address (baseUrl ++ storageKey) keyPairId key (start + ttl) = .error cause) :
    sign (.ofText? identity) baseUrl keyPairId key (.integer ttl) now =
      .error (.unsigned storageKey cause) := by
  cases key with
  | other typeName => cases rsa
  | rsa k =>
    simp only [sign, StorageKey.ofValue_ofText?, stored, began, Value.toInteger_integer, unmade]
  | refusing reason =>
    simp only [sign, StorageKey.ofValue_ofText?, stored, began, Value.toInteger_integer, unmade]

theorem sign_of_address_ok {storageKey url : String} (began : now.toInteger = .ok start)
    (stored : identity.bind StorageKey.ofText? = some storageKey) (rsa : key.isRsa = true)
    (made : address (baseUrl ++ storageKey) keyPairId key (start + ttl) = .ok url) :
    sign (.ofText? identity) baseUrl keyPairId key (.integer ttl) now =
      .ok { url, expiresAt := start + ttl, storageKey } := by
  cases key with
  | other typeName => cases rsa
  | rsa k =>
    simp only [sign, StorageKey.ofValue_ofText?, stored, began, Value.toInteger_integer, made]
  | refusing reason =>
    simp only [sign, StorageKey.ofValue_ofText?, stored, began, Value.toInteger_integer, made]

/-- The errors of a call are those with a reason, whatever the time is read from. -/
theorem sign_eq_error_iff_of_toInteger (began : now.toInteger = .ok start) :
    sign (.ofText? identity) baseUrl keyPairId key (.integer ttl) now = .error e ↔
      Fails identity baseUrl key (start + ttl) e := by
  constructor
  · -- the checks are followed in their order, up to the first that fails
    intro refused
    cases stored : identity.bind StorageKey.ofText? with
    | none =>
      rw [sign_of_unstored stored] at refused
      cases refused
      exact .identity stored
    | some storageKey =>
      by_cases rsa : key.isRsa = true
      · cases made : address (baseUrl ++ storageKey) keyPairId key (start + ttl) with
        | ok url =>
          rw [sign_of_address_ok began stored rsa made] at refused
          cases refused
        | error cause =>
          rw [sign_of_address_error began stored rsa made] at refused
          cases refused
          rcases address_eq_error_iff.mp made with ⟨f, outside, rfl⟩ | ⟨inside, unsigned⟩
          · exact .expiry stored rsa outside
          · exact .declined stored rsa inside unsigned
      · obtain ⟨typeName, rfl⟩ := SigningKey.isRsa_eq_false_iff.mp (Bool.eq_false_iff.mpr rsa)
        rw [sign_of_other began stored] at refused
        cases refused
        exact .notRsa stored rfl
  · intro fails
    cases fails with
    | identity unstored => exact sign_of_unstored unstored
    | notRsa stored other =>
      rw [other]
      exact sign_of_other began stored
    | expiry stored rsa outside =>
      exact sign_of_address_error began stored rsa
        (address_eq_error_iff.mpr (.inl ⟨_, outside, rfl⟩))
    | declined stored rsa inside unsigned =>
      exact sign_of_address_error began stored rsa
        (address_eq_error_iff.mpr (.inr ⟨inside, unsigned⟩))

theorem sign_eq_error_iff (reading : IsReading now start) :
    sign (.ofText? identity) baseUrl keyPairId key (.integer ttl) now = .error e ↔
      Fails identity baseUrl key (start + ttl) e :=
  sign_eq_error_iff_of_toInteger (toInteger_of_isReading reading)

/-! ## Kinds of failure -/

/-- Every error of a call is of a documented kind. -/
theorem Fails.kind_isSome (fails : Fails identity baseUrl key expiresAt e) :
    e.kind?.isSome = true := by
  cases fails <;> rfl

/-- The error is one of identity exactly when there is no storage key. -/
theorem exists_fails_identity_iff :
    (∃ e, Fails identity baseUrl key expiresAt e ∧ e.kind? = some .identity) ↔
      identity.bind StorageKey.ofText? = none := by
  constructor
  · rintro ⟨e, fails, kind⟩
    cases fails with
    | identity unstored => exact unstored
    | notRsa | expiry | declined => cases kind
  · intro unstored
    exact ⟨_, .identity unstored, rfl⟩

/-- The error is one of signing exactly when there is a storage key, and the key, the expiry or the
signature is to blame. -/
theorem exists_fails_signing_iff :
    (∃ e, Fails identity baseUrl key expiresAt e ∧ e.kind? = some .signing) ↔
      ∃ storageKey, identity.bind StorageKey.ofText? = some storageKey ∧
        (key.isRsa = false ∨ ¬ Policy.InCalendar expiresAt ∨
          ∃ cause, signPolicy key (Policy.text (baseUrl ++ storageKey) expiresAt) =
            .error cause) := by
  constructor
  · rintro ⟨e, fails, kind⟩
    cases fails with
    | identity => cases kind
    | notRsa stored other =>
      subst other
      exact ⟨_, stored, .inl rfl⟩
    | expiry stored rsa outside =>
      exact ⟨_, stored, .inr (.inl (Policy.exists_expiry_eq_error_iff.mp ⟨_, outside⟩))⟩
    | declined stored rsa inside unsigned => exact ⟨_, stored, .inr (.inr ⟨_, unsigned⟩)⟩
  · rintro ⟨storageKey, stored, blame⟩
    -- the blame that is found first decides on the error
    cases rsa : key.isRsa with
    | false =>
      obtain ⟨typeName, rfl⟩ := SigningKey.isRsa_eq_false_iff.mp rsa
      exact ⟨_, .notRsa stored rfl, rfl⟩
    | true =>
      by_cases inside : Policy.InCalendar expiresAt
      · rcases blame with notRsa | outside | ⟨cause, unsigned⟩
        · rw [rsa] at notRsa
          cases notRsa
        · exact absurd inside outside
        · exact ⟨_, .declined stored rsa inside unsigned, rfl⟩
      · obtain ⟨f, refused⟩ := Policy.exists_expiry_eq_error_iff.mpr inside
        exact ⟨_, .expiry stored rsa refused, rfl⟩

/-- An RSA key does not sign exactly when its modulus has fewer than 46 octets. -/
theorem exists_signPolicy_eq_error_iff {k : Rsa.PrivateKey} {policy : List Char} :
    (∃ cause, signPolicy (.rsa k) policy = .error cause) ↔ k.size < 46 := by
  rw [show 46 = Rsa.leastSize from rfl, ← @Rsa.sign?_eq_none_iff k (Text.Utf8.encode policy)]
  cases signed : Rsa.sign? k (Text.Utf8.encode policy) <;> simp [signPolicy, signed]

/-! ## The expiry of a link -/

/-- The three places in which a link tells its expiry say the same, and its storage key stands in
its address: the time goes through the calendar and back unchanged, the policy that was signed
allows the resource up to it, and the address tells it in decimal. -/
structure IsTimed (baseUrl keyPairId : String) (key : SigningKey) (time : Int) (link : Link) : Prop
    where
  expires : link.expiresAt = time
  calendar : ∃ m, Policy.moment time = .ok m ∧ m.toSeconds = time
  told : ∃ policy signature,
    Policy.canned (baseUrl ++ link.storageKey) time = .ok policy ∧
    Json.read policy.toList = .ok (Policy.document (baseUrl ++ link.storageKey) time) ∧
    signPolicy key policy.toList = .ok signature ∧
    link.url.toList = baseUrl.toList ++ link.storageKey.toList ++
      separator (baseUrl ++ link.storageKey).toList :: ("Expires=".toList ++ Text.decimal time ++
        "&Signature=".toList ++ signatureText signature ++ "&Key-Pair-Id=".toList ++
        keyPairId.toList)

theorem IsIssued.isTimed {signature : List UInt8}
    (issued : IsIssued baseUrl keyPairId key link signature) :
    IsTimed baseUrl keyPairId key link.expiresAt link := by
  refine ⟨rfl, Policy.exists_moment issued.inCalendar, _, signature,
    Policy.canned_eq_ok_iff.mpr ⟨issued.inCalendar, rfl⟩, ?_, ?_, ?_⟩
  · rw [String.toList_ofList]
    exact Policy.read_text _ issued.inCalendar
  · rw [String.toList_ofList]
    exact issued.signed
  · rw [issued.url_eq, String.toList_ofList, compose, String.toList_append]
    rfl

/-- A call fails with an error of identity, or with one of signing, or gives a link, each exactly
when it must, and a link tells one expiry in all places. -/
theorem sign_fails_iff (identity : Option String) (baseUrl keyPairId : String) (key : SigningKey)
    (ttl : Int) {now : Value} {start : Int} (reading : IsReading now start) :
    ((∃ e, sign (.ofText? identity) baseUrl keyPairId key (.integer ttl) now = .error e ∧
        e.kind? = some .identity) ↔
      ∀ s, identity = some s → s.toList.length < 4) ∧
    ((∃ e, sign (.ofText? identity) baseUrl keyPairId key (.integer ttl) now = .error e ∧
        e.kind? = some .signing) ↔
      ∃ storageKey, identity.bind StorageKey.ofText? = some storageKey ∧
        (key.isRsa = false ∨ ¬ (-62135596800 ≤ start + ttl ∧ start + ttl ≤ 253402300799) ∨
          ∃ cause, signPolicy key (Policy.text (baseUrl ++ storageKey) (start + ttl)) =
            .error cause)) ∧
    (∀ e, sign (.ofText? identity) baseUrl keyPairId key (.integer ttl) now = .error e →
      e.kind?.isSome = true) ∧
    (∀ k policy, (∃ cause, signPolicy (.rsa k) policy = .error cause) ↔ k.size < 46) ∧
    ∀ link, sign (.ofText? identity) baseUrl keyPairId key (.integer ttl) now = .ok link →
      IsTimed baseUrl keyPairId key (start + ttl) link ∧
        identity.bind StorageKey.ofText? = some link.storageKey := by
  simp only [sign_eq_error_iff reading]
  refine ⟨?_, exists_fails_signing_iff, fun e fails => fails.kind_isSome,
    fun k policy => exists_signPolicy_eq_error_iff, ?_⟩
  · rw [exists_fails_identity_iff, StorageKey.bind_ofText?_eq_none_iff]
  · intro link signed
    obtain ⟨_, _, signature, stored, began, valid, expires, issued⟩ := sign_eq_ok_iff.mp signed
    -- the start of the link is the whole part of the reading
    cases began.symm.trans (toInteger_of_isReading reading)
    cases valid
    rw [← expires]
    refine ⟨issued.isTimed, ?_⟩
    rw [StorageKey.ofValue_ofText?] at stored
    cases found : identity.bind StorageKey.ofText? with
    | none => simp [found] at stored
    | some storageKey => simpa [found] using stored

/-- An identity of three characters, an expiry one second behind the end of the calendar, and a
link, at one and a half seconds past zero. -/
theorem sign_fails_iff_mersenneKey :
    IsReading (.real (.ofDecimal false 15 (-1))) 1 ∧
    (∃ e, sign (.ofText? (some "abc")) "https://files.example/" "K1" (.rsa .mersenneKey)
      (.integer 60) (.real (.ofDecimal false 15 (-1))) = .error e ∧ e.kind? = some .identity) ∧
    (∃ e, sign (.ofText? (some "abcd")) "https://files.example/" "K1" (.rsa .mersenneKey)
      (.integer 253402300799) (.real (.ofDecimal false 15 (-1))) = .error e ∧
        e.kind? = some .signing) ∧
    ∃ link, sign (.ofText? (some "abcd")) "https://files.example/" "K1" (.rsa .mersenneKey)
      (.integer 60) (.real (.ofDecimal false 15 (-1))) = .ok link ∧
        IsTimed "https://files.example/" "K1" (.rsa .mersenneKey) 61 link := by
  have reading : IsReading (.real (.ofDecimal false 15 (-1))) 1 := .real (by decide +kernel)
  have outcome (identity : Option String) (ttl : Int) :=
    sign_fails_iff identity "https://files.example/" "K1" (.rsa .mersenneKey) ttl reading
  refine ⟨reading, ?_, ?_, ?_⟩
  · exact (outcome (some "abc") 60).1.mpr (by decide)
  · exact (outcome (some "abcd") 253402300799).2.1.mpr
      ⟨"abcd-", by decide, .inr (.inl (by decide))⟩
  · obtain ⟨link, -, signed, -⟩ := exists_issued "abcd" "https://files.example/" "K1"
      .mersenneKey 60 (by decide) (by rw [Rsa.PrivateKey.size_mersenneKey]; decide) reading
      (by decide)
    exact ⟨link, signed, ((outcome (some "abcd") 60).2.2.2.2 link signed).1⟩

end Link

end SignedLink
