import SignedLink.Config.Settings
import SignedLink.Proofs.Config.Signer
/-!
# SignedLink — which settings want links

Links are wanted when a base address is set that is not blank; settings that
were read never hold a blank one. The settings decide alone which signer there
is, up to the file of its key.

* `ofSources_eq_ok_iff`: the sources that give settings, and the settings they give.
* `cloudFrontUrl_eq_none_iff`: the settings without a base address are those that were given none,
  or a blank one.
* `redirectConfigured_eq`: links are wanted exactly when there is a base address.
-/

namespace SignedLink

namespace Property

/-- What counts as no base address: a text or octets with nothing but blanks, and anything else that
counts as not set. -/
def IsBlank : Value → Prop
  | .text s => Text.trimChars s.toList = []
  | .octets bytes => (bytes.map fun b => Char.ofNat b.toNat).all Text.isPlainSpace = true
  | v => v.isTruthy = false

theorem address_eq_empty_iff {v : Value} : address v = .ok "" ↔ IsBlank v := by
  have unset (w : Value) : (if w.isTruthy then Except.error (Fault.notText w.typeName "strip")
      else .ok "") = Except.ok "" ↔ w.isTruthy = false := by
    cases w.isTruthy <;> simp
  cases v with
  | text s =>
    have empty (cs : List Char) : String.ofList cs = "" ↔ cs = [] := by
      rw [← String.toList_inj, String.toList_ofList]
      rfl
    rw [address, Except.ok.injEq, empty, addressChars_eq_nil_iff, IsBlank]
  | octets bytes =>
    rw [address, IsBlank]
    split
    · next spaces => simp only [spaces]
    · next other => simp only [other, Bool.false_eq_true, reduceCtorEq]
  | null => simp [address, IsBlank, Value.isTruthy]
  | path p => simp [address, IsBlank, Value.isTruthy]
  | boolean _ | integer _ | real _ | list _ | record _ => exact unset _

/-- An address is its own address. -/
theorem addressChars_idem (cs : List Char) : addressChars (addressChars cs) = addressChars cs := by
  by_cases blank : Text.trimChars cs = []
  · rw [addressChars_eq_nil_iff.mpr blank]
    rfl
  · have nonempty : addressChars cs ≠ [] := fun empty => blank (addressChars_eq_nil_iff.mp empty)
    have trimmed := (SignerConfiguration.isAddress_addressChars nonempty).trimmed
    obtain ⟨body, split, last⟩ := addressChars_slash blank
    have kept : Text.dropTail (· == '/') (body ++ ['/']) = body := by
      rw [Text.dropTail, List.reverse_append, List.reverse_singleton, List.singleton_append,
        List.dropWhile_cons_of_pos (by decide), List.reverse_eq_iff]
      -- nothing more is dropped, since the body does not end in a slash
      cases back : body.reverse with
      | nil => rfl
      | cons c rest =>
        have ends : c ≠ '/' := by
          rintro rfl
          refine last ?_
          rw [List.getLast?_eq_head?_reverse, back]
          rfl
        exact List.dropWhile_cons_of_neg (by simpa using ends)
    have filled : (addressChars cs).isEmpty = false := by simpa using nonempty
    rw [addressChars, trimmed]
    simp only [filled, Bool.false_eq_true, if_false]
    rw [split, kept]

end Property

namespace Settings

variable {sources : Sources} {settings : Settings}

/-- Settings are read exactly when each of them is. -/
theorem ofSources_eq_ok_iff :
    ofSources sources = .ok settings ↔
      cloudFrontUrlField sources = .ok settings.cloudFrontUrl ∧
      field sources "PROJECT_NAME" default.projectName Checked.text = .ok settings.projectName ∧
      field sources "VERSION" default.version Checked.text = .ok settings.version ∧
      field sources "API_V1_STR" default.apiPath Checked.text = .ok settings.apiPath ∧
      field sources "ENV" default.stage Stage.read = .ok settings.stage ∧
      field sources "ENABLE_DOCS" default.docsEnabled Checked.boolean = .ok settings.docsEnabled ∧
      field sources "CLOUDFRONT_TTL_SECONDS" default.ttlSeconds Checked.natural =
        .ok settings.ttlSeconds ∧
      field sources "CLOUDFRONT_MIN_SIZE_KB" default.minSizeKb Checked.natural =
        .ok settings.minSizeKb ∧
      field sources "CLOUDFRONT_PRIVATE_KEY_FILE" default.privateKeyFile
        (Checked.optional Checked.text) = .ok settings.privateKeyFile ∧
      field sources "CLOUDFRONT_PRIVATE_KEY_PEM" default.privateKeyPem
        (Checked.optional Checked.secret) = .ok settings.privateKeyPem ∧
      field sources "CLOUDFRONT_KEY_PAIR_ID" default.keyPairId (Checked.optional Checked.text) =
        .ok settings.keyPairId := by
  constructor
  · intro read
    unfold ofSources at read
    split at read
    · cases read
    · next address =>
      dsimp only at read
      split at read
      · next name version path stage docs ttl size file pem pair =>
        cases read
        exact ⟨address, name, version, path, stage, docs, ttl, size, file, pem, pair⟩
      · cases read
  · rintro ⟨address, name, version, path, stage, docs, ttl, size, file, pem, pair⟩
    simp only [ofSources, address, name, version, path, stage, docs, ttl, size, file, pem, pair]

theorem cloudFrontUrlField_of_ofSources (read : ofSources sources = .ok settings) :
    cloudFrontUrlField sources = .ok settings.cloudFrontUrl :=
  (ofSources_eq_ok_iff.mp read).1

/-- The settings without a base address are those that were given none, or a blank one. -/
theorem cloudFrontUrl_eq_none_iff (read : ofSources sources = .ok settings) :
    settings.cloudFrontUrl = none ↔
      ∀ v ∈ sources.find? "CLOUDFRONT_URL", Property.IsBlank v := by
  have field := cloudFrontUrlField_of_ofSources read
  unfold cloudFrontUrlField at field
  cases found : sources.find? "CLOUDFRONT_URL" with
  | none =>
    rw [found] at field
    rw [← Except.ok.inj field]
    exact ⟨nofun, fun _ => rfl⟩
  | some v =>
    rw [found] at field
    dsimp only at field
    have only : (∀ w ∈ some v, Property.IsBlank w) ↔ Property.IsBlank v := by simp
    rw [only, ← Property.address_eq_empty_iff]
    cases address : Property.address v with
    | error f =>
      rw [address] at field
      cases field
    | ok s =>
      rw [address] at field
      rw [← Except.ok.inj field]
      by_cases empty : s = ""
      · simp [empty]
      · simp [empty]

/-- Links are wanted exactly when there is a base address. -/
theorem redirectConfigured_eq (read : ofSources sources = .ok settings) :
    settings.redirectConfigured = settings.cloudFrontUrl.isSome := by
  have field := cloudFrontUrlField_of_ofSources read
  rw [redirectConfigured]
  cases address : settings.cloudFrontUrl with
  | none => rfl
  | some s =>
    -- an empty one would have been dropped when it was read
    have nonempty : s ≠ "" := by
      rintro rfl
      rw [address] at field
      unfold cloudFrontUrlField at field
      split at field
      · cases field
      · split at field
        · split at field
          · cases field
          · next nonempty =>
            cases field
            exact nonempty rfl
        · cases field
    simpa using nonempty

/-! ## The settings of a key -/

/-- Sources in which the key of two Mersenne primes is given, for all sizes. -/
def mersenneSources : Sources where
  search := .default
  given := [("CLOUDFRONT_URL", .text "https://files.example"),
    ("CLOUDFRONT_MIN_SIZE_KB", .integer 0),
    ("CLOUDFRONT_PRIVATE_KEY_PEM", .text Options.mersennePem),
    ("CLOUDFRONT_KEY_PAIR_ID", .text "K1")]
  places := []
  secrets := []

/-- The settings that are read from them. -/
def mersenne : Settings :=
  { default with
    cloudFrontUrl := some "https://files.example/"
    minSizeKb := 0
    privateKeyPem := some Options.mersennePem
    keyPairId := some "K1" }

/-- The signer of these settings. -/
def mersenneSigner : SignerConfiguration :=
  Options.configuration ⟨"https://files.example/", "K1", 60, 0,
    .inline (Text.trim Options.mersennePem)⟩ .mersenneKey

theorem ofSources_mersenneSources : ofSources mersenneSources = .ok mersenne := by
  rfl

end Settings

end SignedLink
