import SignedLink.Proofs.Config.Settings
import SignedLink.Proofs.Signing.Success
/-!
# SignedLink — from what is given to a link

An address, the path of a key file, the name of a key pair and a validity are
all that a link needs besides the identity and the time. Whatever builds a
configuration of them builds the same one, up to the least size, so they decide
the address of the link.

* `Links`: how the address of a link follows from what is given.
* `create_eq_ok_iff`, `signer_eq_ok_iff`: the configurations of texts and of settings.
* `Links.keyPairId_eq`: the name of the key pair can be read off the address.
-/

namespace SignedLink

/-- How the address of a link follows from an address, the path of a key file, the name of a key
pair and a validity. -/
inductive Links (files : FileSystem) (now : Value) (identity url keyFile keyPairId : String)
    (ttl : Int) : String → Prop
  | signed {pem : String} {key : Rsa.PrivateKey} {link : Link}
      (addressed : Property.addressChars url.toList ≠ []) (filed : keyFile ≠ "")
      (named : keyPairId ≠ "") (read : files.readText keyFile = .ok pem)
      (loaded : Key.load (Key.normalize (some pem)) = .ok key)
      (signed : Link.sign (.text identity) (.ofList (Property.addressChars url.toList)) keyPairId
        (.rsa key) (.integer ttl) now = .ok link) :
      Links files now identity url keyFile keyPairId ttl link.url

theorem Property.requiredText_text_eq_ok_iff {name told s : String} :
    requiredText name (.text told) = .ok s ↔ Text.trim told = s ∧ s ≠ "" := by
  rw [requiredText_eq_ok_iff, Value.told_text]
  simp [Value.isNull]

theorem Property.trim_addressChars {cs : List Char} (nonempty : addressChars cs ≠ []) :
    Text.trim (.ofList (addressChars cs)) = .ofList (addressChars cs) := by
  rw [Text.trim, String.toList_ofList,
    (SignerConfiguration.isAddress_addressChars nonempty).trimmed]

/-- The text of a key in a file is what stands there. -/
theorem Options.keyText_file_eq_ok_iff {files : FileSystem} {path pem : String} :
    keyText files (.file path) = .ok pem ↔ files.readText path = .ok pem := by
  cases found : files.readText path with
  | ok text => simp [keyText, found]
  | error e => cases e <;> simp [keyText, found]

/-- The configurations that are made of texts and numbers. -/
theorem SignerConfiguration.create_eq_ok_iff {url pem keyPairId : String} {ttl size : Int}
    {config : SignerConfiguration} (ttl_nonneg : 0 ≤ ttl) (size_nonneg : 0 ≤ size) :
    create (.text url) (.integer ttl) (.integer size) (.text pem) (.text keyPairId) = .ok config ↔
      Property.addressChars url.toList ≠ [] ∧ keyPairId ≠ "" ∧
        ∃ key, Key.load (Key.normalize (some pem)) = .ok key ∧
          config = ⟨.ofList (Property.addressChars url.toList), ttl, size * 1024, keyPairId,
            .rsa key⟩ := by
  have readTtl := @Property.wholeNumber_integer Property.ttl Property.defaultTtlSeconds _ ttl_nonneg
  have readSize :=
    @Property.wholeNumber_integer Property.minSize Property.defaultMinSizeKb _ size_nonneg
  have ttlField := natural_of_nonneg ttl_nonneg
  have sizeField : Checked.natural (.integer (size * 1024)) = .ok (size * 1024) :=
    natural_of_nonneg (by omega)
  simp only [create, readTtl, readSize, loadKey, normalKeyText, bind, Except.bind]
  cases Key.load (Key.normalize (some pem)) with
  | error e => simp
  | ok key =>
    by_cases blank : Property.addressChars url.toList = []
    · simp [validate, draftAddress, Property.address, checkedAddress, blank]
    · have address : draftAddress (some (.text url)) =
          .ok (.ok (.ofList (Property.addressChars url.toList))) := by
        simp [draftAddress, Property.address, checkedAddress, blank]
      have rsa : checkedKey (some (.rsa key)) = .ok (.rsa key) := rfl
      by_cases unnamed : keyPairId = ""
      · subst unnamed
        have refused : given Checked.nonEmptyText (some (.text "")) = .error .tooShort := rfl
        simp [validate, address, numberOr, ttlField, sizeField, refused, rsa]
      · have name := nonEmptyText_of_ne unnamed
        simp only [validate, address, numberOr, ttlField, sizeField, given, name, rsa,
          Except.ok.injEq, exists_eq_left', ne_eq, blank, unnamed, not_false_eq_true, true_and]
        exact eq_comm

/-- The name of the key pair can be read off the address. -/
theorem Links.keyPairId_eq {files : FileSystem} {now : Value}
    {identity url keyFile keyPairId other u : String} {ttl : Int}
    (one : Links files now identity url keyFile keyPairId ttl u)
    (another : Links files now identity url keyFile other ttl u) : keyPairId = other := by
  generalize same : u = w at another
  obtain @⟨pem, key, first, -, -, -, read, loaded, signed⟩ := one
  obtain @⟨pem', key', second, -, -, -, read', loaded', signed'⟩ := another
  -- both are signed with one key, so everything in front of the names is the same
  cases read.symm.trans read'
  cases loaded.symm.trans loaded'
  obtain ⟨start, seconds, signature, stored, began, valid, expires, issued⟩ :=
    Link.sign_eq_ok_iff.mp signed
  obtain ⟨start', seconds', signature', stored', began', valid', expires', issued'⟩ :=
    Link.sign_eq_ok_iff.mp signed'
  have storage : first.storageKey = second.storageKey := Except.ok.inj (stored.symm.trans stored')
  have expiry : first.expiresAt = second.expiresAt := by
    rw [expires, expires', Except.ok.inj (began.symm.trans began'),
      Except.ok.inj (valid.symm.trans valid')]
  have policySigned := issued.signed
  rw [Link.policy, storage, expiry, ← Link.policy] at policySigned
  have signatures : signature = signature' :=
    Except.ok.inj (policySigned.symm.trans issued'.signed)
  rw [issued.url_eq, issued'.url_eq, storage, expiry, signatures, String.ofList_inj] at same
  exact String.toList_inj.mp (by simpa [Link.compose] using same)

/-! ## Settings -/

/-- An address is read unless nothing is left of it. -/
theorem Property.requiredText_addressChars_eq_ok_iff {name s : String} {cs : List Char}
    {told : Option String}
    (address : told = if addressChars cs = [] then none else some (.ofList (addressChars cs))) :
    requiredText name (.ofText? told) = .ok s ↔
      addressChars cs ≠ [] ∧ .ofList (addressChars cs) = s := by
  by_cases blank : addressChars cs = []
  · rw [address, if_pos blank]
    exact iff_of_false nofun fun held => held.1 blank
  · have nonempty : String.ofList (addressChars cs) ≠ "" := fun empty =>
      blank (by simpa using congrArg String.toList empty)
    rw [address, if_neg blank, Value.ofText?, requiredText_text_eq_ok_iff, trim_addressChars blank]
    exact ⟨fun ⟨same, _⟩ => ⟨blank, same⟩, fun ⟨_, same⟩ => ⟨same, same ▸ nonempty⟩⟩

/-- A key is loaded from the file that is named; without one there is no text, and no key in it. -/
theorem Options.loads_iff {files : FileSystem} {path : String} {key : Rsa.PrivateKey} :
    (∃ pem, keyText files (if path = "" then .inline "" else .file path) = .ok pem ∧
        Key.load (Key.normalize (some pem)) = .ok key) ↔
      path ≠ "" ∧ ∃ pem, files.readText path = .ok pem ∧
        Key.load (Key.normalize (some pem)) = .ok key := by
  by_cases empty : path = ""
  · rw [if_pos empty]
    refine iff_of_false ?_ fun held => held.1 empty
    rintro ⟨pem, ⟨⟩, loaded⟩
    -- an empty text has no markers
    rw [Key.load_normalize_of_blank rfl] at loaded
    cases loaded
  · simp only [if_neg empty, keyText_file_eq_ok_iff]
    exact ⟨fun held => ⟨empty, held⟩, And.right⟩

variable {files : FileSystem} {settings : Settings} {url keyFile keyPairId : String}

theorem Settings.keySourceOf_properties (file : settings.privateKeyFile = some keyFile)
    (noText : settings.privateKeyPem = none) :
    Options.keySourceOf settings.properties =
      .ok (if Text.trim keyFile = "" then .inline "" else .file (Text.trim keyFile)) := by
  have fileGiven : Fields.get settings.properties Property.privateKeyFile = .text keyFile := by
    show Value.ofText? settings.privateKeyFile = _
    rw [file]
    rfl
  have textGiven : Fields.get settings.properties Property.privateKey = .null := by
    show Value.ofText? settings.privateKeyPem = _
    rw [noText]
    rfl
  simp only [Options.keySourceOf, fileGiven, textGiven, Property.optionalText, bind, Except.bind,
    pure, Except.pure, String.isEmpty_iff]
  split <;> rfl

/-- The options of settings in which the key is given by a file. -/
theorem Settings.ofProperties_eq_ok_iff {options : Options}
    (address : settings.cloudFrontUrl =
      if Property.addressChars url.toList = [] then none
      else some (.ofList (Property.addressChars url.toList)))
    (ttl_nonneg : 0 ≤ settings.ttlSeconds) (size_nonneg : 0 ≤ settings.minSizeKb)
    (file : settings.privateKeyFile = some keyFile) (noText : settings.privateKeyPem = none)
    (pair : settings.keyPairId = some keyPairId) :
    Options.ofProperties settings.properties = .ok options ↔
      Property.addressChars url.toList ≠ [] ∧ Text.trim keyPairId ≠ "" ∧
        options = ⟨.ofList (Property.addressChars url.toList), Text.trim keyPairId,
          settings.ttlSeconds, settings.minSizeKb,
          if Text.trim keyFile = "" then .inline "" else .file (Text.trim keyFile)⟩ := by
  have addressGiven : Fields.get settings.properties Property.cloudFrontUrl =
      Value.ofText? settings.cloudFrontUrl := rfl
  have pairGiven : Fields.get settings.properties Property.keyPairId = .text keyPairId := by
    show Value.ofText? settings.keyPairId = _
    rw [pair]
    rfl
  rw [Options.ofProperties_eq_ok_iff, addressGiven, pairGiven, properties_ttl, properties_minSize,
    keySourceOf_properties file noText, Property.wholeNumber_integer ttl_nonneg,
    Property.wholeNumber_integer size_nonneg, Property.requiredText_addressChars_eq_ok_iff address,
    Property.requiredText_text_eq_ok_iff]
  obtain ⟨baseUrl, name, ttl, size, source⟩ := options
  simp only [Except.ok.injEq, Options.mk.injEq]
  constructor
  · rintro ⟨⟨addressed, rfl⟩, ⟨rfl, named⟩, rfl, rfl, rfl⟩
    exact ⟨addressed, named, rfl, rfl, rfl, rfl, rfl⟩
  · rintro ⟨addressed, named, rfl, rfl, rfl, rfl, rfl⟩
    exact ⟨⟨addressed, rfl⟩, ⟨rfl, named⟩, rfl, rfl, rfl⟩

/-- The signers of settings in which the key is given by a file. -/
theorem Settings.signer_eq_ok_iff {config : SignerConfiguration}
    (address : settings.cloudFrontUrl =
      if Property.addressChars url.toList = [] then none
      else some (.ofList (Property.addressChars url.toList)))
    (ttl_nonneg : 0 ≤ settings.ttlSeconds) (size_nonneg : 0 ≤ settings.minSizeKb)
    (file : settings.privateKeyFile = some keyFile) (noText : settings.privateKeyPem = none)
    (pair : settings.keyPairId = some keyPairId) :
    settings.signer files = .ok config ↔
      Property.addressChars url.toList ≠ [] ∧ Text.trim keyFile ≠ "" ∧ Text.trim keyPairId ≠ "" ∧
        ∃ pem key, files.readText (Text.trim keyFile) = .ok pem ∧
          Key.load (Key.normalize (some pem)) = .ok key ∧
          config = ⟨.ofList (Property.addressChars url.toList), settings.ttlSeconds,
            settings.minSizeKb * 1024, Text.trim keyPairId, .rsa key⟩ := by
  have read {options : Options} := @Settings.ofProperties_eq_ok_iff _ _ _ _ options address
    ttl_nonneg size_nonneg file noText pair
  rw [Settings.signer, SignerConfiguration.ofProperties_eq_ok_iff]
  constructor
  · rintro ⟨options, pem, key, told, found, loaded, rfl⟩
    obtain ⟨addressed, named, rfl⟩ := read.mp told
    obtain ⟨filed, pem, found, loaded⟩ := Options.loads_iff.mp ⟨pem, found, loaded⟩
    refine ⟨addressed, filed, named, pem, key, found, loaded, ?_⟩
    rw [Options.configuration, String.toList_ofList, Property.addressChars_idem]
  · rintro ⟨addressed, filed, named, pem, key, found, loaded, rfl⟩
    obtain ⟨pem, found, loaded⟩ := Options.loads_iff.mpr ⟨filed, pem, found, loaded⟩
    refine ⟨_, pem, key, read.mpr ⟨addressed, named, rfl⟩, found, loaded, ?_⟩
    rw [Options.configuration, String.toList_ofList, Property.addressChars_idem]

end SignedLink
