import SignedLink.Config.Options
import SignedLink.Signing.Link
/-!
# SignedLink — signer configurations

Everything that signing one link needs, as one record that is replaced as a
whole and never changed. `SignerConfiguration.validate` is the only way from
loose values to a record; `create` and `ofProperties` load the key first.

* `wellFormed_of_validate`: a validated record has a base address with one slash at its end, numbers
  that are not negative, the name of a key pair, and an RSA key.
-/

namespace SignedLink

/-- What signing one link needs. -/
structure SignerConfiguration where
  baseUrl : String
  ttlSeconds : Int
  minimumSizeBytes : Int
  keyPairId : String
  key : SigningKey
deriving DecidableEq

namespace SignerConfiguration

/-- A trimmed text that ends in exactly one slash. -/
structure IsAddress (cs : List Char) : Prop where
  trimmed : Text.trimChars cs = cs
  slash : ∃ body, cs = body ++ ['/'] ∧ body.getLast? ≠ some '/'

/-- What holds of every configuration that was validated. -/
structure WellFormed (config : SignerConfiguration) : Prop where
  address : IsAddress config.baseUrl.toList
  ttl_nonneg : 0 ≤ config.ttlSeconds
  size_nonneg : 0 ≤ config.minimumSizeBytes
  named : config.keyPairId ≠ ""
  rsa : config.key.isRsa = true

/-- The form of a configuration in messages, which leaves the key out. -/
def shown (config : SignerConfiguration) : Except Fault String := do
  let ttlSeconds ← Numeral.write config.ttlSeconds
  let minimumSizeBytes ← Numeral.write config.minimumSizeBytes
  .ok ("SignerConfiguration(base_url=" ++ (Value.text config.baseUrl).shown ++
    ", ttl_seconds=" ++ ttlSeconds ++ ", minimum_size_bytes=" ++ minimumSizeBytes ++
    ", key_pair_id=" ++ (Value.text config.keyPairId).shown ++ ")")

/-! ## Validation -/

/-- Loose values for the fields; what is not given may have a default. -/
structure Draft where
  baseUrl : Option Value
  ttlSeconds : Option Value
  minimumSizeBytes : Option Value
  keyPairId : Option Value
  key : Option SigningKey

/-- A field that must be given. -/
def given {α : Type} (read : Value → Checked α) : Option Value → Checked α
  | some v => read v
  | none => .error .missing

/-- A number field with a default. -/
def numberOr (default : Int) : Option Value → Checked Int
  | some v => Checked.natural v
  | none => .ok default

/-- A base address after trimming. -/
def checkedAddress (s : String) : Checked String :=
  if s.isEmpty then .error .emptyAddress else .ok s

/-- The key field. -/
def checkedKey : Option SigningKey → Checked SigningKey
  | some key => if key.isRsa then .ok key else .error .notRsaKey
  | none => .error .missing

/-- The base address field. A value that has no text operations is a fault. -/
def draftAddress : Option Value → Except Fault (Checked String)
  | some v =>
    match Property.address v with
    | .ok s => .ok (checkedAddress s)
    | .error f => .error f
  | none => .ok (.error .missing)

/-- The record that loose values make, or all violations in the order of the fields. -/
def validate (draft : Draft) : Except ConfigError SignerConfiguration :=
  match draftAddress draft.baseUrl with
  | .error f => .error (.fault f)
  | .ok baseUrl =>
    let ttlSeconds := numberOr Property.defaultTtlSeconds draft.ttlSeconds
    let minimumSizeBytes := numberOr (Property.defaultMinSizeKb * 1024) draft.minimumSizeBytes
    let keyPairId := given Checked.nonEmptyText draft.keyPairId
    let key := checkedKey draft.key
    match baseUrl, ttlSeconds, minimumSizeBytes, keyPairId, key with
    | .ok baseUrl, .ok ttlSeconds, .ok minimumSizeBytes, .ok keyPairId, .ok key =>
      .ok { baseUrl, ttlSeconds, minimumSizeBytes, keyPairId, key }
    | _, _, _, _, _ =>
      .error (.invalid ([
        FieldError.ofReading? "base_url" (draft.baseUrl.getD .null) baseUrl,
        FieldError.ofReading? "ttl_seconds" (draft.ttlSeconds.getD .null) ttlSeconds,
        FieldError.ofReading? "minimum_size_bytes" (draft.minimumSizeBytes.getD .null)
          minimumSizeBytes,
        FieldError.ofReading? "key_pair_id" (draft.keyPairId.getD .null) keyPairId,
        FieldError.ofReading? "private_key" .null key].reduceOption))

/-- The refusal of every change to a record. -/
def assignmentError (name : String) (v : Value) : FieldError :=
  ⟨[.text name], .frozen, v⟩

/-- Why a name was not assigned to. -/
inductive AssignmentError where
  | frozen (error : FieldError)
  | fault (f : Fault)

/-- The name of the type in messages. -/
def typeName : String := "SignerConfiguration"

/-- Why a value is not assigned to a name, if it is not. Names with an underscore in front are no
fields, and most of them take every value. -/
def refusal? (name : String) (v : Value) : Option AssignmentError :=
  match name, v with
  | "__class__", v => some (.fault (.classNotClass v.typeName))
  | "__dict__", .record _ => none
  | "__dict__", v => some (.fault (.fieldsNotRecord v.typeName))
  | "__weakref__", _ => some (.fault (.unwritable name typeName))
  | "__fields_set__", _ => some (.fault (.noSetter name typeName))
  | name, v =>
    if name.toList.head? == some '_' then none else some (.frozen (assignmentError name v))

/-- How assignments ended. -/
structure Assignment where
  outcome : Except AssignmentError Unit
  /-- the values of the fields when all of them were replaced at once -/
  replaced : Option Fields

/-- The values that an assignment puts in place of all fields. -/
def replacement? : String × Value → Option Fields
  | ("__dict__", .record fields) => some fields
  | _ => none

/-- Assigns to names of a record, up to the first that refuses. -/
def assign : Fields → Assignment
  | [] => ⟨.ok (), none⟩
  | (name, v) :: rest =>
    match refusal? name v with
    | some e => ⟨.error e, none⟩
    | none =>
      let after := assign rest
      { after with replaced := after.replaced <|> replacement? (name, v) }

/-- The names of the fields, in order. -/
def fieldNames : List String :=
  ["base_url", "ttl_seconds", "minimum_size_bytes", "key_pair_id", "private_key"]

/-- Why there is nothing to show after assignments, if so: a field is gone, or the key is none. -/
def Assignment.loss? (assignment : Assignment) : Option Fault :=
  assignment.replaced.map fun fields =>
    match fieldNames.find? fun name => (fields.find? name).isNone with
    | some name => .noField typeName name
    | none => .noField (fields.get "private_key").typeName "key_size"

/-! ## Loading -/

/-- The text of a key as it is wherever it comes from: what is not set is empty, what has no text
operations is a fault. -/
def normalKeyText : Value → Except Fault String
  | .text s => .ok (Key.normalize (some s))
  | .octets bytes => if bytes.isEmpty then .ok "" else .error .octetsForText
  | v => if v.isTruthy then .error (.notText v.typeName "strip") else .ok ""

/-- Loads the key from its text. -/
def loadKey (pem : Value) : Except ConfigError Rsa.PrivateKey :=
  match normalKeyText pem with
  | .error f => .error (.fault f)
  | .ok text =>
    match Key.load text with
    | .ok key => .ok key
    | .error e => .error (.key e)

/-- A configuration from options of any kind and the text of a key. The numbers are read first,
then the key, then the rest. -/
def create (baseUrl ttl minSizeKb pem keyPairId : Value) :
    Except ConfigError SignerConfiguration := do
  let ttlSeconds ← Property.wholeNumber Property.ttl Property.defaultTtlSeconds ttl
  let minSizeKb ← Property.wholeNumber Property.minSize Property.defaultMinSizeKb minSizeKb
  let key ← loadKey pem
  validate {
    baseUrl := some baseUrl
    ttlSeconds := some (.integer ttlSeconds)
    minimumSizeBytes := some (.integer (minSizeKb * 1024))
    keyPairId := some keyPairId
    key := some (.rsa key) }

/-- A configuration from options and the files. A key text that is blank counts as no key. -/
def ofOptions (files : FileSystem) (options : Options) :
    Except ConfigError SignerConfiguration := do
  let pem ← Options.keyText files options.keySource
  if (Text.trimChars pem.toList).isEmpty then throw (.required Property.privateKeyFile)
  create (.text options.baseUrl) (.integer options.ttlSeconds) (.integer options.minSizeKb)
    (.text pem) (.text options.keyPairId)

/-- A configuration from a bag of properties and the files. -/
def ofProperties (files : FileSystem) (properties : Fields) :
    Except ConfigError SignerConfiguration := do
  let options ← Options.ofProperties properties
  ofOptions files options

/-! ## Elementary facts -/

/-- What is left of a text that is not blank makes an address. -/
theorem isAddress_addressChars {cs : List Char} (h : Property.addressChars cs ≠ []) :
    IsAddress (Property.addressChars cs) where
  trimmed := by
    have nonblank : Text.trimChars cs ≠ [] := fun blank =>
      h (Property.addressChars_eq_nil_iff.mpr blank)
    obtain ⟨body, equal, -⟩ := Property.addressChars_slash nonblank
    have head : ∀ c ∈ (Property.addressChars cs).head?, Text.isBlank c = false :=
      Property.not_isBlank_head_addressChars
    refine Text.trimBy_eq_self head ?_
    rw [equal]
    simp
    decide
  slash := Property.addressChars_slash fun blank => h (Property.addressChars_eq_nil_iff.mpr blank)

/-- A key that was accepted is an RSA key. -/
theorem isRsa_of_checkedKey {key : Option SigningKey} {k : SigningKey}
    (h : checkedKey key = .ok k) : k.isRsa = true := by
  cases key with
  | none => simp [checkedKey] at h
  | some key =>
    by_cases rsa : key.isRsa = true
    · simp [checkedKey, rsa] at h
      rwa [← h]
    · simp [checkedKey, rsa] at h

/-- A number field is not negative when its default is not. -/
theorem numberOr_nonneg {default n : Int} {v : Option Value} (nonneg : 0 ≤ default)
    (h : numberOr default v = .ok n) : 0 ≤ n := by
  cases v with
  | none =>
    have : default = n := by simpa [numberOr] using h
    omega
  | some v => exact (Checked.natural_eq_ok_iff.mp h).2

/-- A name that was accepted is not empty. -/
theorem named_of_given {v : Option Value} {s : String}
    (h : given Checked.nonEmptyText v = .ok s) : s ≠ "" := by
  cases v with
  | none => simp [given] at h
  | some v => exact Checked.ne_empty_of_nonEmptyText h

/-- An address that was accepted is one. -/
theorem isAddress_of_draftAddress {v : Option Value} {s : String}
    (h : draftAddress v = .ok (.ok s)) : IsAddress s.toList := by
  cases v with
  | none => simp [draftAddress] at h
  | some v =>
    unfold draftAddress at h
    cases read : Property.address v with
    | error f => simp [read] at h
    | ok t =>
      simp only [read, Except.ok.injEq] at h
      unfold checkedAddress at h
      split at h
      · simp at h
      · next nonempty =>
        cases h
        obtain ⟨cs, equal⟩ := Property.address_eq_addressChars read
        rw [equal] at nonempty ⊢
        rw [String.toList_ofList]
        exact isAddress_addressChars fun empty => nonempty (by rw [empty]; rfl)

/-- A validated configuration is well formed. -/
theorem wellFormed_of_validate {draft : Draft} {config : SignerConfiguration}
    (h : validate draft = .ok config) : config.WellFormed := by
  unfold validate at h
  split at h
  · simp at h
  · next address read =>
    dsimp only at h
    split at h
    · next readTtl readSize readName readKey =>
      cases h
      exact ⟨isAddress_of_draftAddress read, numberOr_nonneg (by decide) readTtl,
        numberOr_nonneg (by decide) readSize, named_of_given readName,
        isRsa_of_checkedKey readKey⟩
    · simp at h

end SignerConfiguration

end SignedLink
