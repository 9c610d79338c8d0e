import SignedLink.Proofs.Config.Signer
import SignedLink.Proofs.Key.Spelling
import SignedLink.Proofs.Signing.Exchange
import SignedLink.Proofs.Text.Utf8
/-!
# SignedLink — configurations with exchanged keys

A key comes into a configuration as the octets of a file or as a text in a bag
of properties. Both are forms of a key, and so is what is made of them on the
way: the text of the file, and the trimmed text. When the keys in them are
exchanged, nothing is refused that was not refused before, and the
configuration is the same but for its key.

* `FileSystem.SameButKeys`, `Options.SameButKey`: where the keys are exchanged.
* `SignerConfiguration.related_ofProperties`: bags and files with exchanged keys give configurations
  with exchanged keys, and the same refusals.
-/

namespace SignedLink

variable {exchange : Rsa.PrivateKey → Rsa.PrivateKey → Prop}

/-! ## Forms of a key -/

namespace Key

/-- The key in a text. -/
def ofText? (text : String) : Option Rsa.PrivateKey :=
  (load (normalize (some text))).toOption

/-- The key in a property. -/
def ofValue? : Value → Option Rsa.PrivateKey
  | .text s => ofText? s
  | _ => none

/-- The key in what stands at a path. -/
def ofContents? (contents : Except FileError (List UInt8)) : Option Rsa.PrivateKey := do
  let octets ← contents.toOption
  let text ← (textOfOctets octets).toOption
  ofText? text

theorem ofText?_eq_some_iff {text : String} {key : Rsa.PrivateKey} :
    ofText? text = some key ↔ load (normalize (some text)) = .ok key := by
  unfold ofText?
  cases load (normalize (some text)) <;> simp [Except.toOption]

/-- What surrounds a text does not count. -/
theorem ofText?_trim (text : String) : ofText? (Text.trim text) = ofText? text := by
  rw [ofText?, normalize_trim, ← ofText?]

/-- There is no key in a blank text. -/
theorem ofText?_of_blank {text : String} (blank : Text.trimChars text.toList = []) :
    ofText? text = none := by
  rw [ofText?, load_normalize_of_blank blank]
  rfl

/-- The armoured text of a key. -/
def pem (key : Rsa.PrivateKey) : String :=
  .ofList (armour (Base64.encode (encode key)))

/-- A key that is accepted is in its armoured text. -/
theorem ofText?_pem {key : Rsa.PrivateKey} (accepted : key.isAcceptable = true)
    (fits : Fits key) : ofText? (pem key) = some key := by
  have loaded := load_armour key
  rw [if_pos ⟨accepted, fits⟩] at loaded
  exact ofText?_eq_some_iff.mpr loaded

theorem ofValue?_eq_some {v : Value} {key : Rsa.PrivateKey} (found : ofValue? v = some key) :
    ∃ text, v = .text text ∧ ofText? text = some key := by
  cases v with
  | text s => exact ⟨s, rfl, found⟩
  | _ => cases found

theorem ofContents?_eq_some {contents : Except FileError (List UInt8)} {key : Rsa.PrivateKey}
    (found : ofContents? contents = some key) :
    ∃ octets text, contents = .ok octets ∧ textOfOctets octets = .ok text ∧
      ofText? text = some key := by
  cases contents with
  | error e => cases found
  | ok octets =>
    cases read : textOfOctets octets with
    | error e => simp [ofContents?, Except.toOption, read] at found
    | ok text =>
      refine ⟨octets, text, rfl, read, ?_⟩
      simpa [ofContents?, Except.toOption, read] using found

/-- The octets of a text hold the key that is in the text, whatever its line ends. -/
theorem ofContents?_encode (text : String) :
    ofContents? (.ok (Text.Utf8.encode text.toList)) = ofText? text := by
  have read : textOfOctets (Text.Utf8.encode text.toList) =
      .ok (.ofList (Text.unifyNewlines text.toList)) := by
    rw [textOfOctets, Text.Utf8.decode_encode]
  have alike : Alike (String.ofList (Text.unifyNewlines text.toList)).toList text.toList := by
    rw [String.toList_ofList]
    exact (respelled_unifyNewlines _).alike
  simp only [ofContents?, read, Except.toOption, Option.bind_eq_bind, Option.bind_some, ofText?,
    load_normalize_of_alike alike]

end Key

/-- File systems that are the same but for exchanged keys in the files. -/
def FileSystem.SameButKeys (exchange : Rsa.PrivateKey → Rsa.PrivateKey → Prop)
    (files others : FileSystem) : Prop :=
  ∀ path, Exchanged exchange Key.ofContents? (files.contents path) (others.contents path)

/-- Bags of properties that are the same but for an exchanged key in the text of the key. -/
structure Options.SameButKey (exchange : Rsa.PrivateKey → Rsa.PrivateKey → Prop)
    (bag other : Fields) : Prop where
  rest : ∀ name ≠ Property.privateKey, Fields.get other name = Fields.get bag name
  key : Exchanged exchange Key.ofValue? (Fields.get bag Property.privateKey)
    (Fields.get other Property.privateKey)

/-- Keys that are exchanged in the text of a bag. -/
theorem Options.SameButKey.put {text other : String}
    (exchanged : Exchanged exchange Key.ofText? text other) (bag : Fields) :
    SameButKey exchange (bag.put Property.privateKey (.text text))
      (bag.put Property.privateKey (.text other)) where
  rest name different := by
    rw [Fields.get, Fields.get, Fields.find?_put_of_ne _ _ different,
      Fields.find?_put_of_ne _ _ different]
  key := by
    rw [Fields.get, Fields.get, Fields.find?_put_self, Fields.find?_put_self]
    exact exchanged.map Value.text fun _ => rfl

/-- Configurations that are the same but for an exchanged key. -/
structure SignerConfiguration.SameButKey (exchange : Rsa.PrivateKey → Rsa.PrivateKey → Prop)
    (config other : SignerConfiguration) : Prop where
  rest : other = { config with key := other.key }
  key : Exchanged exchange SigningKey.rsa? config.key other.key

/-- Sources of keys that name the same file, or are texts with exchanged keys in them. -/
inductive KeySource.SameButKey (exchange : Rsa.PrivateKey → Rsa.PrivateKey → Prop) :
    KeySource → KeySource → Prop where
  | file (path : String) : SameButKey exchange (.file path) (.file path)
  | inline {text other : String} (exchanged : Exchanged exchange Key.ofText? text other) :
      SameButKey exchange (.inline text) (.inline other)

/-! ## On the way to the key -/

variable {files others : FileSystem} {bag otherBag : Fields}

/-- Files with exchanged keys are read to texts with exchanged keys. -/
theorem FileSystem.SameButKeys.readText (same : files.SameButKeys exchange others) (path : String) :
    Except.Related (Exchanged exchange Key.ofText?) (files.readText path)
      (others.readText path) := by
  have exchanged := same path
  unfold FileSystem.readText
  split
  · exact .error _
  · generalize files.contents path = contents at exchanged ⊢
    generalize others.contents path = otherContents at exchanged ⊢
    cases exchanged with
    | keys found otherFound pair =>
      obtain ⟨octets, text, rfl, read, loaded⟩ := Key.ofContents?_eq_some found
      obtain ⟨otherOctets, otherText, rfl, otherRead, otherLoaded⟩ :=
        Key.ofContents?_eq_some otherFound
      simp only [read, otherRead]
      exact .ok (.keys loaded otherLoaded pair)
    | same unable =>
      cases contents with
      | error e => exact .error _
      | ok octets =>
        cases read : textOfOctets octets with
        | error e => simp only [read]; exact .error _
        | ok text =>
          simp only [read]
          refine .ok (.same fun key found => unable key ?_)
          simpa [Key.ofContents?, Except.toOption, read] using found

/-- The text of a key in a file is the text of the file, and a text in a bag is there already. -/
theorem KeySource.SameButKey.keyText {source other : KeySource}
    (sources : source.SameButKey exchange other) (filed : files.SameButKeys exchange others) :
    Except.Related (Exchanged exchange Key.ofText?) (Options.keyText files source)
      (Options.keyText others other) := by
  cases sources with
  | inline exchanged => exact .ok exchanged
  | file path =>
    rcases (filed.readText path).elim with
      ⟨e, read, otherRead⟩ | ⟨text, otherText, read, otherRead, exchanged⟩
    · simp only [Options.keyText, read, otherRead]
      cases e <;> exact .error _
    · simp only [Options.keyText, read, otherRead]
      exact .ok exchanged

/-- The text of a key in a bag is trimmed. -/
theorem Property.related_optionalText {v other : Value}
    (exchanged : Exchanged exchange Key.ofValue? v other) (name : String) :
    Except.Related (Exchanged exchange Key.ofText?) (optionalText name false v)
      (optionalText name false other) := by
  cases exchanged with
  | keys found otherFound pair =>
    obtain ⟨text, rfl, loaded⟩ := Key.ofValue?_eq_some found
    obtain ⟨otherText, rfl, otherLoaded⟩ := Key.ofValue?_eq_some otherFound
    exact .ok ((Exchanged.keys loaded otherLoaded pair).map Text.trim Key.ofText?_trim)
  | same unable =>
    cases v with
    | null =>
      -- nothing is read as an empty text, in which there is no key
      refine .ok (.same fun key found => ?_)
      rw [Key.ofText?_of_blank rfl] at found
      cases found
    | text s =>
      have kept : Exchanged exchange Key.ofText? s s := .same unable
      exact .ok (kept.map Text.trim Key.ofText?_trim)
    | _ => exact .error _

namespace Options.SameButKey

variable (same : SameButKey exchange bag otherBag)
include same

theorem keySourceOf :
    Except.Related (KeySource.SameButKey exchange) (Options.keySourceOf bag)
      (Options.keySourceOf otherBag) := by
  unfold Options.keySourceOf
  rw [same.rest _ (by decide)]
  refine (Except.Related.of_eq rfl).bind fun file _ named => ?_
  subst named
  -- a file that is named goes first, and then the text is not looked at
  split
  · exact (Property.related_optionalText same.key _).bind fun _ _ exchanged =>
      .ok (.inline exchanged)
  · exact .ok (.file file)

/-- Bags with exchanged keys are read to the same options, but for the source of the key. -/
theorem ofProperties :
    Except.Related (fun options other =>
        (∀ key, other.configuration key = options.configuration key) ∧
          options.keySource.SameButKey exchange other.keySource)
      (Options.ofProperties bag) (Options.ofProperties otherBag) := by
  have addressed : Except.Related Eq
      (Property.requiredText Property.cloudFrontUrl (Fields.get bag Property.cloudFrontUrl))
      (Property.requiredText Property.cloudFrontUrl (Fields.get otherBag Property.cloudFrontUrl)) :=
    .of_eq (by rw [same.rest _ (by decide)])
  have alike : ReadAlike bag otherBag := by
    refine .of_get fun name mem => same.rest name ?_
    rintro rfl
    exact absurd mem (by decide)
  rcases (ofProperties_related addressed alike same.keySourceOf).elim with
    ⟨e, read, otherRead⟩ | ⟨options, other, read, otherRead, _, _, rfl, sources, rfl⟩
  · rw [read, otherRead]
    exact .error e
  · rw [read, otherRead]
    exact .ok ⟨fun _ => rfl, sources⟩

end Options.SameButKey

/-! ## Configurations -/

namespace SignerConfiguration

/-- Options with exchanged keys give configurations with exchanged keys. -/
theorem related_ofOptions {options other : Options} (normal : options.IsNormal)
    (otherNormal : other.IsNormal)
    (alike : ∀ key, other.configuration key = options.configuration key)
    (found : Except.Related (Exchanged exchange Key.ofText?)
      (Options.keyText files options.keySource) (Options.keyText others other.keySource)) :
    Except.Related (SameButKey exchange) (ofOptions files options) (ofOptions others other) := by
  rcases found.elim with ⟨e, text, otherText⟩ | ⟨pem, otherPem, text, otherText, exchanged⟩
  · simp only [ofOptions, text, otherText]
    exact .error e
  · rw [ofOptions_of_keyText normal text, ofOptions_of_keyText otherNormal otherText]
    simp only [alike]
    cases exchanged with
    | keys loads otherLoads pair =>
      -- a text with a key in it is not blank
      have loadable {text : String} {key : Rsa.PrivateKey} (loads : Key.ofText? text = some key) :
          Text.trimChars text.toList ≠ [] := by
        intro blank
        rw [Key.ofText?_of_blank blank] at loads
        cases loads
      rw [if_neg (loadable loads), if_neg (loadable otherLoads), Key.ofText?_eq_some_iff.mp loads,
        Key.ofText?_eq_some_iff.mp otherLoads]
      exact .ok ⟨rfl, .keys rfl rfl pair⟩
    | same unable =>
      split
      · exact .error _
      · cases loads : Key.load (Key.normalize (some pem)) with
        | error e => exact .error _
        | ok key =>
          refine .ok ⟨rfl, .same ?_⟩
          rintro _ ⟨⟩
          exact unable key (Key.ofText?_eq_some_iff.mpr loads)

/-- Bags and files with exchanged keys give configurations with exchanged keys, and the same
refusals. -/
theorem related_ofProperties (filed : files.SameButKeys exchange others)
    (same : Options.SameButKey exchange bag otherBag) :
    Except.Related (SameButKey exchange) (ofProperties files bag)
      (ofProperties others otherBag) := by
  rcases same.ofProperties.elim with
    ⟨e, read, otherRead⟩ | ⟨options, other, read, otherRead, alike, sources⟩
  · rw [ofProperties, ofProperties, read, otherRead]
    exact .error e
  · rw [ofProperties_eq_ofOptions read, ofProperties_eq_ofOptions otherRead]
    exact related_ofOptions (Options.isNormal_of_ofProperties read)
      (Options.isNormal_of_ofProperties otherRead) alike (sources.keyText filed)

end SignerConfiguration

end SignedLink
