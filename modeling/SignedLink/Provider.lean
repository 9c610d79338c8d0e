import SignedLink.Conversion.Basic
/-!
# SignedLink — the provider

A provider holds one configuration or none. It is activated from a bag of
properties, its configuration can be replaced, and it is deactivated; a step
that fails leaves it as it was. Every step returns the provider after it and
the records that it wrote.

* `activate_error`: a failed activation changes nothing.
* `activate_ok`: a successful one holds exactly the configuration of the properties.
-/

namespace SignedLink

/-- A provider, by the configuration it holds. -/
structure Provider where
  config : Option SignerConfiguration
deriving DecidableEq

namespace Provider

/-- A provider without a configuration. -/
def inactive : Provider :=
  ⟨none⟩

def isActive (p : Provider) : Bool :=
  p.config.isSome

/-- What a step did: the provider after it, whether it succeeded, and the records. -/
structure Step where
  provider : Provider
  result : Except ConfigError Unit
  records : List Logging.Record

/-- The properties that are told on activation, which leaves the text of the key out. -/
def toldProperties : List String :=
  [Property.cloudFrontUrl, Property.ttl, Property.privateKeyFile, Property.keyPairId,
    Property.minSize]

/-- The record that tells one property. -/
def propertyRecord (properties : Fields) (name : String) : Logging.Record :=
  ⟨Logging.providerLogger, .debug,
    (Fields.get properties name).told.map fun told => "Property " ++ name ++ ": " ++ told, none⟩

/-- Holds the configuration of the properties. -/
def activate (files : FileSystem) (properties : Fields) (p : Provider) : Step :=
  let told := toldProperties.map (propertyRecord properties)
  match SignerConfiguration.ofProperties files properties with
  | .error e => ⟨p, .error e, told⟩
  | .ok config =>
    ⟨⟨some config⟩, .ok (), told ++
      [.of Logging.providerLogger .info
        ("CloudFront URI provider activated for " ++ config.baseUrl)]⟩

/-- Holds another configuration. -/
def reconfigure (config : SignerConfiguration) (_ : Provider) : Provider :=
  ⟨some config⟩

/-- Holds no configuration any more. -/
def deactivate (_ : Provider) : Step :=
  ⟨inactive, .ok (), [.of Logging.providerLogger .info "CloudFront URI provider deactivated"]⟩

/-- Closing is deactivating. -/
def close (p : Provider) : Step :=
  p.deactivate

/-- A provider that is active from the start. -/
def fromPem (baseUrl ttl minSizeKb pem keyPairId : Value) : Except ConfigError Provider :=
  (SignerConfiguration.create baseUrl ttl minSizeKb pem keyPairId).map fun config => ⟨some config⟩

/-- Converts a value; the provider stays as it is. -/
def convert (p : Provider) (now : Value) (candidate : Candidate) : Conversion :=
  Conversion.of p.config now candidate

/-! ## Elementary facts -/

/-- A failed activation changes nothing. -/
theorem activate_error {files : FileSystem} {properties : Fields} {p : Provider} {e : ConfigError}
    (h : (p.activate files properties).result = .error e) :
    (p.activate files properties).provider = p := by
  unfold activate at h ⊢
  dsimp only at h ⊢
  cases made : SignerConfiguration.ofProperties files properties with
  | error e => rfl
  | ok config => simp [made] at h

/-- Properties that give a configuration are enough for an activation. -/
theorem activate_of_ofProperties {files : FileSystem} {properties : Fields}
    {config : SignerConfiguration} (p : Provider)
    (made : SignerConfiguration.ofProperties files properties = .ok config) :
    (p.activate files properties).result = .ok () ∧
      (p.activate files properties).provider.config = some config := by
  simp [activate, made]

/-- A successful activation holds exactly the configuration of the properties. -/
theorem activate_ok {files : FileSystem} {properties : Fields} {p : Provider}
    (h : (p.activate files properties).result = .ok ()) :
    ∃ config, SignerConfiguration.ofProperties files properties = .ok config ∧
      (p.activate files properties).provider.config = some config := by
  unfold activate at h ⊢
  dsimp only at h ⊢
  cases made : SignerConfiguration.ofProperties files properties with
  | error e => simp [made] at h
  | ok config => exact ⟨config, rfl, rfl⟩

end Provider

end SignedLink
