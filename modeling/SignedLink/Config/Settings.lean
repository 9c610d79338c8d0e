import SignedLink.Config.Signer
import SignedLink.Config.Sources
/-!
# SignedLink — settings

The settings of a running service. A setting that no source has takes its
default. All settings are read before any refusal is told, so a refusal names
every bad setting.

* `properties_ttl`, `properties_minSize`: the settings as a bag of properties.
-/

namespace SignedLink

/-- Where a service runs. -/
inductive Stage where
  | development
  | staging
  | production
deriving DecidableEq

def Stage.name : Stage → String
  | .development => "development"
  | .staging => "staging"
  | .production => "production"

/-- Reads the exact name of a stage. -/
def Stage.read : Value → Checked Stage
  | .text "development" => .ok .development
  | .text "staging" => .ok .staging
  | .text "production" => .ok .production
  | _ => .error .stage

/-- The settings of a service. -/
structure Settings where
  projectName : String
  version : String
  /-- the path in front of the first version of the interface -/
  apiPath : String
  stage : Stage
  docsEnabled : Bool
  /-- the base address for links; without one no links are made -/
  cloudFrontUrl : Option String
  ttlSeconds : Int
  minSizeKb : Int
  privateKeyFile : Option String
  privateKeyPem : Option String
  keyPairId : Option String
deriving DecidableEq

namespace Settings

/-- The settings when nothing is said. -/
def default : Settings where
  projectName := "CDN Redirect"
  version := "1.0.0"
  apiPath := "/api/v1"
  stage := .development
  docsEnabled := true
  cloudFrontUrl := none
  ttlSeconds := Property.defaultTtlSeconds
  minSizeKb := Property.defaultMinSizeKb
  privateKeyFile := none
  privateKeyPem := none
  keyPairId := none

/-! ## Reading -/

/-- Why there are no settings. -/
inductive ReadError where
  | invalid (errors : List FieldError)
  /-- an undefined operation -/
  | fault (f : Fault)

/-- Reads one setting, or takes its default. -/
def field {α : Type} (sources : Sources) (setting : String) (default : α)
    (read : Value → Checked α) : Checked α :=
  match sources.find? setting with
  | some v => read v
  | none => .ok default

/-- The base address: trimmed, and none when blank. -/
def cloudFrontUrlField (sources : Sources) : Except Fault (Option String) :=
  match sources.find? "CLOUDFRONT_URL" with
  | none => .ok default.cloudFrontUrl
  | some v =>
    match Property.address v with
    | .ok s => .ok (if s.isEmpty then none else some s)
    | .error f => .error f

/-- Reads all settings from the sources. -/
def ofSources (sources : Sources) : Except ReadError Settings :=
  match cloudFrontUrlField sources with
  | .error f => .error (.fault f)
  | .ok cloudFrontUrl =>
    let projectName := field sources "PROJECT_NAME" default.projectName Checked.text
    let version := field sources "VERSION" default.version Checked.text
    let apiPath := field sources "API_V1_STR" default.apiPath Checked.text
    let stage := field sources "ENV" default.stage Stage.read
    let docsEnabled := field sources "ENABLE_DOCS" default.docsEnabled Checked.boolean
    let ttlSeconds := field sources "CLOUDFRONT_TTL_SECONDS" default.ttlSeconds Checked.natural
    let minSizeKb := field sources "CLOUDFRONT_MIN_SIZE_KB" default.minSizeKb Checked.natural
    let text := Checked.optional Checked.text
    let privateKeyFile :=
      field sources "CLOUDFRONT_PRIVATE_KEY_FILE" default.privateKeyFile text
    let privateKeyPem := field sources "CLOUDFRONT_PRIVATE_KEY_PEM" default.privateKeyPem
      (Checked.optional Checked.secret)
    let keyPairId := field sources "CLOUDFRONT_KEY_PAIR_ID" default.keyPairId text
    match projectName, version, apiPath, stage, docsEnabled, ttlSeconds, minSizeKb,
      privateKeyFile, privateKeyPem, keyPairId with
    | .ok projectName, .ok version, .ok apiPath, .ok stage, .ok docsEnabled, .ok ttlSeconds,
      .ok minSizeKb, .ok privateKeyFile, .ok privateKeyPem, .ok keyPairId =>
      .ok { projectName, version, apiPath, stage, docsEnabled, cloudFrontUrl, ttlSeconds,
            minSizeKb, privateKeyFile, privateKeyPem, keyPairId }
    | _, _, _, _, _, _, _, _, _, _ =>
      let input (setting : String) := (sources.find? setting).getD .null
      .error (.invalid ([
        FieldError.ofReading? "PROJECT_NAME" (input "PROJECT_NAME") projectName,
        FieldError.ofReading? "VERSION" (input "VERSION") version,
        FieldError.ofReading? "API_V1_STR" (input "API_V1_STR") apiPath,
        FieldError.ofReading? "ENV" (input "ENV") stage,
        FieldError.ofReading? "ENABLE_DOCS" (input "ENABLE_DOCS") docsEnabled,
        FieldError.ofReading? "CLOUDFRONT_TTL_SECONDS" (input "CLOUDFRONT_TTL_SECONDS") ttlSeconds,
        FieldError.ofReading? "CLOUDFRONT_MIN_SIZE_KB" (input "CLOUDFRONT_MIN_SIZE_KB") minSizeKb,
        FieldError.ofReading? "CLOUDFRONT_PRIVATE_KEY_FILE" (input "CLOUDFRONT_PRIVATE_KEY_FILE")
          privateKeyFile,
        FieldError.ofReading? "CLOUDFRONT_PRIVATE_KEY_PEM" (input "CLOUDFRONT_PRIVATE_KEY_PEM")
          privateKeyPem,
        FieldError.ofReading? "CLOUDFRONT_KEY_PAIR_ID" (input "CLOUDFRONT_KEY_PAIR_ID")
          keyPairId].reduceOption))

/-- The settings from given values, the environment and the settings file. -/
def load (given : Fields) (environment : Environment) (files : FileSystem) :
    Except ReadError Settings :=
  match Sources.load given environment files with
  | .ok sources => ofSources sources
  | .error f => .error (.fault f)

/-! ## What follows from the settings -/

def isProduction (settings : Settings) : Bool :=
  settings.stage == .production

/-- Whether links are wanted: there is a base address. -/
def redirectConfigured (settings : Settings) : Bool :=
  (settings.cloudFrontUrl.map fun s => !s.isEmpty).getD false

/-- The settings as a bag of properties. -/
def properties (settings : Settings) : Fields :=
  [(Property.cloudFrontUrl, Value.ofText? settings.cloudFrontUrl),
    (Property.ttl, .integer settings.ttlSeconds),
    (Property.minSize, .integer settings.minSizeKb),
    (Property.privateKeyFile, Value.ofText? settings.privateKeyFile),
    (Property.privateKey, Value.ofText? settings.privateKeyPem),
    (Property.keyPairId, Value.ofText? settings.keyPairId)]

/-- What is shown in the place of a secret: nothing of an empty one, else a mask. -/
def mask (secret : String) : String :=
  if secret.isEmpty then "" else "**********"

/-- The form of the settings in messages, with the key masked. -/
def shown (settings : Settings) : String :=
  let text (s : String) := (Value.text s).shown
  let optionalText (s : Option String) := (Value.ofText? s).shown
  let number (n : Int) := String.ofList (Text.decimal n)
  let secret :=
    (settings.privateKeyPem.map fun s => "SecretStr(" ++ text (mask s) ++ ")").getD "None"
  "Settings(PROJECT_NAME=" ++ text settings.projectName ++
    ", VERSION=" ++ text settings.version ++
    ", API_V1_STR=" ++ text settings.apiPath ++
    ", ENV=" ++ text settings.stage.name ++
    ", ENABLE_DOCS=" ++ (Value.boolean settings.docsEnabled).shown ++
    ", CLOUDFRONT_URL=" ++ optionalText settings.cloudFrontUrl ++
    ", CLOUDFRONT_TTL_SECONDS=" ++ number settings.ttlSeconds ++
    ", CLOUDFRONT_MIN_SIZE_KB=" ++ number settings.minSizeKb ++
    ", CLOUDFRONT_PRIVATE_KEY_FILE=" ++ optionalText settings.privateKeyFile ++
    ", CLOUDFRONT_PRIVATE_KEY_PEM=" ++ secret ++
    ", CLOUDFRONT_KEY_PAIR_ID=" ++ optionalText settings.keyPairId ++ ")"

/-- Whether the key can be found in the form in messages. -/
def showsSecret (settings : Settings) : Bool :=
  match settings.privateKeyPem with
  | some s => !s.isEmpty && Text.occursIn s.toList settings.shown.toList
  | none => false

/-- A configuration from the settings and the files. -/
def signer (settings : Settings) (files : FileSystem) : Except ConfigError SignerConfiguration :=
  SignerConfiguration.ofProperties files settings.properties

/-! ## Elementary facts -/

theorem properties_ttl (settings : Settings) :
    Fields.get settings.properties Property.ttl = .integer settings.ttlSeconds := rfl

theorem properties_minSize (settings : Settings) :
    Fields.get settings.properties Property.minSize = .integer settings.minSizeKb := rfl

end Settings

end SignedLink
