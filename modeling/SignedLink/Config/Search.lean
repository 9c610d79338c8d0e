import SignedLink.Files.Path
import SignedLink.Text.LowerCase
import SignedLink.Value.Fault
/-!
# SignedLink — how settings are looked for

Names of settings are compared without regard to case, unless the program asks
for exact names. What the program gives under one of a few names with an
underscore in front is no setting but says how settings are looked for: what
stands in front of their names, which values count as none, which files and
directories hold them and in which encoding. Some of it is needed only when
there is a file, so that what is wrong with it is kept until then.
-/

namespace SignedLink.Settings

/-- How settings are looked for outside the program. -/
structure Search where
  /-- what stands in front of the name of a setting -/
  lead : String
  /-- whether names are compared exactly -/
  exactNames : Bool
  /-- whether an empty value counts as none -/
  skipsEmpty : Bool
  /-- the word that stands for null -/
  nullWord : Option String
  /-- the settings files, of which the last that binds a name counts -/
  files : List (Except Fault String)
  /-- the encoding of the settings files -/
  encoding : Except Fault Text.Encoding
  /-- the directories of files that each hold one setting, of which the last counts -/
  secrets : List (Except Fault String)

/-- The name of the usual settings file. -/
def fileName : String := ".env"

/-- The names of sources in which a setting cannot be looked up. -/
def environmentSource : String := "EnvSettingsSource"
def secretsSource : String := "SecretsSettingsSource"

/-- The name of the setting that is looked up first. -/
def firstName : String := "PROJECT_NAME"

/-- The names of the settings. -/
def names : List String :=
  [firstName, "VERSION", "API_V1_STR", "ENV", "ENABLE_DOCS", "CLOUDFRONT_URL",
    "CLOUDFRONT_TTL_SECONDS", "CLOUDFRONT_MIN_SIZE_KB", "CLOUDFRONT_PRIVATE_KEY_FILE",
    "CLOUDFRONT_PRIVATE_KEY_PEM", "CLOUDFRONT_KEY_PAIR_ID"]

namespace Search

/-- The search when nothing is said about it. -/
def default : Search :=
  ⟨"", false, false, none, [.ok fileName], .ok .utf8, []⟩

/-! ## Reading -/

/-- The path that a value names. -/
def pathOf : Value → Except Fault String
  | .text s | .path s => .ok (Path.tidy s)
  | .octets _ => .error .octetsForPath
  | v => .error (.notPath v.typeName)

/-- The paths that a value names: one, those among its items, or none. -/
def pathsOf : Value → List (Except Fault String)
  | .null => []
  | .text s => [pathOf (.text s)]
  | .path s => [pathOf (.path s)]
  | .list items => items.map pathOf
  | .record fields => fields.map fun field => pathOf (.text field.1)
  | .octets octets => octets.map fun octet => pathOf (.integer octet.toNat)
  | v => [.error (.notIterable v.typeName)]

/-- The text that a value is. -/
def text? : Value → Option String
  | .text s => some s
  | _ => none

/-- What stands in front of names: nothing, or a text. What has a length but is no text is found
out at the first setting. -/
def leadOf : Value → Except Fault String
  | .null => .ok default.lead
  | .text s => .ok s
  | .octets _ | .list _ | .record _ => .error (.unreadSetting firstName environmentSource)
  | v => .error (.noLength v.typeName)

/-- The encoding that a value names; what is empty names the usual one. -/
def encodingOf (v : Value) : Except Fault Text.Encoding :=
  if !v.isTruthy then default.encoding
  else
    match v with
    | .text name =>
      match Text.Encoding.ofName? name with
      | some encoding => .ok encoding
      | none => .error (.unknownEncoding name)
    | v => .error (.notEncoding v.typeName)

/-- The search that given values ask for. -/
def ofGiven (given : Fields) : Except Fault Search :=
  (leadOf (given.get "_env_prefix")).map fun lead =>
    { lead
      exactNames := (given.get "_case_sensitive").isTruthy
      skipsEmpty := (given.get "_env_ignore_empty").isTruthy
      nullWord := text? (given.get "_env_parse_none_str")
      files := ((given.find? "_env_file").map pathsOf).getD default.files
      encoding := encodingOf (given.get "_env_file_encoding")
      secrets := pathsOf (given.get "_secrets_dir") }

/-! ## Names -/

/-- A name in the form in which it is compared. -/
def key (search : Search) (name : String) : List Char :=
  if search.exactNames then name.toList else Text.lower name.toList

/-- The value of a setting among the values given in the program: under its own name, or else
under the last name that differs in case only. -/
def given? (search : Search) (given : Fields) (setting : String) : Option Value :=
  match given.find? setting with
  | some v => some v
  | none =>
    (given.reverse.find? fun field => search.key field.1 == search.key setting).map (·.2)

/-! ## Elementary facts -/

/-- Nothing given leaves the search as it is by default. -/
theorem ofGiven_nil : ofGiven [] = .ok default := rfl

end Search

end SignedLink.Settings
