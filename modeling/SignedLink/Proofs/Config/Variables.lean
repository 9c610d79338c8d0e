import SignedLink.Proofs.Config.Environment
import SignedLink.Proofs.Validation.Digits
/-!
# SignedLink — the variables of a signer

Four variables of the environment are enough for a signer. When nothing else in
the environment begins like their names, the settings of a service are known
from them, but for a few that have nothing to do with links.

* `AreIn`: the variables in an environment.
* `AreIn.settings_eq`: the settings of a service in it.
* `AreIn.exists_settings_iff`: when there are such settings.
-/

namespace SignedLink

namespace Environment

/-- The four variables that the program asks for. -/
structure Variables where
  url : String
  keyFile : String
  keyPairId : String
  ttl : String

/-- The settings that have nothing to do with links can be read in an environment. -/
def OthersReadable (environment : Environment) : Prop :=
  (∃ stage, Settings.field (.ofEnvironment environment) "ENV" Settings.default.stage Stage.read =
    .ok stage) ∧
  ∃ docs, Settings.field (.ofEnvironment environment) "ENABLE_DOCS" Settings.default.docsEnabled
    Checked.boolean = .ok docs

namespace Variables

/-- The environment with nothing else in it. -/
def toEnvironment (v : Variables) : Environment :=
  [("CLOUDFRONT_URL", v.url), ("CLOUDFRONT_PRIVATE_KEY_FILE", v.keyFile),
    ("CLOUDFRONT_KEY_PAIR_ID", v.keyPairId), ("CLOUDFRONT_TTL_SECONDS", v.ttl)]

/-- The names of the variables. -/
def names : List String :=
  ["CLOUDFRONT_URL", "CLOUDFRONT_PRIVATE_KEY_FILE", "CLOUDFRONT_KEY_PAIR_ID",
    "CLOUDFRONT_TTL_SECONDS"]

/-- What the names of the variables begin with, in lower case. -/
def lead : List Char := "cloudfront_".toList

/-- The variables are in an environment, together with others whose names begin differently. -/
structure AreIn (v : Variables) (environment : Environment) : Prop where
  each : ∀ b ∈ v.toEnvironment, b ∈ environment
  only : ∀ b ∈ environment, lead <+: Text.lower b.1.toList → b ∈ v.toEnvironment

/-- The form in which the service reads the variables. -/
def tidied (v : Variables) : Variables where
  url := v.url
  keyFile := Text.trim v.keyFile
  keyPairId := Text.trim v.keyPairId
  ttl := .ofList (Text.significant v.ttl.toList)

variable {v : Variables} {environment : Environment} {name value : String}

theorem areIn_toEnvironment (v : Variables) : v.AreIn v.toEnvironment :=
  ⟨fun _ mem => mem, fun _ mem _ => mem⟩

theorem mem_toEnvironment (v : Variables) :
    ("CLOUDFRONT_URL", v.url) ∈ v.toEnvironment ∧
      ("CLOUDFRONT_PRIVATE_KEY_FILE", v.keyFile) ∈ v.toEnvironment ∧
      ("CLOUDFRONT_KEY_PAIR_ID", v.keyPairId) ∈ v.toEnvironment ∧
      ("CLOUDFRONT_TTL_SECONDS", v.ttl) ∈ v.toEnvironment := by
  simp [toEnvironment]

theorem name_of_mem {b : String × String} (mem : b ∈ v.toEnvironment) : b.1 ∈ names :=
  List.mem_map_of_mem mem

/-- Each variable has its name for itself. -/
theorem AreIn.tells (present : v.AreIn environment) (mem : (name, value) ∈ v.toEnvironment) :
    environment.Tells name value := by
  refine ⟨present.each _ mem, fun b there same => ?_⟩
  have leads : ∀ name ∈ names, lead <+: Text.lower name.toList := by decide
  have known := present.only b there (by rw [same]; exact leads name (name_of_mem mem))
  -- no two of the names are the same but for their case
  have distinct : (v.toEnvironment.map fun b => Text.lower b.1.toList).Nodup := by
    show (names.map fun name => Text.lower name.toList).Nodup
    decide
  exact List.inj_on_of_nodup_map distinct known mem same

theorem isSilent_toEnvironment (v : Variables)
    (other : ∀ used ∈ names, Text.lower used.toList ≠ Text.lower name.toList) :
    v.toEnvironment.IsSilent name :=
  fun _ there => other _ (name_of_mem there)

/-- Nothing else is said under names that begin like this. -/
theorem AreIn.isSilent (present : v.AreIn environment) (begins : lead <+: Text.lower name.toList)
    (other : ∀ used ∈ names, Text.lower used.toList ≠ Text.lower name.toList) :
    environment.IsSilent name := by
  intro b there same
  have known := present.only b there (by rw [same]; exact begins)
  exact v.isSilent_toEnvironment other b known same

section

variable {α : Type} {read : Value → Checked α} {default : α}

/-- The service reads what a variable says. -/
theorem AreIn.field_eq (present : v.AreIn environment) (mem : (name, value) ∈ v.toEnvironment) :
    Settings.field (.ofEnvironment environment) name default read = read (.text value) := by
  rw [Settings.field, Settings.Sources.find?_ofEnvironment_of_tells (present.tells mem)]

/-- Where nothing is said the service takes the default. -/
theorem AreIn.field_eq_default (present : v.AreIn environment)
    (begins : lead <+: Text.lower name.toList)
    (other : ∀ used ∈ names, Text.lower used.toList ≠ Text.lower name.toList) :
    Settings.field (.ofEnvironment environment) name default read = .ok default := by
  rw [Settings.field,
    Settings.Sources.find?_ofEnvironment_of_isSilent (present.isSilent begins other)]

end

/-- What the settings of a service are when the variables are in its environment. -/
theorem AreIn.settings_eq {settings : Settings} (present : v.AreIn environment)
    (digits : Text.IsDigits v.ttl.toList)
    (read : Settings.ofSources (.ofEnvironment environment) = .ok settings) :
    (settings.cloudFrontUrl = if Property.addressChars v.url.toList = [] then none
        else some (.ofList (Property.addressChars v.url.toList))) ∧
      settings.ttlSeconds = Text.natOfDigits v.ttl.toList ∧
      settings.minSizeKb = Property.defaultMinSizeKb ∧
      settings.privateKeyFile = some v.keyFile ∧ settings.privateKeyPem = none ∧
      settings.keyPairId = some v.keyPairId := by
  obtain ⟨url, keyFile, keyPairId, ttl⟩ := v.mem_toEnvironment
  obtain ⟨address, -, -, -, -, -, seconds, size, file, text, pair⟩ :=
    Settings.ofSources_eq_ok_iff.mp read
  rw [present.field_eq ttl, Checked.natural_digits digits] at seconds
  rw [present.field_eq_default (by decide) (by decide)] at size text
  rw [present.field_eq keyFile] at file
  rw [present.field_eq keyPairId] at pair
  refine ⟨?_, ?_, (Except.ok.inj size).symm, (Except.ok.inj file).symm, (Except.ok.inj text).symm,
    (Except.ok.inj pair).symm⟩
  · rw [Settings.cloudFrontUrlField,
      Settings.Sources.find?_ofEnvironment_of_tells (present.tells url)] at address
    rw [← Except.ok.inj address]
    simp
  · split at seconds
    · cases seconds
    · exact (Except.ok.inj seconds).symm

/-- When there are settings: the others can be read, and the seconds are not too long. -/
theorem AreIn.exists_settings_iff (present : v.AreIn environment)
    (digits : Text.IsDigits v.ttl.toList) :
    (∃ settings, Settings.ofSources (.ofEnvironment environment) = .ok settings) ↔
      OthersReadable environment ∧
        (Text.significant v.ttl.toList).length ≤ Fault.numeralLimit := by
  obtain ⟨-, -, -, ttl⟩ := v.mem_toEnvironment
  have size : Settings.field (.ofEnvironment environment) "CLOUDFRONT_MIN_SIZE_KB"
      Settings.default.minSizeKb Checked.natural = .ok Settings.default.minSizeKb :=
    present.field_eq_default (by decide) (by decide)
  rw [Settings.exists_ofSources_iff, present.field_eq ttl, Checked.natural_digits digits, size,
    OthersReadable, ← and_assoc]
  by_cases long : Fault.numeralLimit < (Text.significant v.ttl.toList).length
  · simp [long, Nat.not_le.mpr long]
  · simp [long, Nat.not_lt.mp long]

theorem othersReadable_toEnvironment (v : Variables) : OthersReadable v.toEnvironment := by
  have silent {name : String}
      (other : ∀ used ∈ names, Text.lower used.toList ≠ Text.lower name.toList) :=
    Settings.Sources.find?_ofEnvironment_of_isSilent (v.isSilent_toEnvironment other)
  refine ⟨⟨.development, ?_⟩, ⟨true, ?_⟩⟩
  · rw [Settings.field, silent (by decide)]
    rfl
  · rw [Settings.field, silent (by decide)]
    rfl

end Variables

end Environment

end SignedLink
