import SignedLink.Proofs.Config.Settings
/-!
# SignedLink — settings from the environment

Without a settings file the settings are what the environment tells. Their names
are compared in lower case, and of several variables under one such name the
last counts, while a program that asks for a variable by its exact name gets
the first. Both agree on a variable that has its name for itself.

* `Tells`: a variable that has its name for itself.
* `find?_ofEnvironment_of_tells`, `lookup_of_tells`: what such a variable tells.
* `exists_ofSources_iff`: when the settings of an environment can be read.
-/

namespace SignedLink

variable {environment : Environment} {name value setting : String} {files : FileSystem}

namespace Environment

/-- The last variable under a name in whatever case. -/
def last? (environment : Environment) (name : String) : Option (String × String) :=
  environment.reverse.find? fun v => Text.lower v.1.toList == Text.lower name.toList

/-- A variable with its value, and no other under its name in whatever case. -/
structure Tells (environment : Environment) (name value : String) : Prop where
  there : (name, value) ∈ environment
  only : ∀ v ∈ environment, Text.lower v.1.toList = Text.lower name.toList → v = (name, value)

/-- No variable stands under a name in whatever case. -/
def IsSilent (environment : Environment) (name : String) : Prop :=
  ∀ v ∈ environment, Text.lower v.1.toList ≠ Text.lower name.toList

theorem lookup_of_tells (tells : environment.Tells name value) :
    environment.lookup name = some value := by
  cases found : environment.lookup name with
  | none =>
    have absent := List.lookup_eq_none_iff.mp found (name, value) tells.there
    simp at absent
  | some other =>
    obtain ⟨front, behind, split, -⟩ := List.lookup_eq_some_iff.mp found
    have there : (name, other) ∈ environment := by simp [split]
    rw [(Prod.mk.inj (tells.only _ there rfl)).2]

theorem last?_of_tells (tells : environment.Tells name value) :
    environment.last? name = some (name, value) := by
  cases found : environment.last? name with
  | none =>
    have absent := List.find?_eq_none.mp found (name, value) (List.mem_reverse.mpr tells.there)
    simp at absent
  | some v =>
    have there := List.mem_reverse.mp (List.mem_of_find?_eq_some found)
    have same := List.find?_some found
    rw [tells.only v there (by simpa using same)]

theorem last?_of_isSilent (silent : environment.IsSilent name) : environment.last? name = none := by
  rw [last?, List.find?_eq_none]
  intro v mem
  simpa using silent v (List.mem_reverse.mp mem)

end Environment

namespace Settings

/-! ## Sources -/

/-- The sources of settings when there is nothing but the environment. -/
def Sources.ofEnvironment (environment : Environment) : Sources :=
  ⟨.default, [], [environment.map fun v => (v.1, some v.2), []], []⟩

namespace Sources

/-- Without a settings file there is nothing but the environment. -/
theorem load_of_absent {e : FileError} (absent : files.contents fileName = .error e)
    (short : e ≠ .nameTooLong) :
    Sources.load [] environment files = .ok (.ofEnvironment environment) := by
  have text : fileText? .default files fileName = .ok none := by
    unfold fileText?
    rw [absent]
    cases e with
    | nameTooLong => exact (short rfl).elim
    | missing | notDirectory | isDirectory | denied => rfl
  have bindings : fileBindings .default environment files [.ok fileName] = .ok [] := by
    simp only [fileBindings, text]
    rfl
  have secrets : Secrets.ofSearch .default files = .ok [] := rfl
  simp only [Sources.load, Search.ofGiven_nil]
  have only : Search.default.files = [.ok fileName] := rfl
  simp only [only, bindings, secrets]
  rfl

/-- A setting is what the last variable under its name tells. -/
theorem find?_ofEnvironment (environment : Environment) (setting : String) :
    (ofEnvironment environment).find? setting =
      (environment.last? setting).map fun v => .text v.2 := by
  have bound : Search.default.bound? setting (environment.map fun v => (v.1, some v.2)) =
      (environment.last? setting).map fun v => .text v.2 := by
    have name : Search.default.lead ++ setting = setting := String.empty_append
    have counts : ((fun b : String × Option String =>
        Search.default.key b.1 == Search.default.key setting &&
          !(Search.default.skipsEmpty && b.2 == some "")) ∘ fun v : String × String =>
            (v.1, some v.2)) =
        fun v => Text.lower v.1.toList == Text.lower setting.toList := by
      funext v
      exact Bool.and_true _
    simp only [Search.bound?, name, ← List.map_reverse, List.find?_map, counts]
    rw [← Environment.last?]
    cases environment.last? setting <;> rfl
  have ungiven : Search.default.given? [] setting = none := rfl
  unfold find? ofEnvironment
  simp only [ungiven, List.findSome?_cons, bound]
  cases environment.last? setting <;> rfl

theorem find?_ofEnvironment_of_tells (tells : environment.Tells setting value) :
    (ofEnvironment environment).find? setting = some (.text value) := by
  rw [find?_ofEnvironment, Environment.last?_of_tells tells]
  rfl

theorem find?_ofEnvironment_of_isSilent (silent : environment.IsSilent setting) :
    (ofEnvironment environment).find? setting = none := by
  rw [find?_ofEnvironment, Environment.last?_of_isSilent silent]
  rfl

end Sources

/-! ## Settings -/

/-- A setting that takes every text is read from every environment. -/
theorem exists_field {α : Type} (environment : Environment) (setting : String) (default : α)
    {read : Value → Checked α} (reads : ∀ s, ∃ a, read (.text s) = .ok a) :
    ∃ a, field (.ofEnvironment environment) setting default read = .ok a := by
  rw [field, Sources.find?_ofEnvironment]
  cases environment.last? setting with
  | none => exact ⟨default, rfl⟩
  | some v => exact reads v.2

theorem exists_cloudFrontUrlField (environment : Environment) :
    ∃ address, cloudFrontUrlField (.ofEnvironment environment) = .ok address := by
  rw [cloudFrontUrlField, Sources.find?_ofEnvironment]
  cases environment.last? "CLOUDFRONT_URL" with
  | none => exact ⟨none, rfl⟩
  | some v => exact ⟨_, rfl⟩

/-- The settings that are texts are read from every environment. -/
theorem exists_texts (environment : Environment) :
    ∃ address projectName version apiPath file pem name,
      cloudFrontUrlField (.ofEnvironment environment) = .ok address ∧
      field (.ofEnvironment environment) "PROJECT_NAME" default.projectName Checked.text =
        .ok projectName ∧
      field (.ofEnvironment environment) "VERSION" default.version Checked.text = .ok version ∧
      field (.ofEnvironment environment) "API_V1_STR" default.apiPath Checked.text = .ok apiPath ∧
      field (.ofEnvironment environment) "CLOUDFRONT_PRIVATE_KEY_FILE" default.privateKeyFile
        (Checked.optional Checked.text) = .ok file ∧
      field (.ofEnvironment environment) "CLOUDFRONT_PRIVATE_KEY_PEM" default.privateKeyPem
        (Checked.optional Checked.secret) = .ok pem ∧
      field (.ofEnvironment environment) "CLOUDFRONT_KEY_PAIR_ID" default.keyPairId
        (Checked.optional Checked.text) = .ok name := by
  obtain ⟨address, readAddress⟩ := exists_cloudFrontUrlField environment
  have texts (setting default : String) : ∃ s, field (.ofEnvironment environment) setting default
      Checked.text = .ok s := exists_field environment setting default fun s => ⟨s, rfl⟩
  have optional (setting : String) : ∃ s, field (.ofEnvironment environment) setting none
      (Checked.optional Checked.text) = .ok s :=
    exists_field environment setting none fun s => ⟨some s, rfl⟩
  obtain ⟨projectName, readProjectName⟩ := texts "PROJECT_NAME" default.projectName
  obtain ⟨version, readVersion⟩ := texts "VERSION" default.version
  obtain ⟨apiPath, readApiPath⟩ := texts "API_V1_STR" default.apiPath
  obtain ⟨file, readFile⟩ := optional "CLOUDFRONT_PRIVATE_KEY_FILE"
  obtain ⟨name, readName⟩ := optional "CLOUDFRONT_KEY_PAIR_ID"
  obtain ⟨pem, readPem⟩ : ∃ s, field (.ofEnvironment environment) "CLOUDFRONT_PRIVATE_KEY_PEM"
      none (Checked.optional Checked.secret) = .ok s :=
    exists_field environment _ none fun s => ⟨some s, rfl⟩
  exact ⟨address, projectName, version, apiPath, file, pem, name, readAddress, readProjectName,
    readVersion, readApiPath, readFile, readPem, readName⟩

/-- The settings of an environment can be read when those that are no texts can be. -/
theorem exists_ofSources_iff (environment : Environment) :
    (∃ settings, ofSources (.ofEnvironment environment) = .ok settings) ↔
      (∃ stage, field (.ofEnvironment environment) "ENV" default.stage Stage.read = .ok stage) ∧
      (∃ docs, field (.ofEnvironment environment) "ENABLE_DOCS" default.docsEnabled
        Checked.boolean = .ok docs) ∧
      (∃ ttl, field (.ofEnvironment environment) "CLOUDFRONT_TTL_SECONDS" default.ttlSeconds
        Checked.natural = .ok ttl) ∧
      ∃ size, field (.ofEnvironment environment) "CLOUDFRONT_MIN_SIZE_KB" default.minSizeKb
        Checked.natural = .ok size := by
  constructor
  · rintro ⟨settings, read⟩
    obtain ⟨-, -, -, -, stage, docs, ttl, size, -⟩ := ofSources_eq_ok_iff.mp read
    exact ⟨⟨_, stage⟩, ⟨_, docs⟩, ⟨_, ttl⟩, ⟨_, size⟩⟩
  · rintro ⟨⟨stage, readStage⟩, ⟨docs, readDocs⟩, ⟨ttl, readTtl⟩, ⟨size, readSize⟩⟩
    obtain ⟨address, projectName, version, apiPath, file, pem, name, readAddress, readProjectName,
      readVersion, readApiPath, readFile, readPem, readName⟩ := exists_texts environment
    exact ⟨⟨projectName, version, apiPath, stage, docs, address, ttl, size, file, pem, name⟩,
      ofSources_eq_ok_iff.mpr ⟨readAddress, readProjectName, readVersion, readApiPath, readStage,
        readDocs, readTtl, readSize, readFile, readPem, readName⟩⟩

end Settings

end SignedLink
