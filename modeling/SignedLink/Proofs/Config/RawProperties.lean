import Mathlib.Data.List.ReduceOption
import SignedLink.Proofs.Config.Variables
/-!
# SignedLink — the environment as a bag of properties

The texts of the six variables of a signer can be put into a bag as they are.
Settings read them first: the address is brought into its form, the numbers are
parsed by the validator, and what is not set takes its default there. Reading
the bag does all of this once more, or for the first time, with the same
outcome, since an address is its own address and both parsers take a row of
digits for its number. Only settings refuse for the sake of other variables.

* `Spells`: names that are spelled in one way only.
* `ofProperties_settings`: what is read from the settings is what is read from the bag.
* `signer_of_environment`: the outcome of both, for every environment.
-/

namespace SignedLink

variable {environment : Environment} {files : FileSystem}

/-! ## The bag -/

namespace Environment

/-- The variables of a signer. -/
def signerNames : List String :=
  ["CLOUDFRONT_URL", "CLOUDFRONT_TTL_SECONDS", "CLOUDFRONT_MIN_SIZE_KB",
    "CLOUDFRONT_PRIVATE_KEY_FILE", "CLOUDFRONT_PRIVATE_KEY_PEM", "CLOUDFRONT_KEY_PAIR_ID"]

/-- The texts of these variables as they are, in a bag of properties. -/
def rawProperties (environment : Environment) : Fields :=
  let text (name : String) := Value.ofText? (environment.lookup name)
  [(Property.cloudFrontUrl, text "CLOUDFRONT_URL"), (Property.ttl, text "CLOUDFRONT_TTL_SECONDS"),
    (Property.minSize, text "CLOUDFRONT_MIN_SIZE_KB"),
    (Property.privateKeyFile, text "CLOUDFRONT_PRIVATE_KEY_FILE"),
    (Property.privateKey, text "CLOUDFRONT_PRIVATE_KEY_PEM"),
    (Property.keyPairId, text "CLOUDFRONT_KEY_PAIR_ID")]

/-- No variable is there twice, and these names are in no other spelling. -/
structure Spells (environment : Environment) (names : List String) : Prop where
  distinct : (environment.map Prod.fst).Nodup
  spelled : ∀ b ∈ environment, ∀ name ∈ names,
    Text.lower b.1.toList = Text.lower name.toList → b.1 = name

/-- A variable that is not there, or holds not too many digits and nothing else. -/
def HoldsNumeral (environment : Environment) (name : String) : Prop :=
  ∀ s ∈ environment.lookup name,
    Text.IsDigits s.toList ∧ s.toList.length ≤ Fault.numeralLimit

/-- What a variable that is spelled in one way says to the settings. -/
theorem Spells.find?_eq {names : List String} {name : String} (spells : environment.Spells names)
    (mem : name ∈ names) :
    (Settings.Sources.ofEnvironment environment).find? name =
      (environment.lookup name).map .text := by
  cases found : environment.lookup name with
  | none =>
    refine Settings.Sources.find?_ofEnvironment_of_isSilent ?_
    intro b there same
    have absent := List.lookup_eq_none_iff.mp found b there
    rw [spells.spelled b there name mem same] at absent
    simp at absent
  | some value =>
    obtain ⟨front, behind, split, -⟩ := List.lookup_eq_some_iff.mp found
    have there : (name, value) ∈ environment := by simp [split]
    refine Settings.Sources.find?_ofEnvironment_of_tells ⟨there, ?_⟩
    intro b mem' same
    exact List.inj_on_of_nodup_map spells.distinct mem' there (spells.spelled b mem' name mem same)

theorem Spells.field_eq {α : Type} {default : α} {read : Value → Checked α} {names : List String}
    {name : String} (spells : environment.Spells names) (mem : name ∈ names) :
    Settings.field (.ofEnvironment environment) name default read =
      match environment.lookup name with
      | some s => read (.text s)
      | none => .ok default := by
  rw [Settings.field, spells.find?_eq mem]
  cases environment.lookup name <;> rfl

end Environment

/-! ## One property -/

namespace Property

/-- The form in which settings hold an address. -/
def settledAddress (s : String) : Option String :=
  if addressChars s.toList = [] then none else some (.ofList (addressChars s.toList))

theorem requiredText_text (name s : String) :
    requiredText name (.text s) =
      if Text.trimChars s.toList = [] then .error (.required name) else .ok (Text.trim s) := by
  have blank : (Text.trim s).isEmpty = decide (Text.trimChars s.toList = []) := by
    rw [Bool.eq_iff_iff, String.isEmpty_iff, decide_eq_true_eq, ← String.toList_inj, Text.trim,
      String.toList_ofList]
    rfl
  simp only [requiredText, Value.isNull, Bool.false_eq_true, if_false, Value.told_text, blank,
    decide_eq_true_eq]

/-- Reading an address that was settled is settling the one that was read. -/
theorem requiredText_settledAddress (name : String) (s : Option String) :
    requiredText name (Value.ofText? (s.bind settledAddress)) =
      (requiredText name (Value.ofText? s)).map fun s => .ofList (addressChars s.toList) := by
  cases s with
  | none => rfl
  | some s =>
    show requiredText name (Value.ofText? (settledAddress s)) = (requiredText name (.text s)).map _
    rw [requiredText_text]
    by_cases blank : Text.trimChars s.toList = []
    · rw [settledAddress, if_pos (addressChars_eq_nil_iff.mpr blank), if_pos blank]
      rfl
    · have nonempty : addressChars s.toList ≠ [] := fun empty =>
        blank (addressChars_eq_nil_iff.mp empty)
      have kept : Text.trimChars (addressChars s.toList) = addressChars s.toList :=
        (SignerConfiguration.isAddress_addressChars nonempty).trimmed
      have same : addressChars (Text.trimChars s.toList) = addressChars s.toList := by
        rw [addressChars, Text.trimChars_idem, ← addressChars]
      rw [settledAddress, if_neg nonempty, if_neg blank]
      show requiredText name (.text _) = .ok (.ofList (addressChars (Text.trim s).toList))
      rw [requiredText_text, Text.trim, Text.trim, String.toList_ofList, String.toList_ofList, kept,
        same, if_neg nonempty]

/-- A row of digits is read as the number that the settings hold. -/
theorem wholeNumber_numeral {name : String} {default : Int} (nonneg : 0 ≤ default)
    {s : Option String}
    (numeral : ∀ text ∈ s, Text.IsDigits text.toList ∧ text.toList.length ≤ Fault.numeralLimit) :
    wholeNumber name default (.integer ((s.map fun text =>
        (Text.natOfDigits text.toList : Int)).getD default)) =
      wholeNumber name default (Value.ofText? s) := by
  cases s with
  | none => exact wholeNumber_integer nonneg
  | some text =>
    obtain ⟨digits, short⟩ := numeral text rfl
    have nonneg : ¬ (Text.natOfDigits text.toList : Int) < 0 :=
      Int.not_lt.mpr (Int.natCast_nonneg _)
    have set : isUnset (.text text) = false := by
      have whole : Text.trimChars text.toList = text.toList :=
        digits.trimBy_eq fun c => Text.not_isBlank_of_isAsciiDigit
      rw [isUnset, whole]
      simpa using digits.nonempty
    have number : (Value.text text).toInteger = .ok (Text.natOfDigits text.toList) := by
      rw [Value.toInteger, Numeral.read_digits _ digits, if_neg (Nat.not_lt.mpr short)]
    show wholeNumber name default (.integer (Text.natOfDigits text.toList)) = _
    rw [wholeNumber_integer (Int.natCast_nonneg _)]
    show _ = wholeNumber name default (.text text)
    simp only [wholeNumber, set, number, nonneg, Bool.false_eq_true, if_false]

end Property

namespace Settings

/-! ## Settings of an environment -/

open Environment

/-- What the validator reads from a numeral, or the default. -/
theorem field_of_numeral {name : String} {default : Int} (spells : environment.Spells signerNames)
    (mem : name ∈ signerNames) (numeral : environment.HoldsNumeral name) :
    field (.ofEnvironment environment) name default Checked.natural =
      .ok (((environment.lookup name).map fun s => (Text.natOfDigits s.toList : Int)).getD
        default) := by
  rw [spells.field_eq mem]
  cases held : environment.lookup name with
  | none => rfl
  | some text =>
    obtain ⟨digits, short⟩ := numeral text held
    have significant : (Text.significant text.toList).length ≤ Fault.numeralLimit :=
      (Text.length_significant_le digits.nonempty).trans short
    have natural := Checked.natural_digits digits
    rwa [if_neg (Nat.not_lt.mpr significant)] at natural

theorem eq_of_optional {s read : Option String}
    (reading : (match s with
      | some s => Checked.optional Checked.text (.text s)
      | none => .ok none) = .ok read) :
    read = s := by
  cases s <;> exact (Except.ok.inj reading).symm

section

variable {settings : Settings} (spells : environment.Spells signerNames)
  (ttl : environment.HoldsNumeral "CLOUDFRONT_TTL_SECONDS")
  (size : environment.HoldsNumeral "CLOUDFRONT_MIN_SIZE_KB")
include spells ttl size

/-- What the settings hold of the variables. -/
theorem signer_of_spells
    (read : ofSources (.ofEnvironment environment) = .ok settings) :
    settings.cloudFrontUrl = (environment.lookup "CLOUDFRONT_URL").bind Property.settledAddress ∧
    settings.ttlSeconds = ((environment.lookup "CLOUDFRONT_TTL_SECONDS").map fun s =>
      (Text.natOfDigits s.toList : Int)).getD Property.defaultTtlSeconds ∧
    settings.minSizeKb = ((environment.lookup "CLOUDFRONT_MIN_SIZE_KB").map fun s =>
      (Text.natOfDigits s.toList : Int)).getD Property.defaultMinSizeKb ∧
    settings.privateKeyFile = environment.lookup "CLOUDFRONT_PRIVATE_KEY_FILE" ∧
    settings.privateKeyPem = environment.lookup "CLOUDFRONT_PRIVATE_KEY_PEM" ∧
    settings.keyPairId = environment.lookup "CLOUDFRONT_KEY_PAIR_ID" := by
  obtain ⟨url, -, -, -, -, -, seconds, kilobytes, file, pem, pair⟩ := ofSources_eq_ok_iff.mp read
  rw [field_of_numeral spells (by decide) ttl] at seconds
  rw [field_of_numeral spells (by decide) size] at kilobytes
  rw [spells.field_eq (by decide)] at file pem pair
  rw [cloudFrontUrlField, spells.find?_eq (by decide)] at url
  refine ⟨?_, (Except.ok.inj seconds).symm, (Except.ok.inj kilobytes).symm, eq_of_optional file,
    eq_of_optional pem, eq_of_optional pair⟩
  cases found : environment.lookup "CLOUDFRONT_URL" with
  | none =>
    rw [found] at url
    exact (Except.ok.inj url).symm
  | some s =>
    rw [found] at url
    rw [← Except.ok.inj url]
    simp [Property.settledAddress]

/-- What is read from the settings is what is read from the bag, with the address settled. -/
theorem ofProperties_settings
    (read : ofSources (.ofEnvironment environment) = .ok settings) :
    Options.ofProperties settings.properties =
      (Options.ofProperties environment.rawProperties).map fun options =>
        { options with baseUrl := .ofList (Property.addressChars options.baseUrl.toList) } := by
  obtain ⟨url, seconds, kilobytes, file, pem, pair⟩ := signer_of_spells spells ttl size read
  refine @Options.ofProperties_map _ _ (fun s => .ofList (Property.addressChars s.toList))
    (fun source => source) ?_ ⟨?_, ?_, ?_⟩ ?_
  · show Property.requiredText _ (Value.ofText? settings.cloudFrontUrl) = _
    rw [url]
    exact Property.requiredText_settledAddress _ _
  · show Property.requiredText _ (Value.ofText? settings.keyPairId) = _
    rw [pair]
    rfl
  · show Property.wholeNumber _ _ (.integer settings.ttlSeconds) = _
    rw [seconds]
    exact Property.wholeNumber_numeral (by decide) ttl
  · show Property.wholeNumber _ _ (.integer settings.minSizeKb) = _
    rw [kilobytes]
    exact Property.wholeNumber_numeral (by decide) size
  · -- the file and the text of the key are looked up in the same place
    have sameFile : Fields.get settings.properties Property.privateKeyFile =
        Fields.get environment.rawProperties Property.privateKeyFile := congrArg Value.ofText? file
    have sameText : Fields.get settings.properties Property.privateKey =
        Fields.get environment.rawProperties Property.privateKey := congrArg Value.ofText? pem
    have same : Options.keySourceOf settings.properties =
        Options.keySourceOf environment.rawProperties := by
      rw [Options.keySourceOf, sameFile, sameText, ← Options.keySourceOf]
    rw [same]
    cases Options.keySourceOf environment.rawProperties <;> rfl

theorem signer_eq_ofProperties
    (read : ofSources (.ofEnvironment environment) = .ok settings) :
    settings.signer files = SignerConfiguration.ofProperties files environment.rawProperties := by
  have same := ofProperties_settings spells ttl size read
  rw [signer, SignerConfiguration.ofProperties, SignerConfiguration.ofProperties, same]
  cases raw : Options.ofProperties environment.rawProperties with
  | error e => rfl
  | ok options =>
    rw [raw] at same
    -- the options are the same up to the address, of which both make the same one
    refine SignerConfiguration.ofOptions_congr (Options.isNormal_of_ofProperties raw)
      (Options.isNormal_of_ofProperties same) rfl ?_ files
    intro key
    simp only [Options.configuration, String.toList_ofList, Property.addressChars_idem]

/-- When the other settings cannot be read, the refusal names them and nothing else. -/
theorem ofSources_of_unreadable (unreadable : ¬ environment.OthersReadable) :
    ∃ errors, ofSources (.ofEnvironment environment) = .error (.invalid errors) ∧ errors ≠ [] ∧
      ∀ e ∈ errors, e.place = [.text "ENV"] ∨ e.place = [.text "ENABLE_DOCS"] := by
  -- every other field reads its text, so each of these two is refused or is read
  obtain ⟨address, projectName, version, apiPath, file, pem, name, readAddress, readProjectName,
    readVersion, readApiPath, readFile, readPem, readName⟩ := exists_texts environment
  have readTtl := @field_of_numeral _ _ default.ttlSeconds spells (by decide) ttl
  have readSize := @field_of_numeral _ _ default.minSizeKb spells (by decide) size
  simp only [ofSources, readAddress, readProjectName, readVersion, readApiPath, readFile, readPem,
    readName, readTtl, readSize]
  cases stage : field (.ofEnvironment environment) "ENV" default.stage Stage.read with
  | ok there =>
    cases docs : field (.ofEnvironment environment) "ENABLE_DOCS" default.docsEnabled
        Checked.boolean with
    | ok also => exact (unreadable ⟨⟨there, stage⟩, also, docs⟩).elim
    | error violation =>
      refine ⟨_, rfl, List.cons_ne_nil _ _, ?_⟩
      simp [FieldError.ofReading?]
  | error violation =>
    cases field (.ofEnvironment environment) "ENABLE_DOCS" default.docsEnabled
        Checked.boolean with
    | ok docs =>
      refine ⟨_, rfl, List.cons_ne_nil _ _, ?_⟩
      simp [FieldError.ofReading?]
    | error other =>
      refine ⟨_, rfl, List.cons_ne_nil _ _, ?_⟩
      simp [FieldError.ofReading?]

end

/-! ## Both outcomes -/

/-- Whoever reads the variables of a signer through settings has the same outcome as whoever puts
them into a bag, as long as there are settings: they are refused for the sake of the stage and of
the pages, which a bag does not look at, and for nothing else. -/
theorem signer_of_environment {e : FileError} (spells : environment.Spells signerNames)
    (ttl : environment.HoldsNumeral "CLOUDFRONT_TTL_SECONDS")
    (size : environment.HoldsNumeral "CLOUDFRONT_MIN_SIZE_KB")
    (absent : files.contents fileName = .error e) (short : e ≠ .nameTooLong) :
    (environment.OthersReadable →
      ∃ settings, load [] environment files = .ok settings ∧
        settings.signer files =
          SignerConfiguration.ofProperties files environment.rawProperties) ∧
    (¬ environment.OthersReadable →
      ∃ errors, load [] environment files = .error (.invalid errors) ∧ errors ≠ [] ∧
        ∀ e ∈ errors, e.place = [.text "ENV"] ∨ e.place = [.text "ENABLE_DOCS"]) := by
  have sources : load [] environment files = ofSources (.ofEnvironment environment) := by
    rw [load, Sources.load_of_absent absent short]
  rw [sources]
  refine ⟨?_, ofSources_of_unreadable spells ttl size⟩
  rintro ⟨stage, docs⟩
  obtain ⟨settings, read⟩ := (exists_ofSources_iff environment).mpr ⟨stage, docs,
    ⟨_, field_of_numeral spells (by decide) ttl⟩, ⟨_, field_of_numeral spells (by decide) size⟩⟩
  exact ⟨settings, read, signer_eq_ofProperties spells ttl size read⟩

/-- An environment with the key of two Mersenne primes, for a stage. -/
def mersenneEnvironment (stage : String) : Environment :=
  [("ENV", stage), ("CLOUDFRONT_URL", " https://files.example"), ("CLOUDFRONT_TTL_SECONDS", "060"),
    ("CLOUDFRONT_PRIVATE_KEY_PEM", Options.mersennePem), ("CLOUDFRONT_KEY_PAIR_ID", "K1")]

theorem holdsNumeral_mersenneEnvironment (stage : String) :
    (mersenneEnvironment stage).HoldsNumeral "CLOUDFRONT_TTL_SECONDS" := by
  rintro _ ⟨⟩
  exact ⟨⟨by decide, List.all_eq_true.mp (by decide)⟩, by decide⟩

theorem ofProperties_mersenneEnvironment (stage : String) (files : FileSystem) :
    SignerConfiguration.ofProperties files (mersenneEnvironment stage).rawProperties =
      .ok (Options.configuration ⟨"https://files.example", "K1", 60, 100,
        .inline (Text.trim Options.mersennePem)⟩ .mersenneKey) := by
  have url : Property.requiredText Property.cloudFrontUrl (.text " https://files.example") =
      .ok "https://files.example" := rfl
  have name : Property.requiredText Property.keyPairId (.text "K1") = .ok "K1" := rfl
  have ttl : Property.wholeNumber Property.ttl Property.defaultTtlSeconds
      (Value.ofText? ((mersenneEnvironment stage).lookup "CLOUDFRONT_TTL_SECONDS")) = .ok 60 := by
    rw [← Property.wholeNumber_numeral (by decide) (holdsNumeral_mersenneEnvironment stage)]
    have nonneg : (0 : Int) ≤ 60 := by decide
    exact Property.wholeNumber_integer nonneg
  refine SignerConfiguration.ofProperties_eq_ok_iff.mpr
    ⟨_, Text.trim Options.mersennePem, .mersenneKey, ?_, rfl, ?_, rfl⟩
  · exact Options.ofProperties_eq_ok_iff.mpr ⟨url, name, ttl, rfl, rfl⟩
  · rw [Key.normalize_trim, SignerConfiguration.load_mersennePem]

/-- The names of the variables that decide whether there are settings are in one spelling there. -/
theorem spells_mersenneEnvironment (stage : String) :
    (mersenneEnvironment stage).Spells signerNames ∧
      (mersenneEnvironment stage).Spells ["ENV", "ENABLE_DOCS"] := by
  have names : (mersenneEnvironment stage).map Prod.fst = ["ENV", "CLOUDFRONT_URL",
    "CLOUDFRONT_TTL_SECONDS", "CLOUDFRONT_PRIVATE_KEY_PEM", "CLOUDFRONT_KEY_PAIR_ID"] := rfl
  have distinct : ((mersenneEnvironment stage).map Prod.fst).Nodup := by
    rw [names]
    decide
  have spelled : ∀ b ∈ (mersenneEnvironment stage).map Prod.fst,
      ∀ name ∈ signerNames ++ ["ENV", "ENABLE_DOCS"],
        Text.lower b.toList = Text.lower name.toList → b = name := by
    rw [names]
    decide
  exact ⟨⟨distinct, fun b mem name known =>
      spelled b.1 (List.mem_map_of_mem mem) name (List.mem_append_left _ known)⟩,
    distinct, fun b mem name known =>
      spelled b.1 (List.mem_map_of_mem mem) name (List.mem_append_right _ known)⟩

/-- In production both give the same configuration. -/
theorem signer_of_environment_mersenne :
    ∃ settings config, load [] (mersenneEnvironment "production") .empty = .ok settings ∧
      settings.signer .empty = .ok config ∧
      SignerConfiguration.ofProperties .empty (mersenneEnvironment "production").rawProperties =
        .ok config := by
  obtain ⟨spells, others⟩ := spells_mersenneEnvironment "production"
  have ttl := holdsNumeral_mersenneEnvironment "production"
  have size : (mersenneEnvironment "production").HoldsNumeral "CLOUDFRONT_MIN_SIZE_KB" := nofun
  have readable : (mersenneEnvironment "production").OthersReadable :=
    ⟨⟨.production, others.field_eq List.mem_cons_self⟩,
      true, others.field_eq (List.mem_cons_of_mem _ List.mem_cons_self)⟩
  obtain ⟨together, -⟩ := signer_of_environment spells ttl size
    (rfl : FileSystem.empty.contents fileName = .error .missing) (by decide)
  obtain ⟨settings, read, same⟩ := together readable
  have made := ofProperties_mersenneEnvironment "production" .empty
  exact ⟨settings, _, read, same.trans made, made⟩

/-- At a stage that is none there are no settings, and the bag gives the same configuration. -/
theorem not_signer_of_environment :
    (∀ settings, load [] (mersenneEnvironment "test") .empty ≠ .ok settings) ∧
      ∃ config, SignerConfiguration.ofProperties .empty
        (mersenneEnvironment "test").rawProperties = .ok config := by
  refine ⟨?_, _, ofProperties_mersenneEnvironment "test" .empty⟩
  intro settings read
  have absent : FileSystem.empty.contents fileName = .error .missing := rfl
  rw [load, Sources.load_of_absent absent (by decide)] at read
  obtain ⟨-, -, -, -, stage, -⟩ := ofSources_eq_ok_iff.mp read
  have refused : field (.ofEnvironment (mersenneEnvironment "test")) "ENV" default.stage
      Stage.read = .error .stage :=
    (spells_mersenneEnvironment "test").2.field_eq List.mem_cons_self
  cases refused.symm.trans stage

end Settings

end SignedLink
