import SignedLink.CommandLine.Run
import SignedLink.Proofs.CommandLine.Arguments
import SignedLink.Proofs.Config.KeySource
import SignedLink.Proofs.Config.Variables
import SignedLink.Proofs.Signing.Links
/-!
# SignedLink — the program signs like the service

The program and the service read the same four variables, and from then on they
go the same way to a link. They do not read them alike. The service trims the
path of the key file and the name of the key pair, and passes over the zeros in
front of the seconds; the program takes all three as they are. So it signs like
the service when they are given in the form in which the service reads them.

* `exits_iff_links`: what the program makes of its variables.
* `signs_iff_links`: what the service makes of them.
* `exits_iff_signs`: when the program signs like the service.
-/

namespace SignedLink

namespace CommandLine

open Environment

variable {environment : Environment} {files : FileSystem} {now : Value} {identity : String}
  {arguments : Arguments} {v : Variables} {result : Result}

/-! ## The program -/

/-- A run with all options given prints the link that follows from them, or it fails. -/
theorem exits_iff_links_of_request {r : Request} {ttl : Int} (seconds : r.ttl = .number ttl)
    (nonneg : 0 ≤ ttl) :
    (r.isComplete = true ∧ sign files now r = .ok result ∧ result.exitCode = 0) ↔
      ∃ u, Links files now r.identity r.url r.keyFile r.keyPairId ttl u ∧
        result = .printed u := by
  have made {config : SignerConfiguration} : configuration files r = .ok config ↔
      ∃ pem, files.readText r.keyFile = .ok pem ∧
        SignerConfiguration.create (.text r.url) (.integer ttl) (.integer 0) (.text pem)
          (.text r.keyPairId) = .ok config := by
    rw [configuration, seconds, Except.bind_eq_ok_iff]
    simp only [Options.keyText_file_eq_ok_iff]
    rfl
  constructor
  · rintro ⟨complete, ran, success⟩
    have filed : r.keyFile ≠ "" := by
      simp only [Request.isComplete, Bool.and_eq_true, Bool.not_eq_true',
        String.isEmpty_eq_false_iff] at complete
      exact complete.1.2
    cases configured : configuration files r with
    | error e =>
      unfold sign at ran
      rw [configured] at ran
      cases e <;> cases ran <;> cases success
    | ok config =>
      obtain ⟨pem, read, created⟩ := made.mp configured
      obtain ⟨addressed, named, key, loaded, rfl⟩ :=
        (SignerConfiguration.create_eq_ok_iff nonneg (Int.le_refl 0)).mp created
      unfold sign at ran
      rw [configured] at ran
      dsimp only at ran
      split at ran
      · -- a signing that fails is told with another exit code
        rw [signingResult_failed ran] at success
        cases success
      · next link signed =>
        cases ran
        exact ⟨link.url, .signed addressed filed named read loaded signed, rfl⟩
  · rintro ⟨u, ⟨addressed, filed, named, read, loaded, signed⟩, rfl⟩
    have given : r.url ≠ "" := by
      intro empty
      rw [empty] at addressed
      exact addressed rfl
    have configured := made.mpr ⟨_, read, (SignerConfiguration.create_eq_ok_iff nonneg
      (Int.le_refl 0)).mpr ⟨addressed, named, _, loaded, rfl⟩⟩
    refine ⟨?_, ?_, rfl⟩
    · simp [Request.isComplete, given, filed, named]
    · simp only [sign, configured, signed]

/-- What the program makes of its variables, which it takes as they are. -/
theorem exits_iff_links (present : v.AreIn environment) (digits : Text.IsDigits v.ttl.toList)
    (parsed : Arguments.parse [identity] = .ok arguments) :
    (run [identity] environment files now = .ok result ∧ result.exitCode = 0) ↔
      v.ttl.toList.length ≤ Fault.numeralLimit ∧
        ∃ u, Links files now identity v.url v.keyFile v.keyPairId
          (Text.natOfDigits v.ttl.toList) u ∧ result = .printed u := by
  have looked {name value : String} (mem : (name, value) ∈ v.toEnvironment) :
      environment.lookup name = some value := lookup_of_tells (present.tells mem)
  obtain ⟨url, keyFile, keyPairId, ttl⟩ := v.mem_toEnvironment
  have seconds : environmentTtl environment =
      if Fault.numeralLimit < v.ttl.toList.length then .error (.longNumeral v.ttl.toList.length)
      else .ok (Text.natOfDigits v.ttl.toList) := by
    rw [environmentTtl, looked ttl, Option.getD_some, Value.toInteger, Numeral.read_digits _ digits]
  rw [run, seconds, parsed, Arguments.parse_single parsed]
  by_cases long : Fault.numeralLimit < v.ttl.toList.length
  · -- the seconds are read first, and nothing comes after this error
    have beyond : ¬ v.ttl.toList.length ≤ Fault.numeralLimit := Nat.not_le.mpr long
    simp [long, beyond]
  · have asked : Request.of ⟨identity, none, none, none, none⟩ environment
        (Text.natOfDigits v.ttl.toList) =
        ⟨identity, v.url, v.keyFile, v.keyPairId, .number (Text.natOfDigits v.ttl.toList)⟩ := by
      simp [Request.of, looked url, looked keyFile, looked keyPairId]
    have links := @exits_iff_links_of_request files now result
      ⟨identity, v.url, v.keyFile, v.keyPairId, .number (Text.natOfDigits v.ttl.toList)⟩ _ rfl
      (Int.natCast_nonneg _)
    rw [if_neg long]
    dsimp only
    rw [asked, ← links]
    split
    · next complete => simp [complete, Nat.not_lt.mp long]
    · next incomplete =>
      simp only [incomplete, Bool.false_eq_true, false_and, and_false, iff_false, not_and]
      rintro ⟨⟩
      decide

/-! ## The service -/

/-- A service in an environment has settings and a signer, and the signer signs an address. -/
def Signs (environment : Environment) (files : FileSystem) (now : Value) (identity u : String) :
    Prop :=
  ∃ settings config link, Settings.load [] environment files = .ok settings ∧
    settings.signer files = .ok config ∧
    Link.sign (.text identity) config.baseUrl config.keyPairId config.key
      (.integer config.ttlSeconds) now = .ok link ∧ link.url = u

/-- What the service makes of the variables: it trims two of them, and passes over the zeros in
front of the third. -/
theorem signs_iff_links {u : String} {e : FileError} (present : v.AreIn environment)
    (digits : Text.IsDigits v.ttl.toList) (absent : files.contents Settings.fileName = .error e)
    (short : e ≠ .nameTooLong) :
    Signs environment files now identity u ↔
      OthersReadable environment ∧
        (Text.significant v.ttl.toList).length ≤ Fault.numeralLimit ∧
        Links files now identity v.url (Text.trim v.keyFile) (Text.trim v.keyPairId)
          (Text.natOfDigits v.ttl.toList) u := by
  have loads {settings : Settings} : Settings.load [] environment files = .ok settings ↔
      Settings.ofSources (.ofEnvironment environment) = .ok settings := by
    rw [Settings.load, Settings.Sources.load_of_absent absent short]
  have signers {settings : Settings} {config : SignerConfiguration}
      (read : Settings.ofSources (.ofEnvironment environment) = .ok settings) :
      settings.signer files = .ok config ↔
        Property.addressChars v.url.toList ≠ [] ∧ Text.trim v.keyFile ≠ "" ∧
          Text.trim v.keyPairId ≠ "" ∧
          ∃ pem key, files.readText (Text.trim v.keyFile) = .ok pem ∧
            Key.load (Key.normalize (some pem)) = .ok key ∧
            config = ⟨.ofList (Property.addressChars v.url.toList),
              Text.natOfDigits v.ttl.toList, settings.minSizeKb * 1024, Text.trim v.keyPairId,
              .rsa key⟩ := by
    obtain ⟨address, ttl, size, file, text, pair⟩ := present.settings_eq digits read
    have ttl_nonneg : 0 ≤ settings.ttlSeconds := by
      rw [ttl]
      exact Int.natCast_nonneg _
    have size_nonneg : 0 ≤ settings.minSizeKb := by
      rw [size]
      decide
    rw [Settings.signer_eq_ok_iff address ttl_nonneg size_nonneg file text pair, ttl]
  constructor
  · rintro ⟨settings, config, link, load, signer, signed, rfl⟩
    have read := loads.mp load
    obtain ⟨others, seconds⟩ := (present.exists_settings_iff digits).mp ⟨settings, read⟩
    obtain ⟨addressed, filed, named, pem, key, text, loaded, rfl⟩ := (signers read).mp signer
    exact ⟨others, seconds, .signed addressed filed named text loaded signed⟩
  · rintro ⟨others, seconds, ⟨addressed, filed, named, text, loaded, signed⟩⟩
    obtain ⟨settings, read⟩ := (present.exists_settings_iff digits).mpr ⟨others, seconds⟩
    exact ⟨settings, _, _, loads.mpr read,
      (signers read).mpr ⟨addressed, filed, named, _, _, text, loaded, rfl⟩, signed, rfl⟩

/-! ## Both -/

/-- When the program signs like the service: its run on the variables in the form in which the
service reads them ends with success exactly when the settings that have nothing to do with links
can be read and the service signs an address, and then it prints that address. Variables that are in
this form already are used as they are. -/
theorem exits_iff_signs {e : FileError} (present : v.AreIn environment)
    (digits : Text.IsDigits v.ttl.toList) (absent : files.contents Settings.fileName = .error e)
    (short : e ≠ .nameTooLong) (parsed : Arguments.parse [identity] = .ok arguments) :
    let signed := ∃ u, Signs environment files now identity u ∧ result = .printed u
    let exits (environment : Environment) :=
      run [identity] environment files now = .ok result ∧ result.exitCode = 0
    (signed ↔ OthersReadable environment ∧ exits v.tidied.toEnvironment) ∧
      (v.tidied = v → (signed ↔ OthersReadable environment ∧ exits environment)) := by
  intro signed exits
  have kept : Text.IsDigits v.tidied.ttl.toList := by
    rw [Variables.tidied, String.toList_ofList]
    exact Text.isDigits_significant digits.digits
  have service : signed ↔ OthersReadable environment ∧
      (Text.significant v.ttl.toList).length ≤ Fault.numeralLimit ∧
        ∃ u, Links files now identity v.url (Text.trim v.keyFile) (Text.trim v.keyPairId)
          (Text.natOfDigits v.ttl.toList) u ∧ result = .printed u := by
    simp only [signed, signs_iff_links present digits absent short]
    constructor
    · rintro ⟨u, ⟨others, seconds, links⟩, is⟩
      exact ⟨others, seconds, u, links, is⟩
    · rintro ⟨others, seconds, u, links, is⟩
      exact ⟨u, ⟨others, seconds, links⟩, is⟩
  have program {environment : Environment} (present : v.tidied.AreIn environment) :
      exits environment ↔ (Text.significant v.ttl.toList).length ≤ Fault.numeralLimit ∧
        ∃ u, Links files now identity v.url (Text.trim v.keyFile) (Text.trim v.keyPairId)
          (Text.natOfDigits v.ttl.toList) u ∧ result = .printed u := by
    have ran := @exits_iff_links _ files now _ _ _ result present kept parsed
    simpa only [Variables.tidied, String.toList_ofList, Text.natOfDigits_significant] using ran
  constructor
  · rw [service, program (Variables.areIn_toEnvironment _)]
  · intro tidy
    rw [service, program (by rw [tidy]; exact present)]

/-! ## A key file -/

/-- Files with the key of two Mersenne primes in one of them. -/
def mersenneFiles : FileSystem where
  contents path :=
    if path = "key.pem" then .ok (Text.Utf8.encode Options.mersennePem.toList) else .error .missing

/-- The variables for this key, under some name of a key pair. -/
def mersenneVariables (keyPairId : String) : Variables :=
  ⟨"https://files.example", "key.pem", keyPairId, "60"⟩

theorem isDigits_sixty : Text.IsDigits "60".toList :=
  ⟨by decide, List.all_eq_true.mp (by decide)⟩

theorem readText_mersenneFiles : mersenneFiles.readText "key.pem" = .ok Options.mersennePem := by
  let isPlain (c : Char) : Bool := c ≠ '\r'
  have marks : (Key.beginMarker ++ '\n' :: Key.endMarker).all isPlain = true := by decide
  have body : Base64.characters.all isPlain = true := by decide
  have plain : ∀ c ∈ Options.mersennePem.toList, isPlain c = true := by
    rw [List.all_eq_true] at marks body
    intro c mem
    rw [Options.mersennePem, String.toList_ofList, Key.armour] at mem
    simp only [List.mem_append, List.mem_cons] at mem
    rcases mem with (mem | rfl | mem) | rfl | mem
    · exact marks c (by simp [mem])
    · decide
    · exact body c (Base64.mem_characters mem)
    · decide
    · exact marks c (by simp [mem])
  have found : mersenneFiles.contents "key.pem" =
      .ok (Text.Utf8.encode Options.mersennePem.toList) := by
    simp only [mersenneFiles, if_true]
  have noReturn : '\r' ∉ Options.mersennePem.toList := fun mem =>
    of_decide_eq_true (plain _ mem) rfl
  rw [FileSystem.readText_encode (by decide) found, Text.unifyNewlines_eq_self noReturn,
    String.ofList_toList]

/-- An address follows from this key under every name of a key pair. -/
theorem exists_links_mersenneFiles {keyPairId : String} (named : keyPairId ≠ "") :
    ∃ u, Links mersenneFiles (.integer 0) "abcd" "https://files.example" "key.pem" keyPairId 60
      u := by
  obtain ⟨link, signature, signed, -⟩ :=
    Link.exists_issued "abcd" (.ofList (Property.addressChars "https://files.example".toList))
      keyPairId .mersenneKey 60 (by decide) (by rw [Rsa.PrivateKey.size_mersenneKey]; decide)
      (.integer 0) (by decide)
  exact ⟨link.url, .signed (by decide) (by decide) named readText_mersenneFiles
    SignerConfiguration.load_mersennePem signed⟩

/-- The program signs with this key under every name of a key pair. -/
theorem exits_mersenneVariables {keyPairId : String} (named : keyPairId ≠ "") :
    ∃ u, Links mersenneFiles (.integer 0) "abcd" "https://files.example" "key.pem" keyPairId 60 u ∧
      run ["abcd"] (mersenneVariables keyPairId).toEnvironment mersenneFiles (.integer 0) =
        .ok (.printed u) := by
  obtain ⟨u, links⟩ := exists_links_mersenneFiles named
  have short : "60".toList.length ≤ Fault.numeralLimit := by decide
  have number : (60 : Int) = Text.natOfDigits "60".toList := by decide
  rw [number] at links
  have ran := (@exits_iff_links _ mersenneFiles (.integer 0) "abcd" _ (mersenneVariables keyPairId)
    (.printed u) (Variables.areIn_toEnvironment _) isDigits_sixty rfl).mpr ⟨short, u, links, rfl⟩
  exact ⟨u, number ▸ links, ran.1⟩

/-- A run of the program with a key file, and the address that the service signs. -/
theorem exits_iff_signs_mersenne :
    ∃ u, run ["abcd"] (mersenneVariables "K1").toEnvironment mersenneFiles (.integer 0) =
        .ok (.printed u) ∧
      ∃ v, Signs (mersenneVariables "K1").toEnvironment mersenneFiles (.integer 0) "abcd" v ∧
        Result.printed u = .printed v := by
  obtain ⟨u, -, ran⟩ := exits_mersenneVariables (by decide : "K1" ≠ "")
  obtain ⟨-, same⟩ := @exits_iff_signs _ mersenneFiles (.integer 0) "abcd" _
    (mersenneVariables "K1") (.printed u) .missing (Variables.areIn_toEnvironment _)
    isDigits_sixty rfl (by decide) rfl
  exact ⟨u, ran, (same rfl).mpr ⟨Variables.othersReadable_toEnvironment _, ran, rfl⟩⟩

/-- With a blank in front of the name of the key pair the program does not sign like the service. -/
theorem exits_without_signs :
    ∃ result, run ["abcd"] (mersenneVariables " K1").toEnvironment mersenneFiles (.integer 0) =
        .ok result ∧ result.exitCode = 0 ∧
      ¬ ∃ u, Signs (mersenneVariables " K1").toEnvironment mersenneFiles (.integer 0) "abcd" u ∧
        result = .printed u := by
  obtain ⟨u, links, ran⟩ := exits_mersenneVariables (by decide : " K1" ≠ "")
  refine ⟨.printed u, ran, rfl, ?_⟩
  rintro ⟨w, signs, same⟩
  obtain rfl : w = u := by
    have line : u ++ "\n" = w ++ "\n" := congrArg Result.out same
    simpa using line.symm
  obtain ⟨-, -, tidy⟩ := (signs_iff_links (Variables.areIn_toEnvironment _) isDigits_sixty rfl
    (by decide)).mp signs
  exact absurd (links.keyPairId_eq tidy) (by decide)

end CommandLine

end SignedLink
