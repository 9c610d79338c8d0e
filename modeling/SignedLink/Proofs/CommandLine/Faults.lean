import SignedLink.CommandLine.Run
import SignedLink.Proofs.CommandLine.Arguments
import SignedLink.Proofs.Config.Options
import SignedLink.Proofs.Signing.Refusals
/-!
# SignedLink — what a run lets escape

A run tells every failure of its own, and two things get past it. The seconds
in the environment are read before the arguments, whether or not an option
takes their place; and a key file with U+0000 in its path cannot be looked up
at all. Nothing else escapes: a number that an argument or the environment
spells is never too long to be told, a text is never refused as a value, and
every error of signing is of a documented kind.

* `fault_of_create`: only the numbers can bring a fault into a configuration.
* `sign_eq_fault_iff`: the fault of a complete request.
* `Runs`, `run_eq_iff`: the ways in which a run can go.
* `run_eq_error_iff`: the faults that escape, and where they come from.
-/

namespace SignedLink

variable {f : Fault}

/-! ## Configurations of texts -/

namespace SignerConfiguration

/-- The fault of validation is that of the address. -/
theorem fault_of_validate {draft : Draft} (h : validate draft = .error (.fault f)) :
    draftAddress draft.baseUrl = .error f := by
  unfold validate at h
  split at h
  · next unread => rw [unread, ConfigError.fault.inj (Except.error.inj h)]
  · dsimp only at h
    split at h <;> cases h

theorem loadKey_text_ne_fault (pem : String) : loadKey (.text pem) ≠ .error (.fault f) := by
  simp only [loadKey, normalKeyText]
  split <;> nofun

/-- In a configuration of texts the faults are those of the numbers. -/
theorem fault_of_create {url pem keyPairId : String} {ttl size : Value}
    (h : create (.text url) ttl size (.text pem) (.text keyPairId) = .error (.fault f)) :
    Property.wholeNumber Property.ttl Property.defaultTtlSeconds ttl = .error (.fault f) ∨
      Property.wholeNumber Property.minSize Property.defaultMinSizeKb size =
        .error (.fault f) := by
  rcases Except.bind_eq_error_iff.mp h with unread | ⟨ttlSeconds, -, h⟩
  · exact .inl unread
  rcases Except.bind_eq_error_iff.mp h with unread | ⟨minSizeKb, -, h⟩
  · exact .inr unread
  rcases Except.bind_eq_error_iff.mp h with unloaded | ⟨key, -, h⟩
  · exact absurd unloaded (loadKey_text_ne_fault pem)
  · cases fault_of_validate h

end SignerConfiguration

namespace CommandLine

variable {environment : Environment} {files : FileSystem} {now : Value} {start : Int}
  {arguments : List String} {asked : Arguments} {r : Request}

/-! ## The seconds -/

/-- Whether seconds are no number, or one that can be written. -/
def Seconds.IsTold (seconds : Seconds) : Prop :=
  seconds.toValue.isWritable = true

theorem Seconds.IsTold.ne_fault {seconds : Seconds} (told : seconds.IsTold) {name : String}
    {default : Int} : Property.wholeNumber name default seconds.toValue ≠ .error (.fault f) := by
  intro h
  rcases Property.fault_of_wholeNumber h with ⟨-, negative, infinite⟩ | ⟨-, long⟩
  · cases seconds <;> cases infinite
  · rcases long with unwritable | ⟨n, stands, unwritable⟩
    · exact Bool.noConfusion (told.symm.trans unwritable)
    · cases seconds with
      | nothing => cases stands
      | number m =>
        cases stands
        exact Bool.noConfusion (told.symm.trans unwritable)

/-- A number of seconds in the environment can be written, since a text spells it. -/
theorem isWritable_of_environmentTtl {n : Int} (read : environmentTtl environment = .ok n) :
    (Value.integer n).isWritable = true := by
  rw [environmentTtl, Value.toInteger] at read
  exact (Numeral.read_eq_ok_iff.mp read).isWritable

/-- The seconds of a run can be told, wherever they come from. -/
theorem Request.isTold_of_parse {n : Int} (parsed : Arguments.parse arguments = .ok asked)
    (read : environmentTtl environment = .ok n) : (Request.of asked environment n).ttl.IsTold := by
  simp only [Request.of]
  cases given : asked.ttl with
  | none => exact isWritable_of_environmentTtl read
  | some seconds =>
    cases seconds with
    | nothing => rfl
    | number m => exact Arguments.isWritable_of_parse parsed given

/-! ## A complete request -/

theorem keyText_of_nul {path : String} (nul : '\x00' ∈ path.toList) :
    Options.keyText files (.file path) = .error (.fault .nulInPath) := by
  have unread : files.readText path = .error (.fault .nulInPath) := by
    rw [FileSystem.readText, if_pos (List.contains_iff_mem.mpr nul)]
  rw [Options.keyText, unread]

/-- The fault of a configuration is a key file that cannot be looked up. -/
theorem configuration_eq_fault_iff (told : r.ttl.IsTold) :
    configuration files r = .error (.fault f) ↔ f = .nulInPath ∧ '\x00' ∈ r.keyFile.toList := by
  constructor
  · intro h
    -- the file is read first, and once there is a text only the numbers are left
    rcases Except.bind_eq_error_iff.mp h with unread | ⟨pem, -, uncreated⟩
    · exact Options.fault_of_keyText_file unread
    · rcases SignerConfiguration.fault_of_create uncreated with ttl | size
      · exact absurd ttl told.ne_fault
      · rw [Property.wholeNumber_integer (Int.le_refl 0)] at size
        cases size
  · rintro ⟨rfl, nul⟩
    exact Except.bind_eq_error_iff.mpr (.inl (keyText_of_nul nul))

/-- Every error of a documented kind is told. -/
theorem signingResult_of_kind? {e : SigningError} (documented : e.kind?.isSome = true) :
    signingResult e = .ok (.failed e.message) := by
  cases e with
  | identity e =>
    cases e with
    | tooShort => rfl
    | fault => cases documented
  | number => cases documented
  | notRsa | unsigned => rfl

/-- The fault of a complete request is a key file that cannot be looked up. -/
theorem sign_eq_fault_iff (told : r.ttl.IsTold) (reading : IsReading now start) :
    sign files now r = .error f ↔ f = .nulInPath ∧ '\x00' ∈ r.keyFile.toList := by
  rw [← @configuration_eq_fault_iff f files r told]
  unfold sign
  split
  · next unmade => simp [unmade, eq_comm]
  · next e other unmade =>
    have : e ≠ .fault f := fun is => other f is
    simp [unmade, this]
  · next config made =>
    -- with a configuration all that can fail is the signing, and that is told
    split
    · next e unsigned =>
      have fails := (@Link.sign_eq_error_iff _ _ _ (some r.identity) _ _ _ _ reading).mp unsigned
      simp [made, signingResult_of_kind? fails.kind_isSome]
    · simp [made]

/-! ## A run -/

/-- The ways in which a run can go, each with its outcome. -/
inductive Runs (arguments : List String) (environment : Environment) (files : FileSystem)
    (now : Value) : Except Fault Result → Prop where
  | unread {f : Fault} (unread : environmentTtl environment = .error f) :
      Runs arguments environment files now (.error f)
  | help {n : Int} (read : environmentTtl environment = .ok n)
      (parsed : Arguments.parse arguments = .error .help) :
      Runs arguments environment files now (.ok ⟨0, helpText, ""⟩)
  | misused {n : Int} {e : UsageError} (read : environmentTtl environment = .ok n)
      (parsed : Arguments.parse arguments = .error (.usage e)) :
      Runs arguments environment files now (.ok (.misused e))
  | incomplete {n : Int} {asked : Arguments} (read : environmentTtl environment = .ok n)
      (parsed : Arguments.parse arguments = .ok asked)
      (lacking : ¬ (Request.of asked environment n).isComplete = true) :
      Runs arguments environment files now (.ok .incomplete)
  | signed {n : Int} {asked : Arguments} {outcome : Except Fault Result}
      (read : environmentTtl environment = .ok n) (parsed : Arguments.parse arguments = .ok asked)
      (complete : (Request.of asked environment n).isComplete = true)
      (signed : sign files now (Request.of asked environment n) = outcome) :
      Runs arguments environment files now outcome

/-- A run goes in one of these ways. -/
theorem run_eq_iff {outcome : Except Fault Result} :
    run arguments environment files now = outcome ↔
      Runs arguments environment files now outcome := by
  unfold run
  constructor
  · rintro rfl
    cases read : environmentTtl environment with
    | error f => exact .unread read
    | ok n =>
      cases parsed : Arguments.parse arguments with
      | error stop =>
        cases stop with
        | help => exact .help read parsed
        | usage e => exact .misused read parsed
      | ok asked =>
        dsimp only
        split
        · next complete => exact .signed read parsed complete rfl
        · next lacking => exact .incomplete read parsed lacking
  · intro runs
    cases runs with
    | unread unread => rw [unread]
    | help read parsed | misused read parsed => rw [read, parsed]
    | incomplete read parsed lacking => simp only [read, parsed, if_neg lacking]
    | signed read parsed complete signed => simp only [read, parsed, if_pos complete, signed]

/-- The key file that a run reads is that of a complete request. -/
theorem keyFile?_eq_some_iff {path : String} :
    keyFile? arguments environment = some path ↔
      ∃ asked, Arguments.parse arguments = .ok asked ∧
        (Request.of asked environment 0).isComplete = true ∧
        (Request.of asked environment 0).keyFile = path := by
  unfold keyFile?
  cases Arguments.parse arguments <;> simp

/-- The faults of a run, and where they come from. -/
theorem run_eq_error_iff (reading : IsReading now start) :
    run arguments environment files now = .error f ↔
      environmentTtl environment = .error f ∨
        (∃ n, environmentTtl environment = .ok n) ∧ f = .nulInPath ∧
          ∃ path, keyFile? arguments environment = some path ∧ '\x00' ∈ path.toList := by
  rw [run_eq_iff]
  constructor
  · intro runs
    cases runs with
    | unread unread => exact .inl unread
    | signed read parsed complete signed =>
      have told := Request.isTold_of_parse parsed read
      obtain ⟨rfl, nul⟩ := (sign_eq_fault_iff told reading).mp signed
      -- the file does not depend on the seconds
      exact .inr ⟨⟨_, read⟩, rfl, _, keyFile?_eq_some_iff.mpr ⟨_, parsed, complete, rfl⟩, nul⟩
  · rintro (unread | ⟨⟨n, read⟩, rfl, path, is, nul⟩)
    · exact .unread unread
    · obtain ⟨asked, parsed, complete, rfl⟩ := keyFile?_eq_some_iff.mp is
      have told := Request.isTold_of_parse parsed read
      exact .signed read parsed complete ((sign_eq_fault_iff told reading).mpr ⟨rfl, nul⟩)

end CommandLine

end SignedLink
