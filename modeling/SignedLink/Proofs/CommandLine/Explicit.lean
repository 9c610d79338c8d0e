import SignedLink.Proofs.CommandLine.Outcome
/-!
# SignedLink — options that are all given

Options that are given leave nothing to look up, so the environment should not
matter to a run that is given all four. It matters in one way: the seconds in
the environment are read before the arguments, and a text that is no number
ends the run although nobody uses it. Up to that the runs in any two
environments are the same, with the same result or the same fault.

* `run_of_isGiven`: in environments whose seconds can be read the run is the same.
* `run_eq_run_iff`: the environments between which the run does not differ.
-/

namespace SignedLink.CommandLine

variable {environment first second : Environment} {files : FileSystem} {now : Value} {start : Int}
  {arguments : List String} {asked : Arguments}

/-- The fault of reading the seconds in the environment, if they cannot be read. -/
def ttlFault? (environment : Environment) : Option Fault :=
  match environmentTtl environment with
  | .error f => some f
  | .ok _ => none

theorem ttlFault?_eq_some_iff {f : Fault} :
    ttlFault? environment = some f ↔ environmentTtl environment = .error f := by
  unfold ttlFault?
  cases environmentTtl environment <;> simp

theorem ttlFault?_eq_none_iff :
    ttlFault? environment = none ↔ ∃ n, environmentTtl environment = .ok n := by
  unfold ttlFault?
  cases environmentTtl environment <;> simp

/-- Seconds that cannot be read are no matter of a path. -/
theorem environmentTtl_ne_nulInPath : environmentTtl environment ≠ .error .nulInPath := by
  intro unread
  rcases Value.numeral_error unread with bad | ⟨n, long⟩
  · cases bad
  · cases long

/-- With all options given the request does not depend on the environment. -/
theorem Request.of_eq_of_isGiven (given : ∀ flag ≠ .help, IsGiven arguments flag)
    (parsed : Arguments.parse arguments = .ok asked) (m n : Int) :
    Request.of asked first m = Request.of asked second n := by
  obtain ⟨url, keyFile, keyPairId, ttl⟩ := Arguments.isSome_of_isGiven given parsed
  obtain ⟨u, url⟩ := Option.isSome_iff_exists.mp url
  obtain ⟨k, keyFile⟩ := Option.isSome_iff_exists.mp keyFile
  obtain ⟨p, keyPairId⟩ := Option.isSome_iff_exists.mp keyPairId
  obtain ⟨s, ttl⟩ := Option.isSome_iff_exists.mp ttl
  simp [Request.of, url, keyFile, keyPairId, ttl]

/-- In two environments whose seconds can be read a run with all options given is the same. -/
theorem run_of_isGiven (given : ∀ flag ≠ .help, IsGiven arguments flag)
    (read : ttlFault? first = none) (also : ttlFault? second = none) :
    run arguments first files now = run arguments second files now := by
  obtain ⟨m, read⟩ := ttlFault?_eq_none_iff.mp read
  obtain ⟨n, also⟩ := ttlFault?_eq_none_iff.mp also
  unfold run
  rw [read, also]
  cases parsed : Arguments.parse arguments with
  | error stop => cases stop <;> rfl
  | ok asked =>
    dsimp only
    rw [@Request.of_eq_of_isGiven first second _ _ given parsed m n]

/-- A run with all options given is the same in two environments exactly when their seconds can both
be read, or cannot for the same reason; and where they cannot be read, that ends the run. -/
theorem run_eq_run_iff (given : ∀ flag ≠ .help, IsGiven arguments flag) (files : FileSystem)
    (reading : IsReading now start) (first second : Environment) :
    (∀ f, environmentTtl first = .error f → run arguments first files now = .error f) ∧
      (run arguments first files now = run arguments second files now ↔
        ttlFault? first = ttlFault? second) := by
  have ends {environment : Environment} {f : Fault}
      (unread : environmentTtl environment = .error f) :
      run arguments environment files now = .error f :=
    (run_eq_error_iff reading).mpr (.inl unread)
  -- a run that ends with the fault of some seconds has them in its own environment
  have origin {environment other : Environment} {f : Fault}
      (unread : environmentTtl other = .error f)
      (ended : run arguments environment files now = .error f) :
      environmentTtl environment = .error f := by
    rcases (run_eq_error_iff reading).mp ended with own | ⟨-, rfl, -⟩
    · exact own
    · exact absurd unread environmentTtl_ne_nulInPath
  refine ⟨fun f => ends, ?_⟩
  cases read : ttlFault? first with
  | some f =>
    have unread := ttlFault?_eq_some_iff.mp read
    rw [ends unread, eq_comm, @eq_comm _ (some f), ttlFault?_eq_some_iff]
    exact ⟨origin unread, ends⟩
  | none =>
    cases also : ttlFault? second with
    | none => exact iff_of_true (run_of_isGiven given read also) rfl
    | some f =>
      have unread := ttlFault?_eq_some_iff.mp also
      refine iff_of_false (fun same => ?_) nofun
      rw [ends unread] at same
      rw [ttlFault?_eq_some_iff.mpr (origin unread same)] at read
      cases read

/-! ## A run with all options -/

theorem isGiven_fullArguments : ∀ flag ≠ .help, IsGiven fullArguments flag := by
  intro flag other
  cases flag with
  | help => exact absurd rfl other
  | url => exact @isGiven_of_mem _ ["abcd"] _ "--url" (by decide) (by decide)
  | keyFile => exact @isGiven_of_mem _ (fullArguments.take 3) _ "--key-file" (by decide) (by decide)
  | keyPairId =>
    exact @isGiven_of_mem _ (fullArguments.take 5) _ "--key-pair-id" (by decide) (by decide)
  | ttl => exact @isGiven_of_mem _ (fullArguments.take 7) _ "--ttl" (by decide) (by decide)

/-- Variables that say something else do not change the run. -/
theorem run_fullArguments_eq :
    run fullArguments [("CLOUDFRONT_URL", ""), ("CLOUDFRONT_TTL_SECONDS", "-5")] mersenneFiles
        (.integer 0) = run fullArguments [] mersenneFiles (.integer 0) :=
  (run_eq_run_iff isGiven_fullArguments mersenneFiles (.integer 0) _ _).2.mpr rfl

/-- Seconds in the environment that are no number end a run that prints an address without them. -/
theorem run_fullArguments_ne :
    (∃ u, run fullArguments [] mersenneFiles (.integer 0) = .ok (.printed u)) ∧
      run fullArguments [("CLOUDFRONT_TTL_SECONDS", "soon")] mersenneFiles (.integer 0) =
        .error (.badNumeral "'soon'") := by
  refine ⟨?_, rfl⟩
  obtain ⟨u, prints⟩ := exists_prints_fullArguments (rfl : environmentTtl [] = .ok 60)
  exact ⟨u, ((exits_iff_prints (by decide)).mpr ⟨u, prints, rfl⟩).1⟩

end SignedLink.CommandLine
