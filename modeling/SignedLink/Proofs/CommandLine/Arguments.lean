import SignedLink.Proofs.CommandLine.Taking
/-!
# SignedLink — what arguments ask for

What is asked for is what was taken from all arguments, if there is an identity
among it and nothing is left over. A single argument is either the identity or
of no use: an option alone leaves the identity out, and so does the separator.

* `parse_eq_ok_iff`, `ofTokens_eq_ok_iff`: the arguments that can be used, and what they ask for.
* `IsGiven`, `isSome_of_isGiven`: options that are given somewhere are asked for.
* `exists_argument_of_keyFile`, `isWritable_of_parse`: where a file and a number come from.
* `parse_single`: what a single argument that can be used asks for.
-/

namespace SignedLink.CommandLine

variable {cs : List Char} {ts : List Token} {flag : Flag} {taken next : Taken}
  {arguments : List String} {asked : Arguments}

namespace Arguments

/-- The tokens that can be used, and what they ask for. -/
theorem ofTokens_eq_ok_iff :
    ofTokens ts = .ok asked ↔
      ∃ taken, Taken.nothing.take ts = .ok taken ∧ taken.surplus = [] ∧
        taken.identity = some asked.identity ∧ taken.url = asked.url ∧
        taken.keyFile = asked.keyFile ∧ taken.keyPairId = asked.keyPairId ∧
        taken.ttl = asked.ttl := by
  unfold ofTokens
  cases took : Taken.nothing.take ts with
  | error stop => simp
  | ok taken =>
    cases named : taken.identity with
    | none => simp [named]
    | some identity =>
      obtain ⟨_, _, _, _, _⟩ := asked
      by_cases used : taken.surplus = [] <;> simp [named, used]

/-- The arguments that can be used, and what they ask for. -/
theorem parse_eq_ok_iff :
    parse arguments = .ok asked ↔
      ∃ ts, tokens (arguments.map String.toList) = .ok ts ∧ ofTokens ts = .ok asked := by
  unfold parse
  cases tokens (arguments.map String.toList) with
  | error e => simp
  | ok ts => simp

/-- What is asked for was taken from the tokens of all arguments. -/
theorem exists_takes_of_parse (parsed : parse arguments = .ok asked) :
    ∃ ts taken, tokens (arguments.map String.toList) = .ok ts ∧ Taken.Takes .nothing ts taken ∧
      taken.url = asked.url ∧ taken.keyFile = asked.keyFile ∧ taken.keyPairId = asked.keyPairId ∧
        taken.ttl = asked.ttl := by
  obtain ⟨ts, listed, used⟩ := parse_eq_ok_iff.mp parsed
  obtain ⟨taken, took, -, -, same⟩ := ofTokens_eq_ok_iff.mp used
  exact ⟨ts, taken, listed, Taken.takes_of_take took, same⟩

end Arguments

/-! ## Options that are given -/

/-- An option is given by one of the arguments, if their tokens are clear. -/
def IsGiven (arguments : List String) (flag : Flag) : Prop :=
  ∀ ts, tokens (arguments.map String.toList) = .ok ts → ∃ t ∈ ts, t.flag? = some flag

/-- The name of an option that stands before the separator gives it. -/
theorem isGiven_of_mem {before after : List String} {name : String}
    (unseparated : "--" ∉ before) (mem : (name.toList, flag) ∈ flagNames) :
    IsGiven (before ++ name :: after) flag := by
  intro ts listed
  rw [List.map_append, List.map_cons] at listed
  refine ⟨.option flag none, option_mem_tokens ?_ mem listed, rfl⟩
  rintro separated
  obtain ⟨a, within, same⟩ := List.mem_map.mp separated
  exact unseparated (String.toList_inj.mp same ▸ within)

/-- With all four options given none is left for the environment. -/
theorem Arguments.isSome_of_isGiven (given : ∀ flag ≠ .help, IsGiven arguments flag)
    (parsed : parse arguments = .ok asked) :
    asked.url.isSome = true ∧ asked.keyFile.isSome = true ∧ asked.keyPairId.isSome = true ∧
      asked.ttl.isSome = true := by
  obtain ⟨ts, taken, listed, took, url, keyFile, keyPairId, ttl⟩ := exists_takes_of_parse parsed
  have set (flag : Flag) (other : flag ≠ .help) : taken.isSet flag = true :=
    (took.isSet_iff flag).mpr (.inr (given flag other ts listed))
  rw [← url, ← keyFile, ← keyPairId, ← ttl]
  exact ⟨set .url nofun, set .keyFile nofun, set .keyPairId nofun, set .ttl nofun⟩

/-! ## Where it comes from -/

namespace Arguments

/-- What is asked for is spelled by the tokens of the arguments. -/
theorem isSpelled_of_parse (parsed : parse arguments = .ok asked) :
    ∃ ts, tokens (arguments.map String.toList) = .ok ts ∧
      (∀ s, asked.keyFile = some s → s = "" ∨ ∃ t ∈ ts, t.text = s.toList) ∧
      ∀ n, asked.ttl = some (.number n) → ∃ t ∈ ts, Numeral.Denotes t.text n := by
  obtain ⟨ts, taken, listed, took, -, keyFile, -, ttl⟩ := exists_takes_of_parse parsed
  obtain ⟨file, seconds⟩ := took.isSpelled (List.Subset.refl ts) (Taken.isSpelled_nothing ts)
  rw [← keyFile, ← ttl]
  exact ⟨ts, listed, file, seconds⟩

/-- A number of seconds that is asked for can be written. -/
theorem isWritable_of_parse {n : Int} (parsed : parse arguments = .ok asked)
    (told : asked.ttl = some (.number n)) : (Value.integer n).isWritable = true := by
  obtain ⟨ts, -, -, seconds⟩ := isSpelled_of_parse parsed
  obtain ⟨t, -, spelled⟩ := seconds n told
  exact spelled.isWritable

end Arguments

/-! ## A single argument -/

/-- A single argument is the separator, or it has one of the forms. -/
theorem exists_of_tokens_singleton (listed : tokens [cs] = .ok ts) :
    ∃ t, ts = [t] ∧ (t = .separator ∨ Reads cs t) := by
  rcases tokens_cons_eq_ok_iff.mp listed with ⟨-, rfl⟩ | ⟨-, t, others, is, nothing, rfl⟩
  · exact ⟨.separator, rfl, .inl rfl⟩
  · cases nothing
    exact ⟨t, rfl, .inr (reads_of_token is)⟩

/-- One option alone leaves the identity out. -/
theorem Taken.identity_of_option {value : Option CarriedValue}
    (took : taken.take [.option flag value] = .ok next) : next.identity = taken.identity := by
  cases takes_of_take took with
  | carried set rest =>
    cases rest
    exact set.identity_eq
  | aside apart => cases apart

/-- A single argument that can be used is the content identity, and nothing else is asked for. -/
theorem Arguments.parse_single {identity : String} (parsed : parse [identity] = .ok asked) :
    asked = ⟨identity, none, none, none, none⟩ := by
  obtain ⟨ts, listed, used⟩ := parse_eq_ok_iff.mp parsed
  obtain ⟨t, rfl, rfl | reads⟩ := exists_of_tokens_singleton listed
  · cases used
  · cases reads with
    | operand =>
      cases used
      rw [String.ofList_toList]
      rfl
    | unknownOption => cases used
    | name | assigned | assignedStart | letter =>
      -- whatever the option sets, it is not the identity
      obtain ⟨taken, took, -, named, -⟩ := ofTokens_eq_ok_iff.mp used
      rw [Taken.identity_of_option took] at named
      cases named

end SignedLink.CommandLine
