import SignedLink.CommandLine.Arguments
import SignedLink.Proofs.CommandLine.Tokens
import SignedLink.Proofs.Value.Numeral
/-!
# SignedLink — how arguments are taken

Arguments are taken from the left. An option is set each time it is given, to a
text, to the number that a text spells, or to nothing at all; an option without
a value of its own takes the next operand along. Whatever else there is counts
as the identity or as surplus, and leaves the options alone. So an option is
set in the end exactly when it was given, and what it is set to stands at the
end of some argument.

* `Sets`, `Takes`: what one option is set to, and how a row of tokens is taken.
* `takes_of_take`: a row that can be taken is taken like this.
* `Takes.isSet_iff`: which options are set in the end.
* `Takes.isSpelled`: what the file of the key and the seconds are set to.
-/

namespace SignedLink.CommandLine

/-! ## One option -/

/-- What a value sets its option to: the separator in its place stands for nothing. -/
def CarriedValue.given? (value : CarriedValue) : Option (List Char) :=
  if value.text = "--".toList then none else some value.text

theorem CarriedValue.text_of_given? {value : CarriedValue} {cs : List Char}
    (given : value.given? = some cs) : value.text = cs :=
  (Option.ite_none_left_eq_some.mp given).2 |> Option.some.inj

namespace Taken

/-- What an option is set to, when it is given with some characters or with nothing. -/
inductive Sets (taken : Taken) : Flag → Option (List Char) → Taken → Prop where
  | url (value : Option (List Char)) :
      Sets taken .url value { taken with url := some (.ofList (value.getD [])) }
  | keyFile (value : Option (List Char)) :
      Sets taken .keyFile value { taken with keyFile := some (.ofList (value.getD [])) }
  | keyPairId (value : Option (List Char)) :
      Sets taken .keyPairId value { taken with keyPairId := some (.ofList (value.getD [])) }
  | seconds {cs : List Char} {n : Int} (spelled : Numeral.Denotes cs n) :
      Sets taken .ttl (some cs) { taken with ttl := some (.number n) }
  | noSeconds : Sets taken .ttl none { taken with ttl := some .nothing }

/-- How a row of tokens is taken. -/
inductive Takes : Taken → List Token → Taken → Prop where
  | done (taken : Taken) : Takes taken [] taken
  /-- an option with a value of its own -/
  | carried {taken next last : Taken} {ts : List Token} {flag : Flag} {value : CarriedValue}
      (set : taken.Sets flag value.given? next) (rest : Takes next ts last) :
      Takes taken (.option flag (some value) :: ts) last
  /-- an option that takes the next operand along -/
  | valued {taken next last : Taken} {ts : List Token} {flag : Flag} {cs : List Char}
      (set : taken.Sets flag (some cs) next) (rest : Takes next ts last) :
      Takes taken (.option flag none :: .operand cs :: ts) last
  /-- what is no option -/
  | aside {taken last : Taken} {t : Token} {ts : List Token} {identity : Option String}
      {surplus : List String} (apart : t.flag? = none)
      (rest : Takes { taken with identity, surplus } ts last) : Takes taken (t :: ts) last

variable {cs : List Char} {t : Token} {ts all : List Token} {flag : Flag}
  {value : Option (List Char)} {taken next last : Taken}

theorem Sets.identity_eq (set : taken.Sets flag value next) : next.identity = taken.identity := by
  cases set <;> rfl

theorem sets_of_setValue (set : taken.setValue flag cs = .ok next) :
    Sets taken flag (some cs) next := by
  unfold setValue at set
  dsimp only at set
  split at set
  · cases set
  · cases set
    exact .url _
  · cases set
    exact .keyFile _
  · cases set
    exact .keyPairId _
  · split at set
    · next n read =>
      cases set
      rw [Value.toInteger, String.toList_ofList] at read
      exact .seconds (Numeral.read_eq_ok_iff.mp read)
    · cases set

theorem sets_setNothing (other : flag ≠ .help) : Sets taken flag none (taken.setNothing flag) := by
  cases flag with
  | help => exact absurd rfl other
  | url => exact .url none
  | keyFile => exact .keyFile none
  | keyPairId => exact .keyPairId none
  | ttl => exact .noSeconds

theorem sets_of_setCarried {value : CarriedValue} (set : taken.setCarried flag value = .ok next) :
    Sets taken flag value.given? next := by
  unfold setCarried at set
  split at set
  · cases set
  · next other =>
    cases value <;>
    · dsimp only at set
      split at set
      · next separator =>
        cases set
        rw [CarriedValue.given?, CarriedValue.text, if_pos separator]
        exact sets_setNothing other
      · next text =>
        rw [CarriedValue.given?, CarriedValue.text, if_neg text]
        exact sets_of_setValue set

/-! ## A row of tokens -/

/-- Two tokens that are no options may be taken in one step. -/
theorem Takes.aside_both {u : Token} {identity : Option String} {surplus : List String}
    (apart : t.flag? = none) (also : u.flag? = none)
    (rest : Takes { taken with identity, surplus } ts last) : Takes taken (t :: u :: ts) last :=
  .aside apart (@Takes.aside taken last u ts identity surplus also rest)

/-- A row that can be taken is taken like this. -/
theorem takes_of_take (took : taken.take ts = .ok last) : Takes taken ts last := by
  -- a token sets an option, or it stands aside alone or with the separator next to it, or it stops
  fun_induction take taken ts with
  | case1 taken =>
    cases took
    exact .done _
  | case2 taken cs rest ih => exact .aside rfl (ih took)
  | case4 taken flag value rest next set ih => exact .carried (sets_of_setCarried set) (ih took)
  | case7 taken flag value rest other next set ih => exact .valued (sets_of_setValue set) (ih took)
  | case9 taken cs rest unnamed ih | case10 taken cs rest named ih
    | case12 taken cs rest unnamed ih | case13 taken cs rest named ih =>
    exact .aside_both rfl rfl (ih took)
  | case11 taken rest _ ih | case14 taken cs rest _ unnamed ih | case15 taken cs rest _ named ih =>
    exact .aside rfl (ih took)
  | case3 | case5 | case6 | case8 => cases took

/-! ## What is set in the end -/

/-- Whether an option is set. -/
def isSet (taken : Taken) : Flag → Bool
  | .help => false
  | .url => taken.url.isSome
  | .keyFile => taken.keyFile.isSome
  | .keyPairId => taken.keyPairId.isSome
  | .ttl => taken.ttl.isSome

/-- One option sets itself and no other. -/
theorem Sets.isSet_iff (set : taken.Sets flag value next) (other : Flag) :
    next.isSet other = true ↔ taken.isSet other = true ∨ flag = other := by
  cases set <;> cases other <;> simp [isSet]

/-- The options that are set in the end are those that were set before and those that are given. -/
theorem Takes.isSet_iff (took : Takes taken ts last) (flag : Flag) :
    last.isSet flag = true ↔ taken.isSet flag = true ∨ ∃ t ∈ ts, t.flag? = some flag := by
  induction took with
  | done => simp
  | carried set rest ih =>
    rw [ih, set.isSet_iff, List.exists_mem_cons_iff, Token.flag?, Option.some_inj, or_assoc]
  | valued set rest ih =>
    -- the operand that is taken along names no option
    rw [ih, set.isSet_iff, List.exists_mem_cons_iff, Token.flag?, Option.some_inj, or_assoc]
    simp [Token.flag?]
  | aside apart rest ih =>
    rw [ih, List.exists_mem_cons_iff, apart]
    simp [isSet]

/-- The file of the key and the seconds are set to what the texts of tokens tell, or to nothing at
all. -/
structure IsSpelled (all : List Token) (taken : Taken) : Prop where
  keyFile : ∀ s, taken.keyFile = some s → s = "" ∨ ∃ t ∈ all, t.text = s.toList
  seconds : ∀ n, taken.ttl = some (.number n) → ∃ t ∈ all, Numeral.Denotes t.text n

theorem isSpelled_nothing (all : List Token) : IsSpelled all nothing :=
  ⟨nofun, nofun⟩

theorem Sets.isSpelled (set : taken.Sets flag value next)
    (told : ∀ cs, value = some cs → ∃ t ∈ all, t.text = cs) (before : IsSpelled all taken) :
    IsSpelled all next := by
  cases set with
  | url | keyPairId => exact ⟨before.keyFile, before.seconds⟩
  | keyFile =>
    refine ⟨?_, before.seconds⟩
    rintro s ⟨⟩
    cases value with
    | none => exact .inl rfl
    | some cs =>
      obtain ⟨t, mem, text⟩ := told cs rfl
      exact .inr ⟨t, mem, by rw [text, Option.getD_some, String.toList_ofList]⟩
  | seconds spelled =>
    refine ⟨before.keyFile, ?_⟩
    rintro n ⟨⟩
    obtain ⟨t, mem, rfl⟩ := told _ rfl
    exact ⟨t, mem, spelled⟩
  | noSeconds => exact ⟨before.keyFile, nofun⟩

/-- Whatever a row sets is spelled in it. -/
theorem Takes.isSpelled (took : Takes taken ts last) (within : ts ⊆ all)
    (before : IsSpelled all taken) : IsSpelled all last := by
  -- the tokens that are left get fewer, those that may spell a value stay the same
  induction took with
  | done => exact before
  | carried set rest ih =>
    obtain ⟨here, within⟩ := List.cons_subset.mp within
    exact ih within (set.isSpelled (fun cs given => ⟨_, here, CarriedValue.text_of_given? given⟩)
      before)
  | valued set rest ih =>
    obtain ⟨-, within⟩ := List.cons_subset.mp within
    obtain ⟨here, within⟩ := List.cons_subset.mp within
    refine ih within (set.isSpelled ?_ before)
    rintro cs ⟨⟩
    exact ⟨_, here, rfl⟩
  | aside apart rest ih =>
    obtain ⟨-, within⟩ := List.cons_subset.mp within
    exact ih within ⟨before.keyFile, before.seconds⟩

end Taken

end SignedLink.CommandLine
