import SignedLink.Proofs.Config.Options
import SignedLink.Proofs.Value.Numeral
/-!
# SignedLink — which values a number option takes

A number option takes the integers, the numbers and the texts and octets that
spell an integer. What follows the point of a number is dropped without a word,
so a fraction is taken for its whole part, and one between -1 and 0 passes for
zero. All else is refused, with an error of configuration that names the
option, or with a fault: an infinite number, and what would be told in the
message but holds an integer that is too long.

* `IsWhole`, `IsFraction`: the values that stand for an integer, and those cut down to one.
* `toInteger_eq_ok_iff`: the two kinds are exactly what is read as an integer.
* `wholeNumber_exact`: the values taken, the faults, and the refusals in between.
-/

namespace SignedLink

namespace Binary64

variable {x : Binary64} {n : Int}

/-- A number that is whole is its whole part. -/
theorem truncate?_of_exactInt? (whole : x.exactInt? = some n) : x.truncate? = some n := by
  cases x with
  | nan => cases whole
  | infinite negative => cases whole
  | finite negative m e =>
    simp only [exactInt?] at whole
    split at whole
    · exact whole
    · cases whole

end Binary64

namespace Value

variable {x : Binary64} {n : Int}

/-- The whole part of a number is what truncation leaves of it. -/
theorem wholePart_eq_ok_iff : wholePart x = .ok n ↔ x.truncate? = some n := by
  cases x with
  | nan => simp [wholePart, Binary64.truncate?]
  | infinite negative => simp [wholePart, Binary64.truncate?]
  | finite negative m e => simp [wholePart_finite, Binary64.truncate?]

end Value

namespace Property

variable {name : String} {default n : Int} {v : Value} {f : Fault} {e : ConfigError}

/-! ## Values and integers -/

/-- A value is an integer or spells one. Truth values do not count. -/
inductive IsWhole : Value → Int → Prop where
  | integer (n : Int) : IsWhole (.integer n) n
  | real {x : Binary64} {n : Int} (whole : x.exactInt? = some n) : IsWhole (.real x) n
  | text {s : String} {n : Int} (spelled : Numeral.Denotes s.toList n) : IsWhole (.text s) n
  | octets {bytes : List UInt8} {n : Int}
      (spelled : Numeral.Denotes (bytes.map Numeral.octetChar) n) : IsWhole (.octets bytes) n

/-- A value is a number with a fraction, and an integer its whole part. -/
inductive IsFraction : Value → Int → Prop where
  | real {x : Binary64} {n : Int} (fraction : x.exactInt? = none) (part : x.truncate? = some n) :
      IsFraction (.real x) n

/-- What an option reads a value as: the integer, or what is left of a fraction. -/
def CutTo (v : Value) (n : Int) : Prop :=
  IsWhole v n ∨ IsFraction v n

/-- A number is cut to its whole part. -/
theorem cutTo_real_iff {x : Binary64} : CutTo (.real x) n ↔ x.truncate? = some n := by
  constructor
  · rintro (whole | fraction)
    · cases whole with
      | real whole => exact Binary64.truncate?_of_exactInt? whole
    · cases fraction with
      | real fraction part => exact part
  · intro part
    -- a number that is whole is its own whole part
    cases whole : x.exactInt? with
    | none => exact .inr (.real whole part)
    | some m =>
      have same := Binary64.truncate?_of_exactInt? whole
      rw [part] at same
      cases same
      exact .inl (.real whole)

/-- Where there is no fraction, the integer is the whole value. -/
theorem cutTo_iff_isWhole (notReal : ∀ x, v ≠ .real x) : CutTo v n ↔ IsWhole v n := by
  constructor
  · rintro (whole | fraction)
    · exact whole
    · cases fraction with
      | real => exact absurd rfl (notReal _)
  · exact .inl

/-- Apart from truth values, what is read as an integer is an integer, a spelling or a number cut
down to one. -/
theorem toInteger_eq_ok_iff (notBoolean : ∀ b, v ≠ .boolean b) :
    v.toInteger = .ok n ↔ CutTo v n := by
  cases v with
  | real x => rw [cutTo_real_iff, ← Value.wholePart_eq_ok_iff, Value.toInteger]
  | boolean b => exact absurd rfl (notBoolean b)
  | integer m =>
    rw [cutTo_iff_isWhole (by simp)]
    constructor
    · intro same
      cases same
      exact .integer n
    · intro whole
      cases whole
      rfl
  | text s =>
    rw [cutTo_iff_isWhole (by simp), Value.toInteger, Numeral.read_eq_ok_iff]
    refine ⟨.text, fun whole => ?_⟩
    cases whole with
    | text spelled => exact spelled
  | octets bytes =>
    rw [cutTo_iff_isWhole (by simp), Value.toInteger, Numeral.read_eq_ok_iff]
    refine ⟨.octets, fun whole => ?_⟩
    cases whole with
    | octets spelled => exact spelled
  | null | path p | list items | record fields =>
    -- none of these is read, and none stands for an integer
    rw [cutTo_iff_isWhole (by simp)]
    constructor
    · intro read
      cases read
    · intro whole
      cases whole

/-- A truth value is neither an integer nor a spelling nor a number. -/
theorem not_cutTo_boolean (b : Bool) : ¬ CutTo (.boolean b) n := by
  rw [cutTo_iff_isWhole (by simp)]
  intro whole
  cases whole

/-- An infinite number cannot be cut to an integer. -/
theorem not_cutTo_infinite (negative : Bool) : ¬ CutTo (.real (.infinite negative)) n := by
  rw [cutTo_real_iff, Binary64.truncate?_infinite]
  exact nofun

/-- A value is cut to one integer at most. -/
theorem CutTo.unique {m : Int} (first : CutTo v m) (second : CutTo v n) : m = n := by
  have notBoolean : ∀ b, v ≠ .boolean b := by
    rintro b rfl
    exact not_cutTo_boolean b first
  rw [← toInteger_eq_ok_iff notBoolean] at first second
  rw [first] at second
  exact Except.ok.inj second

/-! ## Faults -/

/-- The faults that a value given for a number ends with. -/
inductive Escapes : Value → Fault → Prop where
  | infinite (negative : Bool) : Escapes (.real (.infinite negative)) .wholeOfInfinity
  /-- the message would tell a list or record that holds an integer that is too long -/
  | untold {v : Value} (noInteger : ∀ n, ¬ CutTo v n) (long : v.isWritable = false) :
      Escapes v .longInteger
  /-- the message would tell a negative integer that is too long -/
  | negative {v : Value} {n : Int} (cut : CutTo v n) (negative : n < 0)
      (long : (Value.integer n).isWritable = false) : Escapes v .longInteger

theorem escapes_infinite_iff (negative : Bool) :
    Escapes (.real (.infinite negative)) f ↔ f = .wholeOfInfinity := by
  constructor
  · intro escapes
    cases escapes with
    | infinite => rfl
    | untold noInteger long => cases long
    | negative cut => exact absurd cut (not_cutTo_infinite negative)
  · rintro rfl
    exact .infinite negative

/-- Only for being negative and too long to be told is an integer a fault. -/
theorem CutTo.escapes_iff (cut : CutTo v n) :
    Escapes v f ↔ f = .longInteger ∧ n < 0 ∧ (Value.integer n).isWritable = false := by
  constructor
  · intro escapes
    cases escapes with
    | infinite negative => exact absurd cut (not_cutTo_infinite negative)
    | untold noInteger => exact absurd cut (noInteger n)
    | negative other negative long =>
      rw [cut.unique other]
      exact ⟨rfl, negative, long⟩
  · rintro ⟨rfl, negative, long⟩
    exact .negative cut negative long

/-- What is neither infinite nor an integer is a fault only for being too long to be told. -/
theorem escapes_iff_of_not_cutTo (finite : ∀ negative, v ≠ .real (.infinite negative))
    (noInteger : ∀ n, ¬ CutTo v n) : Escapes v f ↔ f = .longInteger ∧ v.isWritable = false := by
  constructor
  · intro escapes
    cases escapes with
    | infinite negative => exact absurd rfl (finite negative)
    | untold _ long => exact ⟨rfl, long⟩
    | negative cut => exact absurd cut (noInteger _)
  · rintro ⟨rfl, long⟩
    exact .untold noInteger long

/-- A refusal is a fault exactly when it would tell what is too long. -/
theorem refusal_eq_fault_iff {error : String → ConfigError}
    (own : ∀ shown f, error shown ≠ .fault f) :
    refusal v error = .fault f ↔ f = .longInteger ∧ v.isWritable = false := by
  refine ⟨refusal_eq_fault own, fun untold => ?_⟩
  rw [refusal, Value.written_eq_error_iff.mpr untold]

/-- A refusal is a fault or of the kind of its error. -/
theorem refusal_kind {error : String → ConfigError} {kind : ErrorKind}
    (own : ∀ shown, (error shown).kind? = some kind) :
    (∃ f, refusal v error = .fault f) ∨ (refusal v error).kind? = some kind := by
  unfold refusal
  cases v.written with
  | ok shown => exact .inr (own shown)
  | error f => exact .inl ⟨f, rfl⟩

/-! ## The option -/

theorem wholeNumber_of_toInteger_ok (set : isUnset v = false) (notBoolean : ∀ b, v ≠ .boolean b)
    (read : v.toInteger = .ok n) :
    wholeNumber name default v =
      if n < 0 then .error (refusal (.integer n) fun _ => .negative name n) else .ok n := by
  unfold wholeNumber
  rw [if_neg (by simp [set])]
  split
  · next b => exact absurd rfl (notBoolean b)
  · simp only [read]

theorem wholeNumber_of_toInteger_error (set : isUnset v = false)
    (notBoolean : ∀ b, v ≠ .boolean b) (unread : v.toInteger = .error f)
    (finite : f ≠ .wholeOfInfinity) :
    wholeNumber name default v = .error (refusal v (.notInteger name)) := by
  unfold wholeNumber
  rw [if_neg (by simp [set])]
  split
  · next b => exact absurd rfl (notBoolean b)
  · simp only [unread]

/-- What becomes of a value that is set: truth values and infinite numbers have an end of their
own, an integer is taken unless it is negative, and the rest is told in the refusal. -/
theorem wholeNumber_cases (name : String) (default : Int) (set : isUnset v = false) :
    (∃ b, v = .boolean b ∧ wholeNumber name default v = .error (.booleanNumber name)) ∨
    (∃ negative, v = .real (.infinite negative) ∧
      wholeNumber name default v = .error (.fault .wholeOfInfinity)) ∨
    (∃ n, CutTo v n ∧ wholeNumber name default v =
      if n < 0 then .error (refusal (.integer n) fun _ => .negative name n) else .ok n) ∨
    ((∀ negative, v ≠ .real (.infinite negative)) ∧ (∀ n, ¬ CutTo v n) ∧
      wholeNumber name default v = .error (refusal v (.notInteger name))) := by
  -- truth values are refused before anything is read
  by_cases boolean : ∃ b, v = .boolean b
  · obtain ⟨b, rfl⟩ := boolean
    exact .inl ⟨b, rfl, rfl⟩
  have notBoolean : ∀ b, v ≠ .boolean b := fun b same => boolean ⟨b, same⟩
  cases read : v.toInteger with
  | ok n =>
    exact .inr (.inr (.inl ⟨n, (toInteger_eq_ok_iff notBoolean).mp read,
      wholeNumber_of_toInteger_ok set notBoolean read⟩))
  | error fault =>
    -- of the faults of reading only one is handed on, and only infinite numbers have it
    by_cases infinite : fault = .wholeOfInfinity
    · subst infinite
      obtain ⟨negative, rfl⟩ := Value.infinite_of_toInteger read
      exact .inr (.inl ⟨negative, rfl, rfl⟩)
    · refine .inr (.inr (.inr ⟨?_, ?_, ?_⟩))
      · rintro negative rfl
        exact infinite (Except.error.inj read).symm
      · intro n cut
        rw [(toInteger_eq_ok_iff notBoolean).mpr cut] at read
        cases read
      · exact wholeNumber_of_toInteger_error set notBoolean read infinite

/-- The integers that are taken. -/
theorem wholeNumber_eq_ok_iff (set : isUnset v = false) :
    wholeNumber name default v = .ok n ↔ CutTo v n ∧ 0 ≤ n := by
  rcases wholeNumber_cases name default set with
    ⟨b, rfl, outcome⟩ | ⟨negative, rfl, outcome⟩ | ⟨m, cut, outcome⟩ | ⟨-, noInteger, outcome⟩
  · simp [outcome, not_cutTo_boolean]
  · simp [outcome, not_cutTo_infinite]
  · rw [outcome]
    constructor
    · intro taken
      split at taken
      · cases taken
      · next nonneg =>
        cases taken
        exact ⟨cut, Int.not_lt.mp nonneg⟩
    · rintro ⟨other, nonneg⟩
      rw [cut.unique other, if_neg (Int.not_lt.mpr nonneg)]
  · simp [outcome, noInteger]

/-- The faults that reading ends with. -/
theorem wholeNumber_eq_fault_iff (set : isUnset v = false) :
    wholeNumber name default v = .error (.fault f) ↔ Escapes v f := by
  rcases wholeNumber_cases name default set with
    ⟨b, rfl, outcome⟩ | ⟨negative, rfl, outcome⟩ | ⟨m, cut, outcome⟩ | ⟨finite, noInteger, outcome⟩
  · rw [escapes_iff_of_not_cutTo (by simp) (fun n => not_cutTo_boolean b), outcome]
    simp [Value.isWritable]
  · rw [escapes_infinite_iff, outcome]
    simp [eq_comm]
  · rw [cut.escapes_iff, outcome]
    split
    · next negative =>
      rw [Except.error.injEq, refusal_eq_fault_iff (by simp)]
      simp [negative]
    · next nonneg => simp [nonneg]
  · rw [escapes_iff_of_not_cutTo finite noInteger, outcome, Except.error.injEq,
      refusal_eq_fault_iff (by simp)]

/-- An error of a number option is a fault or an error of configuration. -/
theorem kind?_of_wholeNumber (set : isUnset v = false)
    (refused : wholeNumber name default v = .error e) :
    (∃ f, e = .fault f) ∨ e.kind? = some .configuration := by
  rcases wholeNumber_cases name default set with
    ⟨b, -, outcome⟩ | ⟨negative, -, outcome⟩ | ⟨n, -, outcome⟩ | ⟨-, -, outcome⟩ <;>
    rw [outcome] at refused
  · cases refused
    exact .inr rfl
  · cases refused
    exact .inl ⟨_, rfl⟩
  · split at refused
    · cases refused
      exact refusal_kind fun _ => rfl
    · cases refused
  · cases refused
    exact refusal_kind fun _ => rfl

/-- The values that a number option takes, and what it takes them for; the faults it ends with; and
that all else is an error of configuration. -/
theorem wholeNumber_exact (name : String) (default : Int) {v : Value} (set : isUnset v = false) :
    (∀ n, wholeNumber name default v = .ok n ↔ (IsWhole v n ∨ IsFraction v n) ∧ 0 ≤ n) ∧
    (∀ f, wholeNumber name default v = .error (.fault f) ↔ Escapes v f) ∧
    ((∃ e, wholeNumber name default v = .error e ∧ e.kind? = some .configuration) ↔
      (∀ n, IsWhole v n ∨ IsFraction v n → n < 0) ∧ ∀ f, ¬ Escapes v f) := by
  refine ⟨fun n => wholeNumber_eq_ok_iff set, fun f => wholeNumber_eq_fault_iff set, ?_⟩
  constructor
  · rintro ⟨e, refused, kind⟩
    constructor
    · intro n cut
      by_contra nonneg
      rw [(wholeNumber_eq_ok_iff set).mpr ⟨cut, Int.not_lt.mp nonneg⟩] at refused
      cases refused
    · intro f escapes
      rw [(wholeNumber_eq_fault_iff set).mpr escapes] at refused
      cases refused
      cases kind
  · rintro ⟨negative, noFault⟩
    -- what is neither taken nor a fault is an error, and those have a kind
    cases outcome : wholeNumber name default v with
    | ok n =>
      obtain ⟨cut, nonneg⟩ := (wholeNumber_eq_ok_iff set).mp outcome
      exact absurd (negative n cut) (Int.not_lt.mpr nonneg)
    | error e =>
      rcases kind?_of_wholeNumber set outcome with ⟨f, rfl⟩ | kind
      · exact absurd ((wholeNumber_eq_fault_iff set).mp outcome) (noFault f)
      · exact ⟨e, rfl, kind⟩

/-- A text with a sign, padding and an underscore. -/
theorem wholeNumber_exact_grouped :
    isUnset (.text " +1_000 ") = false ∧
      wholeNumber ttl defaultTtlSeconds (.text " +1_000 ") = .ok 1000 := by
  have set : isUnset (.text " +1_000 ") = false := by decide +kernel
  have spelled : Numeral.Denotes " +1_000 ".toList 1000 :=
    Numeral.read_eq_ok_iff.mp (show Numeral.read "" " +1_000 ".toList = .ok 1000 by decide +kernel)
  exact ⟨set, ((wholeNumber_exact ttl defaultTtlSeconds set).1 1000).mpr
    ⟨.inl (.text spelled), by decide⟩⟩

/-- One and a half is no integer, and taken for one; minus a half is taken for zero. An infinite
number is no error of configuration. -/
theorem wholeNumber_takes_fractions :
    (∀ n, ¬ IsWhole (.real (.ofDecimal false 15 (-1))) n) ∧
    wholeNumber ttl defaultTtlSeconds (.real (.ofDecimal false 15 (-1))) = .ok 1 ∧
    (∀ n, ¬ IsWhole (.real (.ofDecimal true 5 (-1))) n) ∧
    wholeNumber ttl defaultTtlSeconds (.real (.ofDecimal true 5 (-1))) = .ok 0 ∧
    wholeNumber ttl defaultTtlSeconds (.real (.infinite false)) =
      .error (.fault .wholeOfInfinity) := by
  have inexact {x : Binary64} (fraction : x.exactInt? = none) (n : Int) :
      ¬ IsWhole (.real x) n := by
    intro stands
    cases stands with
    | real whole =>
      rw [fraction] at whole
      cases whole
  refine ⟨inexact (by decide +kernel), ?_, inexact (by decide +kernel), ?_, rfl⟩
  · rw [wholeNumber_eq_ok_iff rfl]
    exact ⟨cutTo_real_iff.mpr (by decide +kernel), by decide⟩
  · rw [wholeNumber_eq_ok_iff rfl]
    exact ⟨cutTo_real_iff.mpr (by decide +kernel), by decide⟩

end Property

end SignedLink
