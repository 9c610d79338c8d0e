import SignedLink.Proofs.Json.Writable
import SignedLink.Proofs.Text.Rewriting
import SignedLink.Value.Numeral
/-!
# SignedLink — the texts that spell an integer

The reader of integers looks for padding, a sign and digits from the left. What
it accepts can be said without it: a row of decimal digits, of any script, with
at most one underscore between two of them, behind a sign or none, and padding
around all. No text can be cut in two ways, since neither a sign nor a digit is
padding, and no digit is a sign or an underscore.

* `IsDigitRow`, `Denotes`: the rows of digits and the texts that spell an integer.
* `read_eq_ok_iff`: the reader accepts exactly these, with the integer they spell.
* `Denotes.isWritable`: what is spelled can also be written.
-/

namespace SignedLink

variable {c : Char} {d : Nat} {cs : List Char} {ds : List Nat}

/-! ## Digits -/

namespace Text

/-- A digit stands in the run of its script. -/
theorem exists_zero_of_digitValue? (digit : digitValue? c = some d) :
    ∃ start ∈ digitZeros, start ≤ c.toNat ∧ c.toNat ≤ start + 9 ∧ d = c.toNat - start := by
  obtain ⟨start, found, rfl⟩ := Option.map_eq_some_iff.mp digit
  have inRun := List.find?_some found
  simp only [Bool.and_eq_true, decide_eq_true_eq] at inRun
  exact ⟨start, List.mem_of_find?_eq_some found, inRun.1, inRun.2, rfl⟩

/-- A digit is no character that is not one. -/
theorem ne_of_digitValue? {e : Char} (digit : digitValue? c = some d)
    (noDigit : digitValue? e = none) : c ≠ e := by
  rintro rfl
  rw [digit] at noDigit
  cases noDigit

theorem lt_of_digitValue? (digit : digitValue? c = some d) : d < 10 := by
  obtain ⟨start, -, low, high, rfl⟩ := exists_zero_of_digitValue? digit
  omega

/-- No digit is a blank. -/
theorem not_isBlank_of_digitValue? (digit : digitValue? c = some d) : isBlank c = false := by
  obtain ⟨start, run, low, high, -⟩ := exists_zero_of_digitValue? digit
  have apart : digitZeros.all (fun start => blankRanges.all fun r =>
      decide (r.2 < start) || decide (start + 9 < r.1)) = true := by decide +kernel
  rw [isBlank, List.any_eq_false]
  intro range mem
  have outside := List.all_eq_true.mp (List.all_eq_true.mp apart start run) range mem
  simp only [Bool.or_eq_true, decide_eq_true_eq] at outside
  simp only [Bool.and_eq_true, decide_eq_true_eq, not_and]
  omega

end Text

namespace Numeral

/-- A digit is no padding. -/
theorem not_isPadding_of_digitValue? (digit : Text.digitValue? c = some d) :
    isPadding c = false := by
  have blank := Text.not_isBlank_of_digitValue? digit
  have space : Text.isPlainSpace c = false := by
    rw [Bool.eq_false_iff]
    intro space
    -- the spaces of ASCII are blanks
    simp only [Text.isPlainSpace, Bool.or_eq_true, Bool.and_eq_true, decide_eq_true_eq,
      beq_iff_eq] at space
    rw [Text.isBlank, List.any_eq_false] at blank
    rcases space with ⟨low, high⟩ | rfl
    · exact blank (0x09, 0x0D) (by decide) (by simp; omega)
    · exact blank (0x1C, 0x20) (by decide) (by decide)
  rw [isPadding, space, blank]
  rfl

/-! ## Spellings -/

/-- A row of digits with the values of the digits; at most one underscore stands between two. -/
inductive IsDigitRow : List Char → List Nat → Prop where
  | last {c : Char} {d : Nat} (digit : Text.digitValue? c = some d) : IsDigitRow [c] [d]
  | next {c : Char} {d : Nat} {cs : List Char} {ds : List Nat}
      (digit : Text.digitValue? c = some d) (more : IsDigitRow cs ds) :
      IsDigitRow (c :: cs) (d :: ds)
  | joint {c : Char} {d : Nat} {cs : List Char} {ds : List Nat}
      (digit : Text.digitValue? c = some d) (more : IsDigitRow cs ds) :
      IsDigitRow (c :: '_' :: cs) (d :: ds)

/-- A sign or none, and whether it is a minus. -/
inductive IsSign : List Char → Bool → Prop where
  | none : IsSign [] false
  | plus : IsSign ['+'] false
  | minus : IsSign ['-'] true

/-- A text spells an integer: between padding there is a sign or none, and digits, no more of them
than are read. -/
inductive Denotes : List Char → Int → Prop where
  | spelled {before sign body after : List Char} {negative : Bool} {digits : List Nat}
      (padded : ∀ c ∈ before ++ after, isPadding c = true) (marked : IsSign sign negative)
      (row : IsDigitRow body digits) (short : digits.length ≤ Fault.numeralLimit) :
      Denotes (before ++ (sign ++ body) ++ after) (signed negative (ofDigits digits))

/-! ## Rows of digits -/

theorem IsDigitRow.exists_cons (row : IsDigitRow cs ds) :
    ∃ c rest d, cs = c :: rest ∧ Text.digitValue? c = some d := by
  cases row with
  | last digit => exact ⟨_, _, _, rfl, digit⟩
  | next digit more => exact ⟨_, _, _, rfl, digit⟩
  | joint digit more => exact ⟨_, _, _, rfl, digit⟩

theorem IsDigitRow.exists_concat (row : IsDigitRow cs ds) :
    ∃ front c d, cs = front ++ [c] ∧ Text.digitValue? c = some d := by
  induction row with
  | last digit => exact ⟨[], _, _, rfl, digit⟩
  | @next c d cs ds digit more ih =>
    obtain ⟨front, last, value, rfl, ends⟩ := ih
    exact ⟨c :: front, last, value, rfl, ends⟩
  | @joint c d cs ds digit more ih =>
    obtain ⟨front, last, value, rfl, ends⟩ := ih
    exact ⟨c :: '_' :: front, last, value, rfl, ends⟩

theorem IsDigitRow.lt_ten (row : IsDigitRow cs ds) : ∀ d ∈ ds, d < 10 := by
  induction row with
  | last digit => exact List.forall_mem_singleton.mpr (Text.lt_of_digitValue? digit)
  | next digit more ih => exact List.forall_mem_cons.mpr ⟨Text.lt_of_digitValue? digit, ih⟩
  | joint digit more ih => exact List.forall_mem_cons.mpr ⟨Text.lt_of_digitValue? digit, ih⟩

theorem moreDigits_cons (digit : Text.digitValue? c = some d) (cs : List Char) :
    moreDigits Text.digitValue? (c :: cs) =
      (d :: (moreDigits Text.digitValue? cs).1, (moreDigits Text.digitValue? cs).2) := by
  have noJoint : c ≠ '_' := Text.ne_of_digitValue? digit (by decide +kernel)
  rw [moreDigits]
  · simp only [digit]
  · rintro e more joint -
    exact noJoint joint

theorem moreDigits_joint (digit : Text.digitValue? c = some d) (cs : List Char) :
    moreDigits Text.digitValue? ('_' :: c :: cs) =
      (d :: (moreDigits Text.digitValue? cs).1, (moreDigits Text.digitValue? cs).2) := by
  rw [moreDigits]
  simp only [digit]

/-- A row is read to its end, also behind an underscore. -/
theorem IsDigitRow.moreDigits_eq (row : IsDigitRow cs ds) :
    moreDigits Text.digitValue? cs = (ds, []) ∧
      moreDigits Text.digitValue? ('_' :: cs) = (ds, []) := by
  induction row with
  | last digit =>
    rw [moreDigits_cons digit, moreDigits_joint digit]
    exact ⟨rfl, rfl⟩
  | next digit more ih =>
    rw [moreDigits_cons digit, moreDigits_joint digit, ih.1]
    exact ⟨rfl, rfl⟩
  | joint digit more ih =>
    rw [moreDigits_cons digit, moreDigits_joint digit, ih.2]
    exact ⟨rfl, rfl⟩

/-- A row is read with its values. -/
theorem IsDigitRow.digitRun?_eq (row : IsDigitRow cs ds) :
    digitRun? Text.digitValue? cs = some (ds, []) := by
  obtain ⟨c, rest, d, rfl, digit⟩ := row.exists_cons
  have read := row.moreDigits_eq.1
  rw [moreDigits_cons digit] at read
  rw [digitRun?, digit, Option.map_some, read]

/-- What is read to its end behind a digit is nothing, or a row, or a row behind an underscore. -/
theorem cases_of_moreDigits (read : moreDigits Text.digitValue? cs = (ds, [])) :
    (cs = [] ∧ ds = []) ∨ IsDigitRow cs ds ∨ ∃ row, cs = '_' :: row ∧ IsDigitRow row ds := by
  -- behind a digit the rest is again of one of the three forms
  have row {c : Char} {d : Nat} {cs : List Char} {ds : List Nat}
      (digit : Text.digitValue? c = some d)
      (rest : (cs = [] ∧ ds = []) ∨ IsDigitRow cs ds ∨ ∃ row, cs = '_' :: row ∧ IsDigitRow row ds) :
      IsDigitRow (c :: cs) (d :: ds) := by
    rcases rest with ⟨rfl, rfl⟩ | more | ⟨behind, rfl, more⟩
    · exact .last digit
    · exact .next digit more
    · exact .joint digit more
  fun_induction moreDigits Text.digitValue? cs generalizing ds with
  | case1 =>
    cases read
    exact .inl ⟨rfl, rfl⟩
  | case2 c rest d digit ih =>
    obtain ⟨rfl, ends⟩ := Prod.mk.inj read
    exact .inr (.inr ⟨_, rfl, row digit (ih (Prod.ext rfl ends))⟩)
  | case3 c rest noDigit => cases (Prod.mk.inj read).2
  | case4 c rest joint d digit ih =>
    obtain ⟨rfl, ends⟩ := Prod.mk.inj read
    exact .inr (.inl (row digit (ih (Prod.ext rfl ends))))
  | case5 c rest joint noDigit => cases (Prod.mk.inj read).2

/-- What is read to its end is a row of digits. -/
theorem digitRun?_eq_some_iff :
    digitRun? Text.digitValue? cs = some (ds, []) ↔ IsDigitRow cs ds := by
  refine ⟨fun read => ?_, IsDigitRow.digitRun?_eq⟩
  cases cs with
  | nil => cases read
  | cons c rest =>
    obtain ⟨d, digit, read⟩ := Option.map_eq_some_iff.mp read
    obtain ⟨rfl, ends⟩ := Prod.mk.inj read
    rcases cases_of_moreDigits (Prod.ext rfl ends) with ⟨rfl, none⟩ | more | ⟨row, rfl, more⟩
    · show IsDigitRow [c] [d]
      exact .last digit
    · exact .next digit more
    · exact .joint digit more

/-! ## Signs and padding -/

/-- What stands in front of a row of digits is taken for a sign exactly when it is one, or
nothing. -/
theorem takeSign_eq_iff {negative : Bool} (row : IsDigitRow cs ds) {text : List Char} :
    takeSign text = (negative, cs) ↔ ∃ sign, IsSign sign negative ∧ text = sign ++ cs := by
  obtain ⟨c, rest, d, rfl, digit⟩ := row.exists_cons
  constructor
  · intro taken
    unfold takeSign at taken
    split at taken
    · obtain ⟨rfl, rfl⟩ := Prod.mk.inj taken
      exact ⟨_, .minus, rfl⟩
    · obtain ⟨rfl, rfl⟩ := Prod.mk.inj taken
      exact ⟨_, .plus, rfl⟩
    · obtain ⟨rfl, rfl⟩ := Prod.mk.inj taken
      exact ⟨_, .none, rfl⟩
  · rintro ⟨sign, marked, rfl⟩
    cases marked with
    | none =>
      -- a digit is no sign
      have plus : c ≠ '+' := Text.ne_of_digitValue? digit (by decide +kernel)
      have minus : c ≠ '-' := Text.ne_of_digitValue? digit (by decide +kernel)
      simp [takeSign, plus, minus]
    | plus => rfl
    | minus => rfl

/-- What stands between the padding of a numeral does not begin or end with padding. -/
theorem trimBy_isPadding_eq {before sign body after : List Char} {negative : Bool}
    {digits : List Nat} (padded : ∀ c ∈ before ++ after, isPadding c = true)
    (marked : IsSign sign negative) (row : IsDigitRow body digits) :
    Text.trimBy isPadding (before ++ (sign ++ body) ++ after) = sign ++ body := by
  obtain ⟨c, rest, d, begins, first⟩ := row.exists_cons
  obtain ⟨front, e, f, ends, last⟩ := row.exists_concat
  refine Text.trimBy_append padded ?_ ?_ ?_
  · intro h mem
    cases marked with
    | none =>
      rw [begins] at mem
      cases mem
      exact not_isPadding_of_digitValue? first
    | plus =>
      cases mem
      decide +kernel
    | minus =>
      cases mem
      decide +kernel
  · intro h mem
    rw [ends, ← List.append_assoc, List.getLast?_concat] at mem
    cases mem
    exact not_isPadding_of_digitValue? last
  · rw [begins]
    simp

/-! ## The reader -/

/-- What the reader accepts is a row of digits behind what it takes for a sign. -/
theorem exists_row_of_read {shown : String} {n : Int} (accepted : read shown cs = .ok n) :
    ∃ negative body digits, takeSign (Text.trimBy isPadding cs) = (negative, body) ∧
      IsDigitRow body digits ∧ digits.length ≤ Fault.numeralLimit ∧
      n = signed negative (ofDigits digits) := by
  unfold read at accepted
  cases taken : takeSign (Text.trimBy isPadding cs) with
  | mk negative body =>
    rw [taken] at accepted
    dsimp only at accepted
    cases run : digitRun? Text.digitValue? body with
    | none => simp [run] at accepted
    | some found =>
      obtain ⟨digits, rest⟩ := found
      simp only [run] at accepted
      split at accepted
      · cases accepted
      · split at accepted
        · cases accepted
        · next short =>
          split at accepted
          · next ended =>
            rw [List.isEmpty_iff.mp ended] at run
            exact ⟨negative, body, digits, rfl, digitRun?_eq_some_iff.mp run, Nat.not_lt.mp short,
              (Except.ok.inj accepted).symm⟩
          · cases accepted

/-- The reader accepts exactly the texts that spell an integer, with that integer. -/
theorem read_eq_ok_iff {shown : String} {n : Int} : read shown cs = .ok n ↔ Denotes cs n := by
  constructor
  · intro accepted
    obtain ⟨negative, body, digits, taken, row, short, rfl⟩ := exists_row_of_read accepted
    obtain ⟨sign, marked, trimmed⟩ := (takeSign_eq_iff row).mp taken
    obtain ⟨before, after, split, padded⟩ := Text.exists_trimBy isPadding cs
    rw [split, trimmed]
    exact .spelled padded marked row short
  · rintro ⟨padded, marked, row, short⟩
    have trimmed := trimBy_isPadding_eq padded marked row
    have taken := (takeSign_eq_iff row).mpr ⟨_, marked, rfl⟩
    rw [read, trimmed, taken]
    dsimp only
    rw [row.digitRun?_eq]
    simp only [List.head?_nil, List.isEmpty_nil, if_true, if_neg (Nat.not_lt.mpr short)]
    rfl

/-- What is spelled can be written. -/
theorem Denotes.isWritable {n : Int} (spelled : Denotes cs n) :
    (Value.integer n).isWritable = true := by
  obtain ⟨-, -, row, short⟩ := spelled
  exact isWritable_signed_of_lt _ row.lt_ten short

end Numeral

end SignedLink
