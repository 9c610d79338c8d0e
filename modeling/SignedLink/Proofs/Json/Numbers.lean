import SignedLink.Proofs.Json.Strings
import SignedLink.Proofs.Number.Layout
import SignedLink.Proofs.Text.Decimal
/-!
# SignedLink — numbers in JSON are read back

The text of an integer is read back as the integer, and the text of any other
number as that number. Of the latter only the value is certain, as its digits
may be laid out in several ways; the value rounds to the number, and so does
what the reader makes of the digits.

* `EndsNumber`: what cannot go on with a number that stands in front of it.
* `number_eq`: the sign and the whole digits are taken first, `numberAfter` says what follows.
* `gives_number`, `number_of_long`: an integer is read back, unless it has too many digits.
* `gives_real`: a number in its normal form is read back, and so are the words for what is none.
-/

namespace SignedLink.Json

open Shortest

variable {rest : List Char}

/-! ## Where digits end -/

/-- The text cannot go on with a number that stands in front of it. -/
def EndsNumber (text : List Char) : Prop :=
  ∀ c ∈ text.head?, Text.isAsciiDigit c = false ∧ c ≠ '.' ∧ c ≠ 'e' ∧ c ≠ 'E'

/-- No digit comes next. -/
def EndsDigits (text : List Char) : Prop :=
  ∀ c ∈ text.head?, Text.isAsciiDigit c = false

theorem EndsNumber.endsDigits (ends : EndsNumber rest) : EndsDigits rest :=
  fun c head => (ends c head).1

theorem takeWhile_digits {digits text : List Char}
    (all : ∀ c ∈ digits, Text.isAsciiDigit c = true) (ends : EndsDigits text) :
    (digits ++ text).takeWhile Text.isAsciiDigit = digits := by
  rw [List.takeWhile_append_of_pos all]
  cases text with
  | nil => simp
  | cons c text => simp [ends c rfl]

theorem exponentPart_ends (ends : EndsNumber rest) : exponentPart rest = none := by
  cases rest with
  | nil => rfl
  | cons c rest =>
    obtain ⟨-, -, noSmall, noLarge⟩ := ends c rfl
    simp [exponentPart, noSmall, noLarge]

/-! ## The whole digits -/

/-- The digits of the fraction at the front. -/
def fractionOf (text : List Char) : List Char :=
  match text with
  | '.' :: rest => rest.takeWhile Text.isAsciiDigit
  | _ => []

theorem fractionOf_of_noPoint {text : List Char} (noPoint : ∀ c ∈ text.head?, c ≠ '.') :
    fractionOf text = [] := by
  unfold fractionOf
  split
  · exact absurd rfl (noPoint '.' rfl)
  · rfl

/-- What is read behind the whole digits. -/
def numberAfter (pos length : Nat) (negative : Bool) (whole text : List Char) : Reading Document :=
  let fraction := fractionOf text
  let afterFraction := if fraction.isEmpty then text else text.drop (fraction.length + 1)
  let exponent := exponentPart afterFraction
  let rest := afterFraction.drop ((exponent.map (·.2)).getD 0)
  let next := pos + (length - rest.length)
  if fraction.isEmpty && exponent.isNone then
    if Fault.numeralLimit < whole.length then .error ⟨.longNumeral, pos⟩
    else .ok (.integer (Numeral.signed negative (Text.natOfDigits whole)), next, rest)
  else
    let power := (exponent.map (·.1)).getD 0 - fraction.length
    .ok (.real (.ofDecimal negative (Text.natOfDigits (whole ++ fraction)) power), next, rest)

/-- A sign and the whole digits are taken first. Only a single digit may be zero in front. -/
theorem number_eq {first : Char} {digits text : List Char}
    (all : ∀ c ∈ first :: digits, Text.isAsciiDigit c = true)
    (canonical : first = '0' → digits = []) (ends : EndsDigits text) (negative : Bool) (pos : Nat) :
    number pos ((if negative then ['-'] else []) ++ first :: (digits ++ text)) =
      numberAfter pos ((if negative then ['-'] else []) ++ first :: (digits ++ text)).length
        negative (first :: digits) text := by
  have noSign : first ≠ '-' := Text.ne_of_isAsciiDigit (all first List.mem_cons_self) (by decide)
  have taken := takeWhile_digits all ends
  have dropped : (first :: (digits ++ text)).drop (first :: digits).length = text :=
    List.drop_left' rfl
  rw [List.cons_append] at taken
  by_cases zero : first = '0'
  · -- a zero in front is the only digit, and the reader takes no other
    obtain rfl := canonical zero
    obtain rfl := zero
    cases negative <;> rfl
  · -- else the reader takes all digits, up to the end of the number
    cases negative with
    | false =>
      simp only [Bool.false_eq_true, if_false, List.nil_append]
      rw [number]
      · simp only [taken, dropped, List.isEmpty_cons, Bool.false_eq_true, if_false]
        rfl
      · exact fun _ same => noSign (List.cons.inj same).1
      · exact fun _ same => zero (List.cons.inj same).1
    | true =>
      simp only [if_true, List.cons_append, List.nil_append]
      rw [number]
      · simp only [taken, dropped, List.isEmpty_cons, Bool.false_eq_true, if_false]
        rfl
      · exact fun _ same => zero (List.cons.inj same).1

/-! ## Integers -/

/-- A row of digits is read as an integer, after a sign as its opposite. -/
theorem gives_digits {first : Char} {digits : List Char}
    (all : ∀ c ∈ first :: digits, Text.isAsciiDigit c = true)
    (canonical : first = '0' → digits = [])
    (short : (first :: digits).length ≤ Fault.numeralLimit) (ends : EndsNumber rest)
    (negative : Bool) (pos : Nat) :
    Gives (number pos ((if negative then ['-'] else []) ++ first :: (digits ++ rest)))
      (.integer (Numeral.signed negative (Text.natOfDigits (first :: digits)))) rest := by
  rw [number_eq all canonical ends.endsDigits, numberAfter,
    fractionOf_of_noPoint fun c head => (ends c head).2.1]
  simp only [List.isEmpty_nil, if_true, exponentPart_ends ends, Option.isNone_none, Bool.and_self,
    if_neg (Nat.not_lt.mpr short), Option.map_none, Option.getD_none, List.drop_zero]
  exact ⟨_, rfl⟩

/-- A longer row of digits is refused. -/
theorem number_of_long {first : Char} {digits : List Char}
    (all : ∀ c ∈ first :: digits, Text.isAsciiDigit c = true)
    (canonical : first = '0' → digits = [])
    (long : Fault.numeralLimit < (first :: digits).length) (ends : EndsNumber rest)
    (negative : Bool) (pos : Nat) :
    number pos ((if negative then ['-'] else []) ++ first :: (digits ++ rest)) =
      .error ⟨.longNumeral, pos⟩ := by
  rw [number_eq all canonical ends.endsDigits, numberAfter,
    fractionOf_of_noPoint fun c head => (ends c head).2.1]
  simp only [List.isEmpty_nil, if_true, exponentPart_ends ends, Option.isNone_none, Bool.and_self,
    if_pos long]

theorem gives_number {n : Int} (short : (Nat.toDigits 10 n.natAbs).length ≤ Fault.numeralLimit)
    (ends : EndsNumber rest) (pos : Nat) :
    Gives (number pos (Text.decimal n ++ rest)) (.integer n) rest := by
  -- a sign if it is negative, and digits of which only a single one may be zero in front
  obtain ⟨first, digits, split, -, shape⟩ := Text.decimal_eq_append n
  have all (c : Char) (mem : c ∈ first :: digits) : Text.isAsciiDigit c = true :=
    Text.isAsciiDigit_of_mem_toDigits (n := n.natAbs) (split ▸ mem)
  have canonical (zero : first = '0') : digits = [] :=
    (Text.toDigits_eq_zero_cons (n := n.natAbs) (zero ▸ split)).2
  have value : Numeral.signed (decide (n < 0)) (Text.natOfDigits (first :: digits)) = n := by
    rw [← split, Text.natOfDigits_toDigits, Numeral.signed]
    by_cases negative : n < 0
    · rw [if_pos (by simpa using negative)]
      omega
    · rw [if_neg (by simpa using negative)]
      omega
  have given := gives_digits all canonical (split ▸ short) ends (decide (n < 0)) pos
  rw [value] at given
  rw [shape, List.append_assoc, List.cons_append]
  exact given

/-! ## Numbers with a fraction or an exponent -/

variable {p : Parts}

theorem natOfDigits_decimalPadded (width n : Nat) :
    Text.natOfDigits (Text.decimalPadded width n) = n := by
  rw [Text.decimalPadded, natOfDigits_zeros_append, Text.natOfDigits_toDigits]

theorem exponentPart_digits {digits : List Char}
    (all : ∀ c ∈ digits, Text.isAsciiDigit c = true) (nonempty : digits ≠ [])
    (ends : EndsDigits rest) (negative : Bool) :
    exponentPart ('e' :: (if negative then '-' else '+') :: (digits ++ rest)) =
      some (Numeral.signed negative (Text.natOfDigits digits), digits.length + 2) := by
  have taken := takeWhile_digits all ends
  cases negative with
  | false =>
    simp [exponentPart, Numeral.takeSign, taken, nonempty]
    omega
  | true =>
    simp [exponentPart, Numeral.takeSign, taken, nonempty]
    omega

theorem exponentPart_exponentText (ends : EndsNumber rest) :
    exponentPart (p.exponentText ++ rest) =
      p.exponent.map fun e => (e, p.exponentText.length) := by
  unfold Parts.exponentText
  cases p.exponent with
  | none => exact exponentPart_ends ends
  | some e =>
    have all : ∀ c ∈ Text.decimalPadded 2 e.natAbs, Text.isAsciiDigit c = true := by
      intro c mem
      rcases List.mem_append.mp mem with zero | digit
      · rw [(List.mem_replicate.mp zero).2]
        decide
      · exact Text.isAsciiDigit_of_mem_toDigits digit
    have nonempty : Text.decimalPadded 2 e.natAbs ≠ [] := by
      simp [Text.decimalPadded, Nat.toDigits_ne_nil]
    have read := exponentPart_digits all nonempty ends.endsDigits (decide (e < 0))
    have sign : (if decide (e < 0) = true then '-' else '+') = if 0 ≤ e then '+' else '-' := by
      rcases Int.lt_or_le e 0 with negative | positive
      · simp [negative, Int.not_le.mpr negative]
      · simp [positive, Int.not_lt.mpr positive]
    have value : Numeral.signed (decide (e < 0)) e.natAbs = e := by
      unfold Numeral.signed
      split
      · next negative =>
        have := of_decide_eq_true negative
        omega
      · next positive =>
        have := of_decide_eq_false (Bool.eq_false_iff.mpr positive)
        omega
    rw [natOfDigits_decimalPadded, value, sign] at read
    simpa using read

theorem endsDigits_exponentText (ends : EndsNumber rest) : EndsDigits (p.exponentText ++ rest) := by
  unfold Parts.exponentText
  split
  · exact ends.endsDigits
  · rintro c ⟨⟩
    decide

theorem endsDigits_fractionText (ends : EndsNumber rest) :
    EndsDigits (p.fractionText ++ (p.exponentText ++ rest)) := by
  unfold Parts.fractionText
  split
  · exact endsDigits_exponentText ends
  · rintro c ⟨⟩
    decide

theorem fractionOf_fractionText (digits : ∀ c ∈ p.fraction, Text.isAsciiDigit c = true)
    (ends : EndsNumber rest) :
    fractionOf (p.fractionText ++ (p.exponentText ++ rest)) = p.fraction := by
  unfold Parts.fractionText
  split
  · next empty =>
    rw [List.isEmpty_iff.mp empty]
    refine fractionOf_of_noPoint ?_
    unfold Parts.exponentText
    split
    · exact fun c head => (ends c head).2.1
    · rintro c ⟨⟩
      decide
  · exact takeWhile_digits digits (endsDigits_exponentText ends)

/-- A numeral with a fraction or an exponent is read by its digits and its power of ten. -/
theorem gives_parts (numeral : p.IsNumeral) (ends : EndsNumber rest) (negative : Bool) (pos : Nat) :
    Gives (number pos ((if negative then ['-'] else []) ++ (p.text ++ rest)))
      (.real (.ofDecimal negative p.digits p.power)) rest := by
  obtain ⟨first, more, whole, canonical⟩ := numeral.canonical
  -- the reader cuts the text where its parts were put together
  have shape : p.text ++ rest =
      first :: (more ++ (p.fractionText ++ (p.exponentText ++ rest))) := by
    simp [Parts.text, whole]
  have behind : (if p.fraction.isEmpty then p.fractionText ++ (p.exponentText ++ rest)
      else (p.fractionText ++ (p.exponentText ++ rest)).drop (p.fraction.length + 1)) =
        p.exponentText ++ rest := by
    unfold Parts.fractionText
    split
    · rfl
    · exact List.drop_left' rfl
  have after : (p.exponentText ++ rest).drop
      (((p.exponent.map fun e => (e, p.exponentText.length)).map (·.2)).getD 0) = rest := by
    cases shown : p.exponent with
    | none => simp [Parts.exponentText, shown]
    | some e => exact List.drop_left' rfl
  have power : ((p.exponent.map fun e => (e, p.exponentText.length)).map (·.1)).getD 0 =
      p.exponent.getD 0 := by
    cases p.exponent <;> rfl
  have real : (p.fraction.isEmpty && (p.exponent.map fun e => (e, p.exponentText.length)).isNone) =
      false := by
    rcases numeral.real with places | power
    · simp [places]
    · cases shown : p.exponent with
      | none => simp [shown] at power
      | some e => simp
  rw [shape, number_eq (whole ▸ numeral.whole) canonical (endsDigits_fractionText ends),
    numberAfter, fractionOf_fractionText numeral.fraction ends]
  dsimp only
  rw [behind, exponentPart_exponentText ends, after, power, real, ← whole]
  exact ⟨_, rfl⟩

/-! ## Every number -/

/-- No word is the beginning of a text with a digit in front, or with one behind a minus sign. -/
theorem wordOrNumber_of_digit {first : Char} (digit : Text.isAsciiDigit first = true)
    (negative : Bool) (text : List Char) (pos : Nat) :
    wordOrNumber pos ((if negative then ['-'] else []) ++ first :: text) =
      number pos ((if negative then ['-'] else []) ++ first :: text) := by
  have other {c : Char} (noDigit : Text.isAsciiDigit c = false) : c ≠ first :=
    (Text.ne_of_isAsciiDigit digit noDigit).symm
  have noWord : words.find? (fun w => w.1.isPrefixOf
      ((if negative then ['-'] else []) ++ first :: text)) = none := by
    cases negative <;>
      simp [words, other (c := 'n') (by decide), other (c := 't') (by decide),
        other (c := 'f') (by decide), other (c := 'N') (by decide), other (c := 'I') (by decide),
        other (c := '-') (by decide)]
  rw [wordOrNumber, noWord]

/-- A numeral is read as one, and not as a word. -/
theorem gives_numeral (numeral : p.IsNumeral) (ends : EndsNumber rest) (negative : Bool)
    (pos : Nat) : Gives (wordOrNumber pos ((if negative then ['-'] else []) ++ (p.text ++ rest)))
      (.real (.ofDecimal negative p.digits p.power)) rest := by
  obtain ⟨first, more, whole, -⟩ := numeral.canonical
  have given := gives_parts numeral ends negative pos
  have digit := numeral.whole first (whole ▸ List.mem_cons_self)
  rw [Parts.text, whole, List.append_assoc, List.cons_append] at given ⊢
  rwa [wordOrNumber_of_digit digit]

/-- A number in its normal form is read back. -/
theorem gives_real {x : Binary64} (proper : x.IsProper) (ends : EndsNumber rest) (pos : Nat) :
    Gives (wordOrNumber pos (data.text x ++ rest)) (.real x) rest := by
  cases proper with
  | nan => exact ⟨_, rfl⟩
  | infinite negative => cases negative <;> exact ⟨_, rfl⟩
  | zero negative =>
    have zero : Parts.IsNumeral ⟨['0'], ['0'], none⟩ :=
      ⟨List.forall_mem_singleton.mpr rfl, List.forall_mem_singleton.mpr rfl,
        ⟨'0', [], rfl, fun _ => rfl⟩, .inl (by decide)⟩
    have given := gives_numeral zero ends negative pos
    rwa [← List.append_assoc] at given
  | @finite negative m e fits =>
    -- the digits are not those of the number, but they round to it
    obtain ⟨p, numeral, text, value⟩ := exists_parts_text fits negative
    have rounds := roundsTo_shortest fits
    rw [← value] at rounds
    have given := gives_numeral numeral ends negative pos
    rwa [Binary64.ofDecimal_of_roundsTo fits rounds, ← List.append_assoc, ← text] at given

end SignedLink.Json
