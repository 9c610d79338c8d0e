import Mathlib.Data.List.TakeWhile
import SignedLink.Proofs.Number.Shortest
import SignedLink.Proofs.Text.Decimal
/-!
# SignedLink — laid out decimals

A decimal is laid out in one of four ways: with all digits behind the point,
with all before it, with some on each side, or with an exponent. Each of them
is a numeral by its parts, and in each the parts say the same value: zeros that
are left out or put in, the point and the exponent make up for one another.

* `Parts.IsNumeral`: the numerals that are no integers.
* `IsLaidOut`, `exists_parts`: a layout is such a numeral, of the value that was laid out.
* `exists_parts_text`: the text of a number is a numeral of its shortest decimal.
* `visible_of_mem_text`: it is written in visible ASCII characters.
-/

namespace SignedLink.Shortest

open Binary64

/-! ## Rows of digits -/

theorem natOfDigits_foldl (n : Nat) (ds : List Char) :
    ds.foldl (fun n c => 10 * n + (c.toNat - 48)) n = n * 10 ^ ds.length + Text.natOfDigits ds := by
  unfold Text.natOfDigits
  induction ds using List.reverseRecOn with
  | nil => simp
  | append_singleton ds c ih =>
    rw [List.foldl_append, List.foldl_append, ih, List.length_append, List.length_singleton]
    simp only [List.foldl_cons, List.foldl_nil]
    ring

theorem natOfDigits_append (ds es : List Char) :
    Text.natOfDigits (ds ++ es) = Text.natOfDigits ds * 10 ^ es.length + Text.natOfDigits es := by
  rw [Text.natOfDigits, List.foldl_append, natOfDigits_foldl]
  rfl

theorem natOfDigits_zeros (n : Nat) : Text.natOfDigits (List.replicate n '0') = 0 := by
  induction n with
  | zero => rfl
  | succ n ih =>
    rw [List.replicate_succ', natOfDigits_append, ih]
    rfl

theorem natOfDigits_zero_cons (ds : List Char) :
    Text.natOfDigits ('0' :: ds) = Text.natOfDigits ds :=
  rfl

theorem natOfDigits_zeros_append (n : Nat) (ds : List Char) :
    Text.natOfDigits (List.replicate n '0' ++ ds) = Text.natOfDigits ds := by
  rw [natOfDigits_append, natOfDigits_zeros, Nat.zero_mul, Nat.zero_add]

/-- The digits of a number are its significant ones and zeros behind them. -/
theorem toDigits_eq_append (n : Nat) :
    ∃ zeros, Nat.toDigits 10 n = significantDigits n ++ List.replicate zeros '0' := by
  refine ⟨((Nat.toDigits 10 n).reverse.takeWhile (· == '0')).length, ?_⟩
  have split := congrArg List.reverse
    (List.takeWhile_append_dropWhile (p := (· == '0')) (l := (Nat.toDigits 10 n).reverse))
  rw [List.reverse_append, List.reverse_reverse] at split
  rw [significantDigits, ← split]
  congr 1
  · rw [split]
  · rw [split]
    refine List.eq_replicate_iff.mpr ⟨by simp, fun c mem => ?_⟩
    have := List.mem_takeWhile_imp (List.mem_reverse.mp mem)
    simpa using this

/-! ## Numerals -/

/-- The parts of a numeral that is no integer. -/
structure Parts where
  whole : List Char
  fraction : List Char
  exponent : Option Int

namespace Parts

def fractionText (p : Parts) : List Char :=
  if p.fraction.isEmpty then [] else '.' :: p.fraction

def exponentText (p : Parts) : List Char :=
  match p.exponent with
  | none => []
  | some e => 'e' :: (if 0 ≤ e then '+' else '-') :: Text.decimalPadded 2 e.natAbs

def text (p : Parts) : List Char :=
  p.whole ++ (p.fractionText ++ p.exponentText)

/-- All digits, without the point. -/
def digits (p : Parts) : Nat :=
  Text.natOfDigits (p.whole ++ p.fraction)

/-- The power of ten at the last digit. -/
def power (p : Parts) : Int :=
  p.exponent.getD 0 - p.fraction.length

/-- The parts make a numeral that nothing else is written as. -/
structure IsNumeral (p : Parts) : Prop where
  whole : ∀ c ∈ p.whole, Text.isAsciiDigit c = true
  fraction : ∀ c ∈ p.fraction, Text.isAsciiDigit c = true
  /-- a zero in front stands alone -/
  canonical : ∃ first more, p.whole = first :: more ∧ (first = '0' → more = [])
  /-- else it is the numeral of an integer -/
  real : p.fraction ≠ [] ∨ p.exponent.isSome = true

end Parts

/-! ## Layouts -/

/-- A row of digits as a layout gets them. -/
structure IsSignificand (ds : List Char) : Prop where
  digits : ∀ c ∈ ds, Text.isAsciiDigit c = true
  first : ∃ first more, ds = first :: more ∧ first ≠ '0'

theorem isSignificand_significantDigits {n : Nat} (nonzero : n ≠ 0) :
    IsSignificand (significantDigits n) := by
  obtain ⟨zeros, split⟩ := toDigits_eq_append n
  constructor
  · intro c mem
    exact Text.isAsciiDigit_of_mem_toDigits (split ▸ List.mem_append_left _ mem)
  · cases shape : significantDigits n with
    | nil =>
      -- zeros alone are the digits of no other number than zero
      rw [shape, List.nil_append] at split
      have value := congrArg Text.natOfDigits split
      rw [Text.natOfDigits_toDigits, natOfDigits_zeros] at value
      exact absurd value nonzero
    | cons first more =>
      refine ⟨first, more, rfl, ?_⟩
      rintro rfl
      rw [shape, List.cons_append] at split
      exact nonzero (Text.toDigits_eq_zero_cons split).1

namespace IsSignificand

variable {ds : List Char}

/-- Nothing stands before the point. -/
theorem behindPoint (significand : IsSignificand ds) (zeros : Nat) :
    Parts.IsNumeral ⟨['0'], List.replicate zeros '0' ++ ds, none⟩ := by
  obtain ⟨first, more, rfl, -⟩ := significand.first
  constructor
  · intro c mem
    rw [List.mem_singleton.mp mem]
    decide
  · intro c mem
    rcases List.mem_append.mp mem with zero | digit
    · rw [(List.mem_replicate.mp zero).2]
      decide
    · exact significand.digits c digit
  · exact ⟨'0', [], rfl, fun _ => rfl⟩
  · exact .inl (by simp)

/-- All digits stand before the point. -/
theorem beforePoint (significand : IsSignificand ds) (zeros : Nat) :
    Parts.IsNumeral ⟨ds ++ List.replicate zeros '0', ['0'], none⟩ := by
  obtain ⟨first, more, rfl, nonzero⟩ := significand.first
  constructor
  · intro c mem
    rcases List.mem_append.mp mem with digit | zero
    · exact significand.digits c digit
    · rw [(List.mem_replicate.mp zero).2]
      decide
  · intro c mem
    rw [List.mem_singleton.mp mem]
    decide
  · exact ⟨first, more ++ List.replicate zeros '0', rfl, fun zero => absurd zero nonzero⟩
  · exact .inl (by simp)

/-- The point stands between the digits. -/
theorem aroundPoint (significand : IsSignificand ds) {count : Nat} (pos : 0 < count)
    (less : count < ds.length) : Parts.IsNumeral ⟨ds.take count, ds.drop count, none⟩ := by
  obtain ⟨first, more, rfl, nonzero⟩ := significand.first
  constructor
  · exact fun c mem => significand.digits c (List.mem_of_mem_take mem)
  · exact fun c mem => significand.digits c (List.mem_of_mem_drop mem)
  · obtain ⟨count, rfl⟩ := Nat.exists_eq_add_one.mpr pos
    exact ⟨first, more.take count, rfl, fun zero => absurd zero nonzero⟩
  · exact .inl (List.ne_nil_of_length_pos (by rw [List.length_drop]; omega))

/-- One digit stands before the point, and an exponent behind. -/
theorem withExponent {first : Char} {more : List Char} (significand : IsSignificand (first :: more))
    (e : Int) : Parts.IsNumeral ⟨[first], more, some e⟩ := by
  constructor
  · intro c mem
    exact significand.digits c (List.mem_singleton.mp mem ▸ List.mem_cons_self)
  · exact fun c mem => significand.digits c (List.mem_cons_of_mem first mem)
  · exact ⟨first, [], rfl, fun _ => rfl⟩
  · exact .inr rfl

/-! ### Values -/

/-- The digits are laid out, with the point at a place, as a numeral of the same value. -/
structure IsLaidOut (ds : List Char) (point : Int) (p : Parts) : Prop where
  numeral : p.IsNumeral
  text : data.place ds point = p.text
  value : (p.digits : ℚ) * 10 ^ p.power = Text.natOfDigits ds * 10 ^ (point - ds.length)

theorem isLaidOut_behindPoint (significand : IsSignificand ds) {zeros : Nat}
    (positional : data.leastPoint ≤ -(zeros : Int) ∧ -(zeros : Int) ≤ data.greatestPoint) :
    IsLaidOut ds (-zeros) ⟨['0'], List.replicate zeros '0' ++ ds, none⟩ where
  numeral := significand.behindPoint zeros
  text := by
    obtain ⟨first, more, rfl, -⟩ := significand.first
    rw [Layout.place, if_pos positional, if_pos (by omega)]
    simp [Parts.text, Parts.fractionText, Parts.exponentText]
  value := by
    rw [Parts.digits, List.singleton_append, natOfDigits_zero_cons, natOfDigits_zeros_append,
      Parts.power, List.length_append, List.length_replicate]
    congr 2
    simp only [Option.getD_none]
    omega

theorem isLaidOut_aroundPoint (significand : IsSignificand ds) {count : Nat} (pos : 0 < count)
    (less : count < ds.length)
    (positional : data.leastPoint ≤ (count : Int) ∧ (count : Int) ≤ data.greatestPoint) :
    IsLaidOut ds count ⟨ds.take count, ds.drop count, none⟩ where
  numeral := significand.aroundPoint pos less
  text := by
    have more : ds.drop count ≠ [] := List.ne_nil_of_length_pos (by rw [List.length_drop]; omega)
    unfold Layout.place
    rw [if_pos positional, if_neg (by omega)]
    simp [Parts.text, Parts.fractionText, Parts.exponentText, more,
      Nat.sub_eq_zero_of_le less.le]
  value := by
    rw [Parts.digits, List.take_append_drop, Parts.power, List.length_drop]
    congr 2
    simp only [Option.getD_none]
    omega

theorem isLaidOut_beforePoint (significand : IsSignificand ds) {count : Nat} (pos : 0 < count)
    (all : ds.length ≤ count)
    (positional : data.leastPoint ≤ (count : Int) ∧ (count : Int) ≤ data.greatestPoint) :
    IsLaidOut ds count ⟨ds ++ List.replicate (count - ds.length) '0', ['0'], none⟩ where
  numeral := significand.beforePoint (count - ds.length)
  text := by
    unfold Layout.place
    rw [if_pos positional, if_neg (by omega)]
    simp [Parts.text, Parts.fractionText, Parts.exponentText, List.take_of_length_le all,
      List.drop_of_length_le all]
  value := by
    -- the zeros behind the digits are powers of ten, and one is taken back by the point
    have digits : Parts.digits ⟨ds ++ List.replicate (count - ds.length) '0', ['0'], none⟩ =
        Text.natOfDigits ds * 10 ^ (count - ds.length) * 10 := by
      rw [Parts.digits, natOfDigits_append, natOfDigits_append, natOfDigits_zeros,
        List.length_replicate, Nat.add_zero]
      rfl
    have power : Parts.power ⟨ds ++ List.replicate (count - ds.length) '0', ['0'], none⟩ = -1 := rfl
    have places : (count : Int) - ds.length = ((count - ds.length : Nat) : Int) := by omega
    rw [digits, power, places, zpow_natCast]
    push_cast
    rw [zpow_neg_one, mul_inv_cancel_right₀ (by norm_num)]

theorem isLaidOut_withExponent {first : Char} {more : List Char}
    (significand : IsSignificand (first :: more)) {point : Int}
    (far : ¬ (data.leastPoint ≤ point ∧ point ≤ data.greatestPoint)) :
    IsLaidOut (first :: more) point ⟨[first], more, some (point - 1)⟩ where
  numeral := significand.withExponent (point - 1)
  text := by
    rw [Layout.place, if_neg far]
    cases more with
    | nil => simp [Parts.text, Parts.fractionText, Parts.exponentText, data]
    | cons c more => simp [Parts.text, Parts.fractionText, Parts.exponentText, data]
  value := by
    rw [Parts.digits, Parts.power, List.singleton_append]
    congr 2
    simp only [Option.getD_some, List.length_cons]
    omega

/-- The layout of structured data is a numeral of the same value. -/
theorem exists_parts (significand : IsSignificand ds) (point : Int) :
    ∃ p : Parts, IsLaidOut ds point p := by
  by_cases positional : data.leastPoint ≤ point ∧ point ≤ data.greatestPoint
  · rcases Int.lt_or_le 0 point with before | behind
    · obtain ⟨count, rfl⟩ := Int.eq_ofNat_of_zero_le before.le
      rcases Nat.lt_or_ge count ds.length with less | all
      · exact ⟨_, isLaidOut_aroundPoint significand (by omega) less positional⟩
      · exact ⟨_, isLaidOut_beforePoint significand (by omega) all positional⟩
    · obtain ⟨zeros, rfl⟩ : ∃ n : Nat, point = -(n : Int) := ⟨(-point).toNat, by omega⟩
      exact ⟨_, isLaidOut_behindPoint significand positional⟩
  · obtain ⟨first, more, rfl, -⟩ := significand.first
    exact ⟨_, isLaidOut_withExponent significand positional⟩

end IsSignificand

/-- A number other than zero is laid out as a numeral of its shortest decimal. -/
theorem exists_parts_text {m : Nat} {e : Int} (fits : Fits m e) (negative : Bool) :
    ∃ p : Parts, p.IsNumeral ∧
      data.text (.finite negative m e) = (if negative then ['-'] else []) ++ p.text ∧
      (p.digits : ℚ) * 10 ^ p.power = (shortest m e).value := by
  have nonzero : (shortest m e).digits ≠ 0 := by
    have := (roundsTo_shortest fits).pos fits
    rintro zero
    rw [Decimal.value, zero] at this
    simp at this
  obtain ⟨zeros, split⟩ := toDigits_eq_append (shortest m e).digits
  obtain ⟨p, numeral, laidOut, value⟩ := (isSignificand_significantDigits nonzero).exists_parts
    ((shortest m e).exponent + (Nat.toDigits 10 (shortest m e).digits).length)
  refine ⟨p, numeral, ?_, ?_⟩
  · rw [Layout.text, if_neg (by simpa using fits.pos.ne')]
    exact congrArg _ laidOut
  · -- the zeros that are left out are powers of ten
    have digits : (shortest m e).digits =
        Text.natOfDigits (significantDigits (shortest m e).digits) * 10 ^ zeros := by
      have := congrArg Text.natOfDigits split
      rwa [Text.natOfDigits_toDigits, natOfDigits_append, natOfDigits_zeros,
        List.length_replicate, Nat.add_zero] at this
    rw [value, Decimal.value]
    conv_rhs => rw [digits]
    rw [split, List.length_append, List.length_replicate]
    push_cast
    rw [mul_assoc, ← zpow_natCast (10 : ℚ) zeros, ← zpow_add₀ (by norm_num)]
    congr 2
    omega

/-! ## Characters -/

/-- Digits, a point, and what an exponent has besides digits. -/
def InNumeral (c : Char) : Prop :=
  Text.isAsciiDigit c = true ∨ c ∈ ['.', 'e', '+', '-']

theorem inNumeral_zeros (n : Nat) : ∀ c ∈ List.replicate n '0', InNumeral c := by
  intro c mem
  rw [(List.mem_replicate.mp mem).2]
  exact .inl (by decide)

theorem inNumeral_place {ds : List Char} (digits : ∀ c ∈ ds, Text.isAsciiDigit c = true)
    (point : Int) : ∀ c ∈ data.place ds point, InNumeral c := by
  have all : ∀ c ∈ ds, InNumeral c := fun c mem => .inl (digits c mem)
  unfold Layout.place
  split
  · split
    · simp only [List.forall_mem_append]
      exact ⟨⟨by simp [InNumeral, Text.isAsciiDigit], inNumeral_zeros _⟩, all⟩
    · simp only [List.forall_mem_append, List.forall_mem_cons]
      refine ⟨⟨fun c mem => all c (List.mem_of_mem_take mem), inNumeral_zeros _⟩,
        .inr (by decide), ?_⟩
      split
      · exact inNumeral_zeros 1
      · exact fun c mem => all c (List.mem_of_mem_drop mem)
  · simp only [List.forall_mem_append, List.forall_mem_cons, Text.decimalPadded]
    refine ⟨?_, .inr (by decide), ?_, inNumeral_zeros _,
      fun c mem => .inl (Text.isAsciiDigit_of_mem_toDigits mem)⟩
    · split
      · next first more =>
        split
        · exact fun c mem => all c (List.mem_singleton.mp mem ▸ List.mem_cons_self)
        · simp only [List.forall_mem_cons] at all ⊢
          exact ⟨all.1, .inr (by decide), all.2⟩
      · simp
    · split <;> exact .inr (by decide)

theorem visible_of_all {text : List Char}
    (all : text.all (fun c => decide (32 < c.toNat ∧ c.toNat < 127)) = true) :
    ∀ c ∈ text, 32 < c.toNat ∧ c.toNat < 127 :=
  fun c mem => of_decide_eq_true (List.all_eq_true.mp all c mem)

/-- The text of a number is written in visible ASCII characters. -/
theorem visible_of_mem_text {x : Binary64} {c : Char} (mem : c ∈ data.text x) :
    32 < c.toNat ∧ c.toNat < 127 := by
  have ofNumeral {c : Char} (inside : InNumeral c) : 32 < c.toNat ∧ c.toNat < 127 := by
    rcases inside with digit | mark
    · simp only [Text.isAsciiDigit, Bool.and_eq_true, decide_eq_true_eq] at digit
      omega
    · exact visible_of_all (by decide) c mark
  have sign (negative : Bool) :
      ∀ c ∈ (if negative then ['-'] else []), 32 < c.toNat ∧ c.toNat < 127 := by
    cases negative <;> exact visible_of_all (by decide)
  revert c
  change ∀ c ∈ data.text x, _
  cases x with
  | nan => exact visible_of_all (by decide)
  | infinite negative =>
    rw [Layout.text, List.forall_mem_append]
    exact ⟨sign negative, visible_of_all (by decide)⟩
  | finite negative m e =>
    unfold Layout.text
    dsimp only
    split
    · rw [List.forall_mem_append]
      exact ⟨sign negative, visible_of_all (by decide)⟩
    · rw [List.forall_mem_append]
      refine ⟨sign negative, fun c mem => ofNumeral (inNumeral_place ?_ _ c mem)⟩
      obtain ⟨zeros, split⟩ := toDigits_eq_append (shortest m e).digits
      exact fun c mem => Text.isAsciiDigit_of_mem_toDigits (split ▸ List.mem_append_left _ mem)

end SignedLink.Shortest
