import Mathlib.Data.List.TakeWhile
import SignedLink.Proofs.Text.Decimal
import SignedLink.Validation
import SignedLink.Value.Written
/-!
# SignedLink — what is read from JSON can be written

Integers with too many digits are neither read nor written, and both sides
draw the line at the same place. So a document that was read holds no integer
that could not be told in a message or asked for in a query, at whatever depth
it stands, and neither does a field that was read from such a document.

* `readDocument_isWritable`: whatever is read from JSON can be written.
* `Checked.integer_isWritable`: an integer that is read from a value that can be written can be
  written.
-/

namespace SignedLink

/-! ## Numerals -/

namespace Numeral

theorem ofDigits_lt {digits : List Nat} (small : ∀ d ∈ digits, d < 10) :
    ofDigits digits < 10 ^ digits.length := by
  suffices ∀ n, digits.foldl (fun n d => 10 * n + d) n < (n + 1) * 10 ^ digits.length by
    simpa [ofDigits] using this 0
  induction digits with
  | nil => simp
  | cons d rest ih =>
    intro n
    have digit := small d List.mem_cons_self
    have later := ih (fun e mem => small e (List.mem_cons_of_mem _ mem)) (10 * n + d)
    rw [List.foldl_cons, List.length_cons, Nat.pow_succ]
    -- one more digit makes room for one more factor of ten
    calc rest.foldl (fun n d => 10 * n + d) (10 * n + d)
        < (10 * n + d + 1) * 10 ^ rest.length := later
      _ ≤ ((n + 1) * 10) * 10 ^ rest.length := Nat.mul_le_mul_right _ (by omega)
      _ = (n + 1) * (10 ^ rest.length * 10) := by
        rw [Nat.mul_assoc, Nat.mul_comm 10 (10 ^ rest.length)]

/-- A row of digits makes an integer that is written with no more of them. -/
theorem isWritable_signed_of_lt {digits : List Nat} (negative : Bool)
    (small : ∀ d ∈ digits, d < 10) (short : digits.length ≤ Fault.numeralLimit) :
    (Value.integer (signed negative (ofDigits digits))).isWritable = true := by
  have below : ofDigits digits < 10 ^ Fault.numeralLimit :=
    Nat.lt_of_lt_of_le (ofDigits_lt small) (Nat.pow_le_pow_right (by decide) short)
  have magnitude : (signed negative (ofDigits digits)).natAbs = ofDigits digits := by
    cases negative <;> simp [signed]
  rw [Value.isWritable_integer_iff, magnitude]
  exact below

/-- The same of a row of ASCII digits. -/
theorem isWritable_signed {cs : List Char} (negative : Bool)
    (digits : ∀ c ∈ cs, Text.isAsciiDigit c = true) (short : cs.length ≤ Fault.numeralLimit) :
    (Value.integer (signed negative (ofDigits (cs.map fun c => c.toNat - 48)))).isWritable =
      true := by
  refine isWritable_signed_of_lt negative ?_ (by simpa using short)
  simp only [List.mem_map]
  rintro d ⟨c, mem, rfl⟩
  have digit := digits c mem
  simp only [Text.isAsciiDigit, Bool.and_eq_true, decide_eq_true_eq] at digit
  omega

end Numeral

/-! ## Documents -/

namespace Json

variable {halves : Halves} {allowance depth pos next : Nat} {cs rest : List Char} {d : Document}
  {done : Members}

theorem number_isWritable (read : number pos cs = .ok (d, next, rest)) :
    d.seen.isWritable = true := by
  revert read
  unfold number
  split
  next negative body _ =>
  extract_lets whole afterWhole fraction afterFraction exponent left after power
  intro read
  split at read
  · cases read
  · split at read
    · -- an integer, with as many digits as were taken for it
      split at read
      · cases read
      · next short =>
        obtain ⟨rfl, -⟩ := Prod.mk.inj (Except.ok.inj read)
        have digits : ∀ c ∈ whole, Text.isAsciiDigit c = true := by
          intro c mem
          simp only [whole] at mem
          split at mem
          · rw [List.mem_singleton] at mem
            rw [mem]
            decide
          · exact List.mem_takeWhile_imp mem
        have := Numeral.isWritable_signed negative digits (by omega)
        rwa [Numeral.ofDigits, List.foldl_map] at this
    · obtain ⟨rfl, -⟩ := Prod.mk.inj (Except.ok.inj read)
      rfl

theorem wordOrNumber_isWritable (read : wordOrNumber pos cs = .ok (d, next, rest)) :
    d.seen.isWritable = true := by
  unfold wordOrNumber at read
  split at read
  · next word w found =>
    cases read
    have plain : words.all (fun w => w.2.seen.isWritable) = true := by decide
    exact List.all_eq_true.mp plain _ (List.mem_of_find?_eq_some found)
  · exact number_isWritable read

theorem haveWritable_put (name : List Text.CodePoint)
    (before : Value.haveWritable (Document.seenMembers done) = true)
    (writable : d.seen.isWritable = true) :
    Value.haveWritable (Document.seenMembers (done.put name d)) = true := by
  induction done with
  | nil => simp [Members.put, Document.seenMembers, Value.haveWritable, writable]
  | cons member others ih =>
    obtain ⟨k, e⟩ := member
    simp only [Document.seenMembers, Value.haveWritable, Bool.and_eq_true] at before
    unfold Members.put
    split
    · simp [Document.seenMembers, Value.haveWritable, writable, before.2]
    · simp [Document.seenMembers, Value.haveWritable, before.1, ih before.2]

theorem areWritable_reverse {items : List Document}
    (before : Value.areWritable (Document.seenItems items) = true) :
    Value.areWritable (Document.seenItems items.reverse) = true := by
  have each (ds : List Document) : Value.areWritable (Document.seenItems ds) =
      ds.all fun d => d.seen.isWritable := by
    induction ds with
    | nil => rfl
    | cons d others ih => rw [Document.seenItems, Value.areWritable, ih, List.all_cons]
  rw [each, List.all_reverse, ← each, before]

/-- What the three readers that call each other give with an allowance can be written. -/
structure ReadsWritable (allowance : Nat) : Prop where
  value : ∀ {halves depth pos next cs rest d},
    value halves allowance depth pos cs = .ok (d, next, rest) → d.seen.isWritable = true
  members : ∀ {halves depth done pos next cs rest d},
    Value.haveWritable (Document.seenMembers done) = true →
    members halves allowance depth done pos cs = .ok (d, next, rest) → d.seen.isWritable = true
  items : ∀ {halves depth done pos next cs rest d},
    Value.areWritable (Document.seenItems done) = true →
    items halves allowance depth done pos cs = .ok (d, next, rest) → d.seen.isWritable = true

theorem value_isWritable (less : ReadsWritable allowance)
    (read : value halves (allowance + 1) depth pos cs = .ok (d, next, rest)) :
    d.seen.isWritable = true := by
  cases cs with
  | nil => simp [value] at read
  | cons c cs =>
    -- the first character tells a text, a record, a list, and what is none of them
    unfold value at read
    split at read
    · split at read
      · cases read
      · cases read
        rfl
    split at read
    · split at read
      · cases read
      · dsimp only at read
        split at read
        · cases read
          rfl
        · exact less.members rfl read
    split at read
    · split at read
      · cases read
      · dsimp only at read
        split at read
        · cases read
          rfl
        · exact less.items rfl read
    · exact wordOrNumber_isWritable read

theorem members_isWritable (less : ReadsWritable allowance)
    (before : Value.haveWritable (Document.seenMembers done) = true)
    (read : members halves (allowance + 1) depth done pos cs = .ok (d, next, rest)) :
    d.seen.isWritable = true := by
  unfold members at read
  split at read
  · split at read
    · cases read
    · split at read
      · dsimp only at read
        split at read
        · cases read
        · next member =>
          -- a member replaces or follows those before it, and all of them can be written
          have all (name : List Text.CodePoint) := haveWritable_put name before (less.value member)
          split at read
          · cases read
            exact all _
          · exact less.members (all _) read
          · cases read
      · cases read
  · cases read

theorem items_isWritable (less : ReadsWritable allowance) {done : List Document}
    (before : Value.areWritable (Document.seenItems done) = true)
    (read : items halves (allowance + 1) depth done pos cs = .ok (d, next, rest)) :
    d.seen.isWritable = true := by
  unfold items at read
  split at read
  · cases read
  · next first _ _ item =>
    have all : Value.areWritable (Document.seenItems (first :: done)) = true := by
      rw [Document.seenItems, Value.areWritable, less.value item, before]
      rfl
    split at read
    · cases read
      exact areWritable_reverse all
    · exact less.items all read
    · cases read

theorem readsWritable (allowance : Nat) : ReadsWritable allowance := by
  induction allowance with
  | zero => exact ⟨by simp [value], by simp [members], by simp [items]⟩
  | succ allowance less =>
    exact ⟨value_isWritable less, members_isWritable less, items_isWritable less⟩

/-- Whatever is read from JSON can be written. -/
theorem readDocument_isWritable {text : List Text.CodePoint} (whole : readDocument text = .ok d) :
    d.seen.isWritable = true := by
  unfold readDocument documentWithin at whole
  dsimp only at whole
  split at whole
  · cases whole
  · next found =>
    split at whole
    · cases whole
      exact (readsWritable _).value found
    · cases whole

end Json

/-! ## Fields -/

theorem Value.isWritable_of_find? {fields : Fields} {name : String} {v : Value}
    (writable : haveWritable fields = true) (found : Fields.find? fields name = some v) :
    v.isWritable = true := by
  induction fields with
  | nil => cases found
  | cons field others ih =>
    obtain ⟨k, w⟩ := field
    simp only [haveWritable, Bool.and_eq_true] at writable
    rw [Fields.find?, List.lookup_cons] at found
    split at found
    · cases found
      exact writable.1
    · exact ih writable.2 found

theorem Value.isWritable_get {fields : Fields} (writable : haveWritable fields = true)
    (name : String) : (Fields.get fields name).isWritable = true := by
  unfold Fields.get
  cases found : Fields.find? fields name with
  | none => rfl
  | some v => exact isWritable_of_find? writable found

namespace Checked

variable {n : Int}

theorem strictInteger_isWritable {cs : List Char} (read : strictInteger cs = .ok n) :
    (Value.integer n).isWritable = true := by
  revert read
  unfold strictInteger
  generalize (if cs.head? == some '-' then (true, cs.drop 1) else (false, cs)) = signed
  obtain ⟨negative, body⟩ := signed
  dsimp only
  generalize (if negative then 1 else 0) = sign
  intro read
  split at read
  · cases read
  · split at read
    · cases read
    · next short =>
      split at read
      · cases read
      · cases read
        exact Numeral.isWritable_signed negative (fun c mem => List.mem_takeWhile_imp mem)
          (by omega)

theorem integerText_isWritable {cs : List Char} (read : integerText cs = .ok n) :
    (Value.integer n).isWritable = true := by
  unfold integerText at read
  dsimp only at read
  split at read
  · cases read
  · exact strictInteger_isWritable read

/-- An integer that is read from a value that can be written can be written. -/
theorem integer_isWritable {v : Value} (writable : v.isWritable = true)
    (read : integer v = .ok n) : (Value.integer n).isWritable = true := by
  cases v with
  | integer m =>
    cases read
    exact writable
  | boolean b =>
    cases read
    cases b <;> decide
  | real x =>
    -- such integers are words of 64 bits
    have small : n.natAbs < 2 ^ 63 := by
      simp only [integer, integerReal] at read
      split at read
      · split at read
        · cases read
        · split at read
          · next small =>
            cases read
            exact small
          · cases read
      · cases read
    have room : 2 ^ 63 < 10 ^ Fault.numeralLimit :=
      Nat.lt_of_lt_of_le (by decide : 2 ^ 63 < 10 ^ 20)
        (Nat.pow_le_pow_right (by decide) (by decide))
    exact Value.isWritable_integer_iff.mpr (Nat.lt_trans small room)
  | text s => exact integerText_isWritable read
  | octets bytes =>
    rw [integer] at read
    split at read
    · exact integerText_isWritable read
    · cases read
  | _ => cases read

end Checked

end SignedLink
