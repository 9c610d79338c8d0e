import SignedLink.Value.Numeral
/-!
# SignedLink — values written into messages

A message can tell a value only if its integers can be written: an integer
with more digits than a numeral may have is not, at whatever depth it stands
in the value.

* `isWritable_integer_iff`: the integers that can be written.
* `told_text`: a text can always be told.
* `written_integer`: an integer is told when its numeral is written.
-/

namespace SignedLink.Value

mutual

/-- Whether no integer in a value has more digits than are written. -/
def isWritable : Value → Bool
  | .integer n => decide ((Text.decimal n.natAbs).length ≤ Fault.numeralLimit)
  | .list items => areWritable items
  | .record fields => haveWritable fields
  | _ => true

/-- The same of the items of a list. -/
def areWritable : List Value → Bool
  | [] => true
  | v :: rest => isWritable v && areWritable rest

/-- The same of the values of fields. -/
def haveWritable : List (String × Value) → Bool
  | [] => true
  | (_, v) :: rest => isWritable v && haveWritable rest

end

/-- The exact form of a value, if it can be written. -/
def written (v : Value) : Except Fault String :=
  if v.isWritable then .ok v.shown else .error .longInteger

/-- The form of a value in running text, if it can be written. -/
def told (v : Value) : Except Fault String :=
  if v.isWritable then .ok v.plain else .error .longInteger

/-! ## Elementary facts -/

/-- An integer can be written exactly when it has no more digits than are written. -/
theorem isWritable_integer_iff {n : Int} :
    isWritable (.integer n) = true ↔ n.natAbs < 10 ^ Fault.numeralLimit := by
  rw [isWritable, decide_eq_true_eq]
  exact Nat.length_toDigits_le_iff (by decide) (by decide)

theorem told_text (s : String) : told (.text s) = .ok s := rfl

/-- An integer is told when its numeral is written. -/
theorem written_integer (n : Int) : written (.integer n) = Numeral.write n := by
  simp only [written, isWritable, Numeral.write, decide_eq_true_eq, shown, shownChars]
  by_cases long : Fault.numeralLimit < (Text.decimal n.natAbs).length
  · rw [if_neg (by omega), if_pos long]
  · rw [if_pos (by omega), if_neg long]

/-- What keeps a value from being written is an integer that is too long. -/
theorem written_eq_error_iff {v : Value} {f : Fault} :
    written v = .error f ↔ f = .longInteger ∧ v.isWritable = false := by
  cases writable : v.isWritable with
  | true => simp [written, writable]
  | false => simp [written, writable, eq_comm]

/-- The same holds of its form in running text. -/
theorem told_eq_error_iff {v : Value} {f : Fault} :
    told v = .error f ↔ f = .longInteger ∧ v.isWritable = false := by
  cases writable : v.isWritable with
  | true => simp [told, writable]
  | false => simp [told, writable, eq_comm]

end SignedLink.Value
