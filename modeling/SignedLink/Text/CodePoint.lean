import SignedLink.Text.Quoted
/-!
# SignedLink — code points

A text from outside can hold halves of surrogate pairs that stand alone. Such a
half is a code point but no character, and no encoding has octets for it. Where
it is enough to see a text, U+FFFD stands for each half.

* `ofNat_toNat`: the code point of a character's number is the character.
-/

namespace SignedLink.Text

/-- A half of a surrogate pair, by its place among the halves. -/
abbrev Half := Fin 0x800

/-- A code point. -/
inductive CodePoint where
  | scalar (c : Char)
  /-- a half of a surrogate pair that stands alone -/
  | half (h : Half)
deriving DecidableEq

namespace CodePoint

/-- The code point of a number. -/
def ofNat (n : Nat) : CodePoint :=
  if h : 0xD800 ≤ n ∧ n < 0xE000 then .half ⟨n - 0xD800, by omega⟩ else .scalar (Char.ofNat n)

/-- The number of a code point. -/
def number : CodePoint → Nat
  | .scalar c => c.toNat
  | .half h => 0xD800 + h

/-- The character that is seen. -/
def seen : CodePoint → Char
  | .scalar c => c
  | .half _ => Char.ofNat 0xFFFD

def isHalf : CodePoint → Bool
  | .scalar _ => false
  | .half _ => true

/-- The code point of a character's number is the character. -/
theorem ofNat_toNat (c : Char) : ofNat c.toNat = .scalar c := by
  have valid := c.valid
  have value : c.val.toNat = c.toNat := rfl
  simp only [UInt32.isValidChar, Nat.isValidChar, value] at valid
  rw [ofNat, dif_neg (by omega), Char.ofNat_toNat]

end CodePoint

/-! ## Texts of code points -/

/-- A text of characters as one of code points. -/
def points (cs : List Char) : List CodePoint :=
  cs.map .scalar

/-- The text that is seen. -/
def seen (text : List CodePoint) : List Char :=
  text.map CodePoint.seen

@[simp] theorem seen_points (cs : List Char) : seen (points cs) = cs := by
  simp [seen, points, Function.comp_def, CodePoint.seen]

@[simp] theorem any_isHalf_points (cs : List Char) : (points cs).any CodePoint.isHalf = false := by
  simp [points, CodePoint.isHalf]

/-! ## Quoting -/

/-- One code point of a quoted text. -/
def escapePoint (quote : Char) : CodePoint → List Char
  | .scalar c => escapeChar quote c
  | .half h => numericEscape (CodePoint.half h).number

/-- The quoted form of a text of code points, which holds characters only. -/
def quotedPoints (text : List CodePoint) : List Char :=
  let quote := quoteFor (text.contains (.scalar apostrophe)) (text.contains (.scalar doubleQuote))
  quote :: (text.flatMap (escapePoint quote) ++ [quote])

end SignedLink.Text
