import SignedLink.Text.Hex
import SignedLink.Text.Printable
/-!
# SignedLink — quoted texts

A quoted text shows every character visibly: it stands between apostrophes, or
between double quotes when it holds an apostrophe and no double quote; the
quote in use and the backslash are escaped, and so is every character that is
not printable. Octet strings are quoted in the same way after a `b`.

* `isPrintable_of_mem_escapeChar`: an escaped character holds printable
  characters only, so no line break and no other control character.
* `isPrintable_of_mem_quoted`: so does a quoted text.
-/

namespace SignedLink.Text

/-- The apostrophe. -/
def apostrophe : Char := '\x27'

/-- The double quote. -/
def doubleQuote : Char := '\x22'

/-- The quote for a text, given which of the two occur in it. -/
def quoteFor (hasApostrophe hasDouble : Bool) : Char :=
  if hasApostrophe && !hasDouble then doubleQuote else apostrophe

/-- An escape by number: two, four or eight hexadecimal digits, as few as suffice. -/
def numericEscape (n : Nat) : List Char :=
  if n < 0x100 then '\\' :: 'x' :: hexPadded 2 n
  else if n < 0x10000 then '\\' :: 'u' :: hexPadded 4 n
  else '\\' :: 'U' :: hexPadded 8 n

/-- One character of a quoted text. -/
def escapeChar (quote c : Char) : List Char :=
  if c == quote || c == '\\' then ['\\', c]
  else if c == '\n' then ['\\', 'n']
  else if c == '\r' then ['\\', 'r']
  else if c == '\t' then ['\\', 't']
  else if isPrintable c then [c]
  else numericEscape c.toNat

/-- The quoted form of a text. -/
def quoted (cs : List Char) : List Char :=
  let quote := quoteFor (cs.contains apostrophe) (cs.contains doubleQuote)
  quote :: (cs.flatMap (escapeChar quote) ++ [quote])

/-- One octet of a quoted octet string: printable ASCII is shown, all else by number. -/
def escapeOctet (quote : Char) (b : UInt8) : List Char :=
  let c := Char.ofNat b.toNat
  if b < 0x80 then
    if c == quote || c == '\\' then ['\\', c]
    else if c == '\n' then ['\\', 'n']
    else if c == '\r' then ['\\', 'r']
    else if c == '\t' then ['\\', 't']
    else if decide (32 ≤ b.toNat) && decide (b.toNat < 127) then [c]
    else numericEscape b.toNat
  else numericEscape b.toNat

/-- The quoted form of an octet string. -/
def quotedOctets (bs : List UInt8) : List Char :=
  let quote := quoteFor (bs.contains 0x27) (bs.contains 0x22)
  'b' :: quote :: (bs.flatMap (escapeOctet quote) ++ [quote])

/-! ## What a quoted text can hold -/

/-- An escape by number is printable. -/
theorem isPrintable_of_mem_numericEscape {n : Nat} {c : Char} (h : c ∈ numericEscape n) :
    isPrintable c = true := by
  -- two marks, and digits behind them
  have visible : 32 < c.toNat ∧ c.toNat < 127 := by
    unfold numericEscape at h
    repeat' split at h
    all_goals
      simp only [List.mem_cons] at h
      rcases h with rfl | rfl | h
      · decide
      · decide
      · exact visible_of_mem_hexPadded h
  exact isPrintable_of_ascii (by omega) (by omega)

/-- Whatever the character, its escape under a printable quote is printable. -/
theorem isPrintable_of_mem_escapeChar {quote c d : Char} (hq : isPrintable quote = true)
    (h : d ∈ escapeChar quote c) : isPrintable d = true := by
  have marks : ['\\', 'n', 'r', 't'].all isPrintable = true := by decide +kernel
  have mark := List.all_eq_true.mp marks
  unfold escapeChar at h
  split at h
  · next same =>
    rcases List.mem_cons.mp h with rfl | h
    · exact mark _ (by simp)
    · rw [List.mem_singleton] at h
      subst h
      rcases Bool.or_eq_true .. ▸ same with same | same
      · rwa [eq_of_beq same]
      · rw [eq_of_beq same]
        exact mark _ (by simp)
  · split at h
    · exact mark _ (by simp at h ⊢; rcases h with rfl | rfl <;> simp)
    · split at h
      · exact mark _ (by simp at h ⊢; rcases h with rfl | rfl <;> simp)
      · split at h
        · exact mark _ (by simp at h ⊢; rcases h with rfl | rfl <;> simp)
        · split at h
          · next shown =>
            rw [List.mem_singleton] at h
            rwa [h]
          · exact isPrintable_of_mem_numericEscape h

/-- A quoted text holds printable characters only, whatever the text. -/
theorem isPrintable_of_mem_quoted {cs : List Char} {c : Char} (h : c ∈ quoted cs) :
    isPrintable c = true := by
  have hq (hasApostrophe hasDouble : Bool) :
      isPrintable (quoteFor hasApostrophe hasDouble) = true := by
    cases hasApostrophe <;> cases hasDouble <;> decide +kernel
  simp only [quoted, List.mem_cons, List.mem_append, List.mem_flatMap, List.not_mem_nil,
    or_false] at h
  rcases h with rfl | ⟨d, -, h⟩ | rfl
  · exact hq ..
  · exact isPrintable_of_mem_escapeChar (hq ..) h
  · exact hq ..

end SignedLink.Text
