import SignedLink.Json.Reader
import SignedLink.Json.Writer
/-!
# SignedLink — strings in JSON are read back

Every character that is written into a JSON string is read back as itself:
the characters with a short escape, those with an escape by number, the ones
beyond the basic plane as a pair of halves, and the rest as they are. A
character of the basic plane is no half of a pair, so it is never joined with
what follows it.

* `Gives`: what a reading gives, wherever in the text it stands.
* `fourHex?_hexPadded`: four hexadecimal digits are read back as their number.
* `stringBody_flatMap_escape`: an escaped string is read back up to its closing quote.
-/

namespace SignedLink.Json

/-- What a reading gives and leaves, whatever the position after it. -/
def Gives {α : Type} (reading : Reading α) (result : α) (rest : List Char) : Prop :=
  ∃ pos, reading = .ok (result, pos, rest)

/-! ## Escapes by number -/

theorem fourHex?_hexPadded {n : Nat} (small : n < 0x10000) (rest : List Char) :
    fourHex? (Text.hexPadded 4 n ++ rest) = some n := by
  have digit (k : Nat) : Text.hexValue? (Text.hexDigit (k % 16)) = some (k % 16) :=
    Text.hexValue?_hexDigit _ (Nat.mod_lt _ (by decide))
  simp only [Text.hexPadded, List.nil_append, List.cons_append, fourHex?, digit,
    Option.bind_eq_bind, Option.bind_some, Option.some.injEq]
  omega

theorem drop_hexPadded (n : Nat) (rest : List Char) :
    (Text.hexPadded 4 n ++ rest).drop 4 = rest :=
  List.drop_left' (Text.length_hexPadded 4 n)

/-- A number that is no first half of a pair stands for its own character. -/
theorem unicodeEscape_hexPadded {n : Nat} (small : n < 0x10000)
    (single : ¬ (0xD800 ≤ n ∧ n < 0xDC00)) (pos : Nat) {rest : List Char} (more : rest ≠ []) :
    unicodeEscape pos (Text.hexPadded 4 n ++ rest) = .ok (.ofNat n, 5) := by
  have long : ¬ (Text.hexPadded 4 n ++ rest).length < 5 := by
    have := List.length_pos_iff.mpr more
    simp
    omega
  have first : ∀ k, ¬ (0xD800 ≤ n ∧ n < 0xDC00 ∧ 5 ≤ k) := by omega
  simp only [unicodeEscape, fourHex?_hexPadded small, long, if_false, drop_hexPadded]
  -- an escape that follows is left alone, as only a first half asks for another
  split
  · rw [if_neg (first _)]
  · rfl

/-- The two halves of a pair stand for one character. -/
theorem unicodeEscape_pair (high low : Nat) (first : 0xD800 ≤ high ∧ high < 0xDC00)
    (second : 0xDC00 ≤ low ∧ low < 0xE000) (pos : Nat) {rest : List Char} (more : rest ≠ []) :
    unicodeEscape pos (Text.hexPadded 4 high ++ unitEscape low ++ rest) =
      .ok (.scalar (Char.ofNat (0x10000 + (high - 0xD800) * 0x400 + (low - 0xDC00))), 11) := by
  have long : ¬ (Text.hexPadded 4 high ++ (unitEscape low ++ rest)).length < 5 := by
    simp [unitEscape]
    omega
  have enough : 0xD800 ≤ high ∧ high < 0xDC00 ∧ 5 ≤ (Text.hexPadded 4 low ++ rest).length := by
    have := List.length_pos_iff.mpr more
    refine ⟨first.1, first.2, ?_⟩
    simp
    omega
  simp only [List.append_assoc, unicodeEscape, fourHex?_hexPadded (n := high) (by omega), long,
    if_false, drop_hexPadded]
  simp only [unitEscape, List.cons_append, fourHex?_hexPadded (n := low) (by omega)]
  rw [if_pos enough, if_pos second]

/-! ## One character -/

theorem stringBody_skip (start pos : Nat) (taken rest : List Char) :
    stringBody [] start taken.length pos (taken ++ rest) =
      stringBody [] start 0 (pos + taken.length) rest := by
  induction taken generalizing pos with
  | nil => rfl
  | cons c taken ih =>
    rw [List.length_cons, List.cons_append, stringBody, ih]
    congr 1
    omega

variable {start : Nat} {text rest : List Char} {ps : List Text.CodePoint}

theorem gives_of_escapeAt (taken : List Char) {p : Text.CodePoint} {pos : Nat}
    (escaped : escapeAt start pos (taken ++ text) = .ok (p, taken.length))
    (later : ∀ pos, Gives (stringBody [] start 0 pos text) ps rest) :
    Gives (stringBody [] start 0 pos ('\\' :: (taken ++ text))) (p :: ps) rest := by
  obtain ⟨last, body⟩ := later (pos + 1 + taken.length)
  refine ⟨last, ?_⟩
  rw [stringBody, if_neg (by decide), if_pos (by decide), escaped]
  simp only [stringBody_skip, body]

/-- A character that is written by number is read back. -/
theorem escapeAt_scalarEscape (c : Char) (start pos : Nat) (more : text ≠ []) :
    ∃ taken, scalarEscape c.toNat = '\\' :: taken ∧
      escapeAt start pos (taken ++ text) = .ok (.scalar c, taken.length) := by
  have valid := c.valid
  have value : c.val.toNat = c.toNat := rfl
  simp only [UInt32.isValidChar, Nat.isValidChar, value] at valid
  unfold scalarEscape
  split
  · next small =>
    refine ⟨'u' :: Text.hexPadded 4 c.toNat, rfl, ?_⟩
    rw [List.cons_append, escapeAt, unicodeEscape_hexPadded small (by omega) _ more,
      Text.CodePoint.ofNat_toNat]
    simp
  · next large =>
    refine ⟨'u' :: (Text.hexPadded 4 (0xD800 + (c.toNat - 0x10000) / 0x400) ++
      unitEscape (0xDC00 + (c.toNat - 0x10000) % 0x400)), rfl, ?_⟩
    -- the two halves hold the ten higher and the ten lower bits
    have joined : 0x10000 + (0xD800 + (c.toNat - 0x10000) / 0x400 - 0xD800) * 0x400 +
        (0xDC00 + (c.toNat - 0x10000) % 0x400 - 0xDC00) = c.toNat := by
      omega
    have pair := unicodeEscape_pair (0xD800 + (c.toNat - 0x10000) / 0x400)
      (0xDC00 + (c.toNat - 0x10000) % 0x400) (by omega) (by omega) (pos + 1) more
    rw [joined, Char.ofNat_toNat] at pair
    rw [List.cons_append, escapeAt, pair]
    simp [unitEscape]

/-- A character inside a string is read back, and reading goes on behind it. -/
theorem gives_escape (asciiOnly : Bool) (c : Char) (more : text ≠ [])
    (later : ∀ pos, Gives (stringBody [] start 0 pos text) ps rest) (pos : Nat) :
    Gives (stringBody [] start 0 pos (escape asciiOnly c ++ text)) (.scalar c :: ps) rest := by
  have short {d : Char} (known : escapeAt start pos (d :: text) = .ok (.scalar c, 1)) :
      Gives (stringBody [] start 0 pos (['\\', d] ++ text)) (.scalar c :: ps) rest :=
    gives_of_escapeAt [d] known later
  have numbered {n : Nat} (same : (c.toNat == n) = true) : Char.ofNat n = c := by
    rw [← beq_iff_eq.mp same, Char.ofNat_toNat]
  unfold escape
  -- seven characters have a short escape, and the writer looks for them one by one
  split
  · next same => rw [beq_iff_eq.mp same] at short ⊢; exact short rfl
  split
  · next same => rw [beq_iff_eq.mp same] at short ⊢; exact short rfl
  split
  · next same => rw [beq_iff_eq.mp same] at short ⊢; exact short rfl
  split
  · next same => rw [beq_iff_eq.mp same] at short ⊢; exact short rfl
  split
  · next same => rw [beq_iff_eq.mp same] at short ⊢; exact short rfl
  split
  · next same => rw [← numbered same] at short ⊢; exact short rfl
  split
  · next same => rw [← numbered same] at short ⊢; exact short rfl
  split
  · obtain ⟨taken, shape, escaped⟩ := escapeAt_scalarEscape c start pos more
    rw [shape]
    exact gives_of_escapeAt taken escaped later
  · next noQuote noBackslash _ _ _ _ _ plain =>
    -- what is left is written as it is: no quote, no backslash, no control character
    obtain ⟨last, body⟩ := later (pos + 1)
    have visible : ¬ c.toNat < 32 := by
      simp only [Bool.or_eq_true, decide_eq_true_eq, not_or] at plain
      exact plain.1
    rw [Text.doubleQuote] at noQuote
    refine ⟨last, ?_⟩
    rw [List.singleton_append, stringBody, if_neg noQuote, if_neg noBackslash, if_neg visible]
    simp only [body]
    rfl

/-! ## Whole strings -/

/-- An escaped string is read back up to its closing quote. -/
theorem stringBody_flatMap_escape (asciiOnly : Bool) (cs rest : List Char) (start : Nat) :
    ∀ pos, Gives (stringBody [] start 0 pos
      (cs.flatMap (escape asciiOnly) ++ Text.doubleQuote :: rest)) (Text.points cs) rest := by
  induction cs with
  | nil => exact fun pos => ⟨pos + 1, rfl⟩
  | cons c cs ih =>
    intro pos
    rw [List.flatMap_cons, List.append_assoc]
    -- the closing quote is still to come, so the text behind a character is never empty
    exact gives_escape asciiOnly c (by simp) ih pos

end SignedLink.Json
