import SignedLink.Value.Shown
/-!
# SignedLink — writing JSON

Values as JSON text in one of three styles: the compact ASCII form that gets
signed, the spaced form of log lines, which keeps characters beyond ASCII, and
the compact form of answers. Octets and paths have no JSON form of their own
and are written as the text that shows them.

* `bounds_of_mem_escape`: no escaped character is a control character, and in an ASCII style none is
  beyond ASCII.
-/

namespace SignedLink.Json

/-- How JSON is laid out. -/
structure Style where
  /-- whether characters beyond ASCII (and U+007F) are written as escapes -/
  asciiOnly : Bool
  /-- what stands between members -/
  comma : List Char
  /-- what stands between a name and its value -/
  colon : List Char

/-- No spaces, ASCII only. -/
def Style.signed : Style := ⟨true, [','], [':']⟩

/-- A space after each comma and colon, all characters kept. -/
def Style.logged : Style := ⟨false, [',', ' '], [':', ' ']⟩

/-- No spaces, all characters kept. -/
def Style.answer : Style := ⟨false, [','], [':']⟩

/-- The escape `\uXXXX` of a 16-bit unit. -/
def unitEscape (n : Nat) : List Char :=
  '\\' :: 'u' :: Text.hexPadded 4 n

/-- The escape of any character: one unit, or a surrogate pair beyond the basic plane. -/
def scalarEscape (n : Nat) : List Char :=
  if n < 0x10000 then unitEscape n
  else unitEscape (0xD800 + (n - 0x10000) / 0x400) ++ unitEscape (0xDC00 + (n - 0x10000) % 0x400)

/-- One character inside a JSON string. -/
def escape (asciiOnly : Bool) (c : Char) : List Char :=
  if c == Text.doubleQuote then ['\\', Text.doubleQuote]
  else if c == '\\' then ['\\', '\\']
  else if c == '\n' then ['\\', 'n']
  else if c == '\r' then ['\\', 'r']
  else if c == '\t' then ['\\', 't']
  else if c.toNat == 8 then ['\\', 'b']
  else if c.toNat == 12 then ['\\', 'f']
  else if c.toNat < 32 || (asciiOnly && decide (126 < c.toNat)) then scalarEscape c.toNat
  else [c]

/-- A JSON string. -/
def string (asciiOnly : Bool) (cs : List Char) : List Char :=
  Text.doubleQuote :: (cs.flatMap (escape asciiOnly) ++ [Text.doubleQuote])

mutual

/-- The JSON text of a value. -/
def Style.write (style : Style) : Value → List Char
  | .null => "null".toList
  | .boolean b => if b then "true".toList else "false".toList
  | .integer n => Text.decimal n
  | .real x => Shortest.data.text x
  | .text s => string style.asciiOnly s.toList
  | .octets bytes => string style.asciiOnly (Text.quotedOctets bytes)
  | .path p => string style.asciiOnly p.toList
  | .list items => '[' :: (style.writeItems items ++ [']'])
  | .record fields => '\x7b' :: (style.writeFields fields ++ ['\x7d'])

/-- The items of an array. -/
def Style.writeItems (style : Style) : List Value → List Char
  | [] => []
  | v :: rest =>
    style.write v ++ (if rest.isEmpty then [] else style.comma) ++ style.writeItems rest

/-- The members of an object. -/
def Style.writeFields (style : Style) : List (String × Value) → List Char
  | [] => []
  | (k, v) :: rest =>
    string style.asciiOnly k.toList ++ style.colon ++ style.write v ++
      (if rest.isEmpty then [] else style.comma) ++ style.writeFields rest

end

/-- The JSON text of a value. -/
def Style.text (style : Style) (v : Value) : String :=
  .ofList (style.write v)

/-! ## What an escaped character can hold -/

private theorem visible_of_mem_scalarEscape {n : Nat} {c : Char} (h : c ∈ scalarEscape n) :
    32 < c.toNat ∧ c.toNat < 127 := by
  have unit {n : Nat} (h : c ∈ unitEscape n) : 32 < c.toNat ∧ c.toNat < 127 := by
    simp only [unitEscape, List.mem_cons] at h
    rcases h with rfl | rfl | h
    · decide
    · decide
    · exact Text.visible_of_mem_hexPadded h
  unfold scalarEscape at h
  split at h
  · exact unit h
  · exact (List.mem_append.mp h).elim unit unit

/-- No escaped character is a control character, and in an ASCII style none is beyond ASCII. -/
theorem bounds_of_mem_escape {asciiOnly : Bool} {c d : Char} (h : d ∈ escape asciiOnly c) :
    32 ≤ d.toNat ∧ (asciiOnly = true → d.toNat < 127) := by
  have visible (h : 32 < d.toNat ∧ d.toNat < 127) :
      32 ≤ d.toNat ∧ (asciiOnly = true → d.toNat < 127) :=
    ⟨Nat.le_of_lt h.1, fun _ => h.2⟩
  have short {x : Char} (mark : 32 < x.toNat ∧ x.toNat < 127) (h : d ∈ ['\\', x]) :
      32 < d.toNat ∧ d.toNat < 127 := by
    simp only [List.mem_cons, List.not_mem_nil, or_false] at h
    rcases h with rfl | rfl
    · decide
    · exact mark
  unfold escape at h
  repeat' split at h
  all_goals try exact visible (short (by decide) h)
  · exact visible (visible_of_mem_scalarEscape h)
  · next plain =>
    rw [List.mem_singleton] at h
    subst h
    cases asciiOnly <;> simp at plain <;> simp <;> omega

example : Style.signed.text (.record [("a", .list [.text "\u00E9\n", .integer (-3)])]) =
    "\x7b\"a\":[\"\\u00e9\\n\",-3]\x7d" := by decide +kernel

end SignedLink.Json
