import SignedLink.Proofs.Json.Numbers
/-!
# SignedLink — the characters of written JSON

Whatever a value holds, its text has no other characters than visible ASCII,
those of the separators, and those that stand for the characters of a text. The
last are what a style decides on: no style leaves a control character in a
text, and the style of signed texts leaves nothing beyond ASCII.

* `uses_write`: where every character of a written value comes from.
* `le_of_mem_write`: without control characters in its separators a style writes none.
* `isAscii_write`: a value in the signed style is written in ASCII.
-/

namespace SignedLink.Json

/-- What a style puts into the text of a value. -/
inductive Style.Uses (style : Style) (c : Char) : Prop
  | visible (low : 32 < c.toNat) (high : c.toNat < 127) : Style.Uses style c
  | comma (mem : c ∈ style.comma) : Style.Uses style c
  | colon (mem : c ∈ style.colon) : Style.Uses style c
  /-- what stands for a character of a text -/
  | escaped (d : Char) (mem : c ∈ escape style.asciiOnly d) : Style.Uses style c

variable {style : Style}

theorem uses_string (cs : List Char) : ∀ c ∈ string style.asciiOnly cs, style.Uses c := by
  simp only [string, List.forall_mem_cons, List.forall_mem_append, List.mem_flatMap]
  refine ⟨.visible (by decide) (by decide), ?_, .visible (by decide) (by decide), by simp⟩
  rintro c ⟨d, -, mem⟩
  exact .escaped d mem

theorem uses_decimal (n : Int) : ∀ c ∈ Text.decimal n, style.Uses c := by
  intro c mem
  rcases Text.mem_decimal mem with rfl | digit
  · exact .visible (by decide) (by decide)
  · simp only [Text.isAsciiDigit, Bool.and_eq_true, decide_eq_true_eq] at digit
    exact .visible (by omega) (by omega)

theorem uses_of_all (text : List Char)
    (all : text.all (fun c => decide (32 < c.toNat ∧ c.toNat < 127)) = true) :
    ∀ c ∈ text, style.Uses c := by
  intro c mem
  have visible := Shortest.visible_of_all all c mem
  exact .visible visible.1 visible.2

mutual

theorem uses_write : (v : Value) → ∀ c ∈ style.write v, style.Uses c
  | .null => uses_of_all "null".toList (by decide)
  | .boolean true => uses_of_all "true".toList (by decide)
  | .boolean false => uses_of_all "false".toList (by decide)
  | .integer n => uses_decimal n
  | .real x => fun c mem =>
    have visible := Shortest.visible_of_mem_text mem
    .visible visible.1 visible.2
  | .text s => uses_string s.toList
  | .octets bytes => uses_string (Text.quotedOctets bytes)
  | .path p => uses_string p.toList
  | .list items => by
    rw [Style.write]
    simp only [List.forall_mem_cons, List.forall_mem_append]
    exact ⟨.visible (by decide) (by decide), uses_writeItems items,
      .visible (by decide) (by decide), by simp⟩
  | .record fields => by
    rw [Style.write]
    simp only [List.forall_mem_cons, List.forall_mem_append]
    exact ⟨.visible (by decide) (by decide), uses_writeFields fields,
      .visible (by decide) (by decide), by simp⟩

theorem uses_writeItems : (items : List Value) → ∀ c ∈ style.writeItems items, style.Uses c
  | [] => by simp [Style.writeItems]
  | v :: rest => by
    rw [Style.writeItems]
    simp only [List.forall_mem_append]
    refine ⟨⟨uses_write v, ?_⟩, uses_writeItems rest⟩
    split
    · simp
    · exact fun c mem => .comma mem

theorem uses_writeFields : (fields : List (String × Value)) →
    ∀ c ∈ style.writeFields fields, style.Uses c
  | [] => by simp [Style.writeFields]
  | (name, v) :: rest => by
    rw [Style.writeFields]
    simp only [List.forall_mem_append]
    refine ⟨⟨⟨⟨uses_string name.toList, fun c mem => .colon mem⟩, uses_write v⟩, ?_⟩,
      uses_writeFields rest⟩
    split
    · simp
    · exact fun c mem => .comma mem

end

/-! ## Control characters -/

/-- A style that separates with spaces and marks only writes no control character. -/
theorem le_of_mem_write (comma : ∀ c ∈ style.comma, 32 ≤ c.toNat)
    (colon : ∀ c ∈ style.colon, 32 ≤ c.toNat) {v : Value} {c : Char} (mem : c ∈ style.write v) :
    32 ≤ c.toNat := by
  cases uses_write v c mem with
  | visible low high => omega
  | comma mem => exact comma c mem
  | colon mem => exact colon c mem
  | escaped d mem => exact (bounds_of_mem_escape mem).1

/-! ## ASCII -/

/-- A text in ASCII. -/
def IsAscii (text : List Char) : Prop :=
  ∀ c ∈ text, c.toNat < 128

/-- A value in the signed style is written in ASCII. -/
theorem isAscii_write (v : Value) : IsAscii (Style.signed.write v) := by
  intro c mem
  cases uses_write v c mem with
  | visible low high => omega
  | comma mem =>
    rw [List.mem_singleton.mp mem]
    decide
  | colon mem =>
    rw [List.mem_singleton.mp mem]
    decide
  | escaped d mem =>
    have := (bounds_of_mem_escape mem).2 rfl
    omega

end SignedLink.Json
