/-!
# SignedLink — blanks

The blanks are the white-space characters of Unicode together with the four
information separators U+001C to U+001F. Texts are trimmed by them, and the
body of an armoured key may be broken by them anywhere.

* `trimChars_idem`: trimming twice is trimming once.
* `withoutBlanks_append`: dropping blanks works piece by piece.
-/

namespace SignedLink.Text

/-- The code points of the blanks as closed ranges, in increasing order. -/
def blankRanges : List (Nat × Nat) :=
  [(0x09, 0x0D), (0x1C, 0x20), (0x85, 0x85), (0xA0, 0xA0), (0x1680, 0x1680),
    (0x2000, 0x200A), (0x2028, 0x2029), (0x202F, 0x202F), (0x205F, 0x205F), (0x3000, 0x3000)]

/-- White space, or one of the four information separators. -/
def isBlank (c : Char) : Bool :=
  blankRanges.any fun r => decide (r.1 ≤ c.toNat) && decide (c.toNat ≤ r.2)

/-- White space as the Unicode property has it: the information separators do not count. -/
def isWhiteSpace (c : Char) : Bool :=
  isBlank c && !(decide (0x1C ≤ c.toNat) && decide (c.toNat ≤ 0x1F))

/-- The blanks of ASCII that a numeral may be padded with. -/
def isPlainSpace (c : Char) : Bool :=
  decide (9 ≤ c.toNat) && decide (c.toNat ≤ 13) || c == ' '

/-! ## Trimming -/

/-- Drops the longest tail of characters of the class. -/
def dropTail (p : Char → Bool) (cs : List Char) : List Char :=
  (cs.reverse.dropWhile p).reverse

/-- Drops the longest head and the longest tail of characters of the class. -/
def trimBy (p : Char → Bool) (cs : List Char) : List Char :=
  dropTail p (cs.dropWhile p)

/-- The characters without surrounding blanks. -/
def trimChars (cs : List Char) : List Char :=
  trimBy isBlank cs

/-- The text without surrounding blanks. -/
def trim (s : String) : String :=
  .ofList (trimChars s.toList)

/-- The characters that are no blanks, wherever the blanks stand. -/
def withoutBlanks (cs : List Char) : List Char :=
  cs.filter fun c => !isBlank c

/-! ## Elementary facts -/

theorem withoutBlanks_append (a b : List Char) :
    withoutBlanks (a ++ b) = withoutBlanks a ++ withoutBlanks b :=
  List.filter_append ..

/-- A list whose first character stays keeps its head. -/
private theorem dropWhile_eq_self {p : Char → Bool} {cs : List Char}
    (h : ∀ c ∈ cs.head?, p c = false) : cs.dropWhile p = cs := by
  cases cs with
  | nil => rfl
  | cons c rest => rw [List.dropWhile_cons_of_neg (by simp [h c rfl])]

/-- Nothing of the class is left in front. -/
private theorem head?_dropWhile {p : Char → Bool} (cs : List Char) :
    ∀ c ∈ (cs.dropWhile p).head?, p c = false := by
  intro c hc
  induction cs with
  | nil => simp at hc
  | cons d rest ih =>
    by_cases hd : p d
    · rw [List.dropWhile_cons_of_pos hd] at hc
      exact ih hc
    · rw [List.dropWhile_cons_of_neg hd, List.head?_cons, Option.mem_some] at hc
      subst hc
      simpa using hd

/-- The head of a list survives the dropping of its tail unless all goes. -/
private theorem head?_dropTail {p : Char → Bool} {cs : List Char}
    (h : ∀ c ∈ cs.head?, p c = false) : ∀ c ∈ (dropTail p cs).head?, p c = false := by
  intro c hc
  cases cs with
  | nil => simp [dropTail] at hc
  | cons d rest =>
    have hd : p d = false := h d rfl
    have keep : (dropTail p (d :: rest)).head? = some d := by
      unfold dropTail
      rw [List.head?_reverse, List.reverse_cons, List.dropWhile_append]
      split <;> simp [hd]
    rw [keep, Option.mem_some] at hc
    subst hc
    exact hd

/-- Trimming twice is trimming once. -/
theorem trimChars_idem (cs : List Char) : trimChars (trimChars cs) = trimChars cs := by
  unfold trimChars trimBy
  rw [dropWhile_eq_self (head?_dropTail (head?_dropWhile cs))]
  unfold dropTail
  rw [List.reverse_reverse, dropWhile_eq_self (head?_dropWhile _)]

/-- A list whose ends stay is not changed by trimming. -/
theorem trimBy_eq_self {p : Char → Bool} {cs : List Char}
    (head : ∀ c ∈ cs.head?, p c = false) (last : ∀ c ∈ cs.getLast?, p c = false) :
    trimBy p cs = cs := by
  unfold trimBy dropTail
  rw [dropWhile_eq_self head, dropWhile_eq_self (by simpa using last), List.reverse_reverse]

/-- A trimmed text does not begin with a blank. -/
theorem not_isBlank_head_trimChars {cs : List Char} :
    ∀ c ∈ (trimChars cs).head?, isBlank c = false :=
  head?_dropTail (head?_dropWhile cs)

/-- Trimming adds no characters. -/
theorem mem_of_mem_trimChars {c : Char} {cs : List Char} (mem : c ∈ trimChars cs) : c ∈ cs := by
  unfold trimChars trimBy dropTail at mem
  have inTail := (List.dropWhile_suffix isBlank).mem (List.mem_reverse.mp mem)
  exact (List.dropWhile_suffix isBlank).mem (List.mem_reverse.mp inTail)

/-- What is left after dropping a tail begins as the list did. -/
theorem head?_of_dropTail_eq_cons {p : Char → Bool} {cs rest : List Char} {c : Char}
    (h : dropTail p cs = c :: rest) : c ∈ cs.head? := by
  have initial : dropTail p cs <+: cs := by
    unfold dropTail
    rw [← List.reverse_suffix, List.reverse_reverse]
    exact List.dropWhile_suffix p
  obtain ⟨tail, equal⟩ := initial
  rw [← equal, h]
  rfl

end SignedLink.Text
