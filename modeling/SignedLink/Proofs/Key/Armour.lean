import SignedLink.Proofs.Key.Markers
import SignedLink.Proofs.Text.Rewriting
/-!
# SignedLink — the body of an armoured key is found

A body may be broken by blanks and by escaped line ends wherever one likes, and
stand between its markers inside a larger text. It is found there: trimming
takes nothing of the markers, undoing the escapes makes no new marker, and the
first markers of the text are those around the body.

* `Broken`: a body and its text with breaks.
* `body?_normalizeChars`: the body is found in the normal form of the text.
-/

namespace SignedLink.Key

open Text

/-- A body, and its text with breaks at any places: blanks, and backslashes followed by `n`. -/
inductive Broken : (body raw : List Char) → Prop
  | nil : Broken [] []
  | char {c : Char} {body raw : List Char} (more : Broken body raw) : Broken (c :: body) (c :: raw)
  | blank {c : Char} {body raw : List Char} (blank : isBlank c = true) (more : Broken body raw) :
      Broken body (c :: raw)
  | escape {body raw : List Char} (more : Broken body raw) : Broken body ('\\' :: 'n' :: raw)

/-- The characters that a body may hold. -/
def IsPlain (body : List Char) : Prop :=
  ∀ c ∈ body, isBlank c = false ∧ c ≠ '\\' ∧ c ≠ '-'

/-! ## Breaks -/

/-- Undoing the escapes of a broken body leaves blanks in their places. -/
theorem Broken.replacePair {body raw : List Char} (broken : Broken body raw) (plain : IsPlain body)
    (rest : List Char) :
    ∃ spaced, replacePair '\\' 'n' ['\n'] (raw ++ rest) =
        spaced ++ Text.replacePair '\\' 'n' ['\n'] rest ∧ withoutBlanks spaced = body := by
  induction broken with
  | nil => exact ⟨[], rfl, rfl⟩
  | @char c body raw more ih =>
    obtain ⟨noBlank, noBackslash, -⟩ := plain c List.mem_cons_self
    obtain ⟨spaced, replaced, kept⟩ := ih fun d mem => plain d (List.mem_cons_of_mem c mem)
    refine ⟨c :: spaced, ?_, ?_⟩
    · rw [List.cons_append, replacePair_cons_of_ne noBackslash, replaced, List.cons_append]
    · rw [withoutBlanks, List.filter_cons_of_pos (by simp [noBlank])]
      exact congrArg (c :: ·) kept
  | @blank c body raw blank more ih =>
    have noBackslash : c ≠ '\\' := by
      rintro rfl
      exact absurd blank (by decide)
    obtain ⟨spaced, replaced, kept⟩ := ih plain
    refine ⟨c :: spaced, ?_, ?_⟩
    · rw [List.cons_append, replacePair_cons_of_ne noBackslash, replaced, List.cons_append]
    · rw [withoutBlanks, List.filter_cons_of_neg (by simp [blank])]
      exact kept
  | escape more ih =>
    obtain ⟨spaced, replaced, kept⟩ := ih plain
    refine ⟨'\n' :: spaced, ?_, ?_⟩
    · rw [List.cons_append, List.cons_append, Text.replacePair, if_pos (by decide), replaced]
      rfl
    · rw [withoutBlanks, List.filter_cons_of_neg (by decide)]
      exact kept

/-! ## Before the opening marker -/

theorem Preamble.of_suffix {before back : List Char} (preamble : Preamble before)
    (part : back <:+ before) : Preamble back := by
  refine ⟨fun inside => preamble.noBegin (inside.trans part.isInfix),
    fun inside => preamble.noEnd (inside.trans part.isInfix), ?_⟩
  rcases preamble.closed with rfl | ⟨line, rfl⟩
  · exact .inl (List.suffix_nil.mp part)
  · rcases List.suffix_concat_iff.mp part with rfl | ⟨front, rfl, -⟩
    · exact .inl rfl
    · exact .inr ⟨front, rfl⟩

theorem Preamble.replacePair {before : List Char} (preamble : Preamble before) :
    Preamble (replacePair '\\' 'n' ['\n'] before) := by
  refine ⟨fun inside => preamble.noBegin (infix_of_infix_replacePair (by decide) inside),
    fun inside => preamble.noEnd (infix_of_infix_replacePair (by decide) inside), ?_⟩
  rcases preamble.closed with rfl | ⟨line, rfl⟩
  · exact .inl rfl
  · exact .inr ⟨_, replacePair_append_cons (by decide) line []⟩

/-- Between markers that are the first of their kind stands the body. -/
theorem body?_append {before raw : List Char} (preamble : Preamble before) (nonempty : raw ≠ [])
    (noDash : '-' ∉ raw) (noE : raw.head? ≠ some 'E') (after : List Char) :
    body? (before ++ (beginMarker ++ (raw ++ (endMarker ++ after)))) =
      some (withoutBlanks raw) := by
  have ended : endMarker <:+: beginMarker ++ raw ++ endMarker := (List.suffix_append ..).isInfix
  have inside := body?_surrounded preamble ended after
  rw [body?_of_isSealed (isSealed_of_not_mem nonempty noDash noE)] at inside
  simpa only [List.append_assoc] using inside

/-! ## The normal form -/

theorem normalizeChars_of_marker {cs : List Char} (marked : openingDashes <:+: trimChars cs) :
    normalizeChars cs = Text.replacePair '\\' 'n' ['\n'] (trimChars cs) := by
  rw [normalizeChars, occursIn_iff.mpr marked, Bool.true_and]
  split
  · rfl
  · next absent =>
    rw [hasEscapedNewline, occursIn_iff] at absent
    rw [replacePair_of_absent absent]

theorem normalizeChars_of_unmarked {cs : List Char} (absent : ¬ openingDashes <:+: trimChars cs) :
    normalizeChars cs = trimChars cs :=
  normalizeChars_of_no_marker (by rwa [← Bool.not_eq_true, occursIn_iff])

/-- The normal form of an armoured text is one, with blanks in the places of the breaks. -/
theorem normalizeChars_armoured {before body raw : List Char} (preamble : Preamble before)
    (broken : Broken body raw) (plain : IsPlain body) (after : List Char) :
    ∃ front spaced back, Preamble front ∧ withoutBlanks spaced = body ∧
      normalizeChars (before ++ (beginMarker ++ (raw ++ (endMarker ++ after)))) =
        front ++ (beginMarker ++ (spaced ++ (endMarker ++ back))) := by
  obtain ⟨begins, beginShape⟩ : ∃ tail, beginMarker = '-' :: tail := ⟨_, rfl⟩
  obtain ⟨ends, endShape⟩ : ∃ front, endMarker = front ++ ['-'] := ⟨endMarker.dropLast, by decide⟩
  -- the markers begin and end with dashes, so trimming stays outside them
  have trimmed : trimChars (before ++ (beginMarker ++ (raw ++ (endMarker ++ after)))) =
      before.dropWhile isBlank ++
        (beginMarker ++ (raw ++ (endMarker ++ dropTail isBlank after))) := by
    have whole : trimChars (before ++ ('-' :: (begins ++ raw ++ ends) ++ '-' :: after)) =
        before.dropWhile isBlank ++
          ('-' :: (begins ++ raw ++ ends) ++ '-' :: dropTail isBlank after) :=
      trimChars_append (by decide) (by decide)
    rw [beginShape, endShape]
    simpa using whole
  have marked : openingDashes <:+: before.dropWhile isBlank ++
      (beginMarker ++ (raw ++ (endMarker ++ dropTail isBlank after))) := by
    have opening : openingDashes <+: beginMarker := by decide
    exact ((opening.trans (List.prefix_append ..)).isInfix).trans (List.suffix_append ..).isInfix
  have shorter := preamble.of_suffix (List.dropWhile_suffix isBlank)
  -- they hold no backslash, so the escapes are undone piece by piece
  obtain ⟨spaced, replaced, kept⟩ :=
    broken.replacePair plain (endMarker ++ dropTail isBlank after)
  refine ⟨_, spaced, Text.replacePair '\\' 'n' ['\n'] (dropTail isBlank after),
    shorter.replacePair, kept, ?_⟩
  rw [normalizeChars_of_marker (by rwa [trimmed]), trimmed, beginShape, List.cons_append,
    replacePair_append_cons (by decide), ← List.cons_append, ← beginShape,
    replacePair_append_of_not_mem (by decide), replaced,
    replacePair_append_of_not_mem (by decide)]

/-- The body of an armoured text is found in its normal form. -/
theorem body?_normalizeChars {before body raw : List Char} (preamble : Preamble before)
    (broken : Broken body raw) (plain : IsPlain body) (nonempty : body ≠ [])
    (noE : body.head? ≠ some 'E') (after : List Char) :
    body? (normalizeChars (before ++ (beginMarker ++ (raw ++ (endMarker ++ after))))) =
      some body := by
  obtain ⟨front, spaced, back, opening, rfl, normal⟩ :=
    normalizeChars_armoured preamble broken plain after
  -- what is no blank between the markers is in the body
  have kept {c : Char} (mem : c ∈ spaced) (visible : isBlank c = false) :
      c ∈ withoutBlanks spaced := List.mem_filter.mpr ⟨mem, by simp [visible]⟩
  have noDash : '-' ∉ spaced := fun mem => (plain '-' (kept mem (by decide))).2.2 rfl
  have someLeft : spaced ≠ [] := by
    rintro rfl
    exact nonempty rfl
  have noLetter : spaced.head? ≠ some 'E' := by
    intro letter
    obtain ⟨more, rfl⟩ := List.head?_eq_some_iff.mp letter
    exact noE (by rw [withoutBlanks, List.filter_cons_of_pos (by decide), List.head?_cons])
  rw [normal, body?_append opening someLeft noDash noLetter back]

end SignedLink.Key
