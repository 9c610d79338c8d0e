import SignedLink.Proofs.Key.Load
import SignedLink.Proofs.Key.Spelling
import SignedLink.Proofs.Octets.Base64
/-!
# SignedLink — normalizing keeps what is loaded

A text of a key may be normalized before its key is loaded, and nothing is lost
by it. Trimming takes no character of a marker. Undoing the escapes makes no
marker and breaks none, since no marker has a character of an escape or a line
feed; it moves them, but not past each other. In the body of a key that can be
loaded there is no backslash, so nothing changes there; other bodies may become
ones that can be loaded, which is what the escapes are for.

* `body?_trimChars`: trimming keeps the body.
* `body?_replacePair_eq_none_iff`, `body?_replacePair`: what undoing the escapes keeps.
* `load_normalize_conservative`: what is loaded after normalizing, and which texts can be escaped.
-/

namespace SignedLink.Key

open Text

variable {cs body : List Char}

/-! ## Trimming -/

theorem body?_trimChars (cs : List Char) : body? (trimChars cs) = body? cs := by
  obtain ⟨beginTail, beginShape⟩ : ∃ tail, beginMarker = '-' :: tail := ⟨_, rfl⟩
  obtain ⟨endTail, endShape⟩ : ∃ tail, endMarker = '-' :: tail := ⟨_, rfl⟩
  obtain ⟨endFront, endLast⟩ : ∃ front, endMarker = front ++ ['-'] :=
    ⟨endMarker.dropLast, by decide⟩
  obtain ⟨before, after, split, blank⟩ := exists_trimBy isBlank cs
  -- what is trimmed off has no dash, and the markers begin and end with one
  have noDash : '-' ∉ before ++ after := fun mem => absurd (blank '-' mem) (by decide)
  rw [List.mem_append, not_or] at noDash
  have front : body? (before ++ (trimChars cs ++ after)) = body? (trimChars cs ++ after) := by
    refine body?_append_left ?_ ?_
    · rw [beginShape]
      exact not_prefix_of_not_mem noDash.1
    · rw [endShape]
      exact not_prefix_of_not_mem noDash.1
  have back : body? (trimChars cs ++ after) = body? (trimChars cs) := by
    by_cases ended : endMarker <:+: trimChars cs
    · exact body?_append_right ended after
    · have still : ¬ endMarker <:+: trimChars cs ++ after := by
        rw [endLast] at ended ⊢
        exact not_infix_append noDash.2 ended
      rw [body?_eq_none_iff.mpr (.inr (.inl (indexOf?_eq_none_iff.mpr ended))),
        body?_eq_none_iff.mpr (.inr (.inl (indexOf?_eq_none_iff.mpr still)))]
  have whole : cs = before ++ (trimChars cs ++ after) := by
    rw [← List.append_assoc]
    exact split
  rw [← back, ← front, ← whole]

/-! ## Undoing the escapes -/

/-- A marker is found where it was, as far as the text before it reaches without its escapes. -/
theorem indexOf?_marker_replacePair (cs : List Char) :
    indexOf? beginMarker (replacePair '\\' 'n' ['\n'] cs) =
        (indexOf? beginMarker cs).map
          (fun i => (replacePair '\\' 'n' ['\n'] (cs.take i)).length) ∧
      indexOf? endMarker (replacePair '\\' 'n' ['\n'] cs) =
        (indexOf? endMarker cs).map
          (fun i => (replacePair '\\' 'n' ['\n'] (cs.take i)).length) :=
  ⟨indexOf?_replacePair (by decide) (by decide) (by decide) (by decide) cs,
    indexOf?_replacePair (by decide) (by decide) (by decide) (by decide) cs⟩

/-- A place that was found begins with a dash. -/
theorem drop_eq_cons_of_indexOf? {marker : List Char} {i : Nat} (dash : marker.head? = some '-')
    (found : indexOf? marker cs = some i) : ∃ rest, cs.drop i = '-' :: rest := by
  obtain ⟨tail, rfl⟩ := List.head?_eq_some_iff.mp dash
  obtain ⟨rest, here⟩ := List.isPrefixOf_iff_prefix.mp (isPrefixOf_drop_of_indexOf? found)
  exact ⟨tail ++ rest, by rw [← here, List.cons_append]⟩

/-- Undoing the escapes does not bring in a body and does not lose it. -/
theorem body?_replacePair_eq_none_iff (cs : List Char) :
    body? (replacePair '\\' 'n' ['\n'] cs) = none ↔ body? cs = none := by
  obtain ⟨begins, ends⟩ := indexOf?_marker_replacePair cs
  rw [body?_eq_none_iff, body?_eq_none_iff, begins, ends]
  cases foundBegin : indexOf? beginMarker cs with
  | none => simp
  | some start =>
    cases foundEnd : indexOf? endMarker cs with
    | none => simp
    | some stop =>
      obtain ⟨startRest, startDash⟩ := drop_eq_cons_of_indexOf? (by decide) foundBegin
      obtain ⟨stopRest, stopDash⟩ := drop_eq_cons_of_indexOf? (by decide) foundEnd
      -- dashes are in no escape, so what begins with one keeps its order
      have order : (replacePair '\\' 'n' ['\n'] (cs.take stop)).length <
          (replacePair '\\' 'n' ['\n'] (cs.take start)).length ↔ stop < start := by
        constructor
        · intro less
          refine Nat.lt_of_not_le fun le => ?_
          rcases Nat.lt_or_eq_of_le le with before | rfl
          · have other := @length_replacePair_take_lt '\\' 'n' '-' ['\n'] _ _ _ _ startDash
              (by decide) (by decide) before
            exact absurd less (Nat.lt_asymm other)
          · exact absurd less (Nat.lt_irrefl _)
        · exact length_replacePair_take_lt stopDash (by decide) (by decide)
      simpa using order

/-- A body without a backslash stays as it is. -/
theorem body?_replacePair (found : body? cs = some body) (nonempty : body ≠ [])
    (plain : '\\' ∉ body) : body? (replacePair '\\' 'n' ['\n'] cs) = some body := by
  obtain ⟨start, stop, raw, foundBegin, foundEnd, cut, rfl⟩ := exists_cut_of_body? found nonempty
  obtain ⟨begins, ends⟩ := indexOf?_marker_replacePair cs
  obtain ⟨beginTail, beginShape⟩ : ∃ tail, beginMarker = '-' :: tail := ⟨_, rfl⟩
  obtain ⟨rest, dash⟩ := drop_eq_cons_of_indexOf? (by decide) foundEnd
  have noBackslash : '\\' ∉ beginMarker ++ raw := by
    rw [List.mem_append, not_or]
    exact ⟨by decide, fun mem => plain (List.mem_filter.mpr ⟨mem, by decide⟩)⟩
  have untouched : replacePair '\\' 'n' ['\n'] (beginMarker ++ raw) = beginMarker ++ raw :=
    replacePair_of_absent fun inside => noBackslash (inside.subset List.mem_cons_self)
  -- the dashes of the markers keep the pieces of the text apart
  have front : replacePair '\\' 'n' ['\n'] (cs.take stop) =
      replacePair '\\' 'n' ['\n'] (cs.take start) ++ (beginMarker ++ raw) := by
    rw [cut, beginShape, List.cons_append, replacePair_append_cons (by decide),
      ← List.cons_append, ← beginShape, untouched]
  have whole : replacePair '\\' 'n' ['\n'] cs =
      replacePair '\\' 'n' ['\n'] (cs.take stop) ++ replacePair '\\' 'n' ['\n'] ('-' :: rest) := by
    rw [← replacePair_append_cons (by decide), ← dash, List.take_append_drop]
  have later : ¬ (replacePair '\\' 'n' ['\n'] (cs.take stop)).length <
      (replacePair '\\' 'n' ['\n'] (cs.take start)).length := by
    rw [front, List.length_append]
    omega
  rw [body?, begins, ends, foundBegin, foundEnd]
  simp only [Option.map_some, if_neg later]
  rw [whole, List.take_left, front, ← List.drop_drop, List.drop_left, List.drop_left]

/-! ## Normal forms -/

/-- A body that can be loaded has no backslash. -/
theorem not_backslash_of_loadBody {key : Rsa.PrivateKey} (loaded : loadBody body = .ok key) :
    body ≠ [] ∧ '\\' ∉ body := by
  unfold loadBody at loaded
  split at loaded
  · cases loaded
  · next nonempty =>
    refine ⟨by simpa using nonempty, fun mem => ?_⟩
    split at loaded
    · cases loaded
    · next decoded =>
      exact absurd (Base64.mem_characters_of_decode decoded _ mem) (by decide)

/-- The normal form of a text is the trimmed text, or what is left of it without its escapes. -/
theorem normalizeChars_cases (cs : List Char) :
    normalizeChars cs = trimChars cs ∨
      normalizeChars cs = replacePair '\\' 'n' ['\n'] (trimChars cs) := by
  unfold normalizeChars
  dsimp only
  split
  · exact .inr rfl
  · exact .inl rfl

/-- A key that is loaded from a text is loaded from its normal form as well. -/
theorem loadChars_normalizeChars {key : Rsa.PrivateKey} (loaded : loadChars cs = .ok key) :
    loadChars (normalizeChars cs) = .ok key := by
  rw [loadChars, ← body?_trimChars] at loaded
  split at loaded
  · cases loaded
  · next body found =>
    obtain ⟨nonempty, noBackslash⟩ := not_backslash_of_loadBody loaded
    rw [loadChars]
    rcases normalizeChars_cases cs with same | undone
    · rw [same, found]
      exact loaded
    · -- without a backslash in the body nothing in it is replaced
      rw [undone, body?_replacePair found nonempty noBackslash]
      exact loaded

/-- The markers are blamed in a text and in its normal form, or in neither. -/
theorem loadChars_normalizeChars_eq_markers_iff :
    loadChars (normalizeChars cs) = .error .markers ↔ loadChars cs = .error .markers := by
  rw [loadChars_eq_markers_iff, loadChars_eq_markers_iff, ← @body?_trimChars cs]
  rcases normalizeChars_cases cs with same | undone
  · rw [same]
  · rw [undone, body?_replacePair_eq_none_iff]

/-- A marked text without escapes is still that when it is trimmed. -/
theorem isMarked_trimChars (marked : openingDashes <:+: cs) (plain : ¬ ['\\', 'n'] <:+: cs) :
    occursIn openingDashes (trimChars cs) = true ∧ hasEscapedNewline (trimChars cs) = false := by
  obtain ⟨core, dashes⟩ : ∃ core, openingDashes = '-' :: core ++ ['N'] :=
    ⟨openingDashes.tail.dropLast, by decide⟩
  constructor
  · rw [occursIn_iff, dashes]
    rw [dashes] at marked
    exact infix_trimChars (by decide) (by decide) marked
  · rw [hasEscapedNewline, Bool.eq_false_iff, ne_eq, occursIn_iff]
    exact fun inside => plain (inside.trans (isInfix_trimChars cs))

/-- Normalizing is conservative. A key that is loaded from a text is loaded from its normal form as
well, and the markers are blamed in both or in neither. And a text with an opening marker and
without escapes is found again, up to the blanks around it, when its line feeds are escaped. -/
theorem load_normalize_conservative (pem : String) :
    (∀ key, load pem = .ok key → load (normalize (some pem)) = .ok key) ∧
      (load pem = .error .markers ↔ load (normalize (some pem)) = .error .markers) ∧
      (openingDashes <:+: pem.toList → ¬ ['\\', 'n'] <:+: pem.toList →
        normalize (some (.ofList (escapeNewlines (trim pem).toList))) = trim pem) := by
  have normal : load (normalize (some pem)) = loadChars (normalizeChars pem.toList) := by
    rw [load, normalize, Option.getD_some, String.toList_ofList]
  rw [normal]
  refine ⟨fun key loaded => loadChars_normalizeChars loaded,
    loadChars_normalizeChars_eq_markers_iff.symm, fun marked plain => ?_⟩
  obtain ⟨stillMarked, stillPlain⟩ := isMarked_trimChars marked plain
  rw [normalize, Option.getD_some, trim, String.toList_ofList, String.toList_ofList,
    normalizeChars_escapeNewlines (trimChars_idem _) stillMarked stillPlain]

/-- The key of two Mersenne primes on a line of its own. -/
def mersenneLine : String :=
  .ofList (beginMarker ++ (['\n'] ++ Base64.encode (encode .mersenneKey)) ++ endMarker)

/-- The line is kept, and its line feed can be escaped. -/
theorem load_normalize_mersenneLine :
    load mersenneLine = .ok .mersenneKey ∧ load (normalize (some mersenneLine)) = .ok .mersenneKey ∧
      normalize (some (.ofList (escapeNewlines (trim mersenneLine).toList))) =
        trim mersenneLine := by
  have feed : ∀ c ∈ ['\n'], isBlank c = true := List.all_eq_true.mp (by decide)
  have loaded : load mersenneLine = .ok .mersenneKey := by
    rw [mersenneLine, load_sealed_encode .mersenneKey feed, if_pos mersenneKey_fits]
  have marked : openingDashes <:+: mersenneLine.toList := by
    have opening : openingDashes <+: beginMarker := by decide
    rw [mersenneLine, String.toList_ofList, List.append_assoc]
    exact (opening.trans (List.prefix_append ..)).isInfix
  have plain : ¬ ['\\', 'n'] <:+: mersenneLine.toList := by
    intro inside
    have mem := inside.subset List.mem_cons_self
    rw [mersenneLine, String.toList_ofList] at mem
    simp only [List.mem_append] at mem
    rcases mem with (begins | feed | body) | ends
    · exact absurd begins (by decide)
    · exact absurd feed (by decide)
    · exact (isPlain_encode _ _ body).2.1 rfl
    · exact absurd ends (by decide)
  obtain ⟨kept, -, escaped⟩ := load_normalize_conservative mersenneLine
  exact ⟨loaded, kept _ loaded, escaped marked plain⟩

end SignedLink.Key
