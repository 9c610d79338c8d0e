import Mathlib.Data.List.TakeWhile
import SignedLink.Text.Search
/-!
# SignedLink — where a pattern is found

A search passes over a stretch in which the pattern does not begin. From this
follow the places of first and last occurrences in texts that are put together
from pieces: what has to be known of a piece is only that the pattern begins
nowhere in it, also not so as to end behind it.

* `takeWhile_append_mark`, `dropWhile_append_mark`: a text around its first mark.
* `indexOf?_append`: a search passes over a stretch in which the pattern does not begin.
* `not_prefix_of_break`: an element that the pattern does not hold keeps it from reaching beyond.
* `splitLast?_append`: the last occurrence of a pattern whose first element occurs only there.
* `occursIn_iff`: a pattern occurs exactly when it is a piece of the text.
* `indexOf?_append_right`: a first occurrence stays the first, whatever comes behind.
-/

namespace SignedLink.Text

variable {α : Type} {pattern before after rest : List α}

/-! ## Marks -/

section Marks

variable [DecidableEq α] {mark : α} {cs : List α}

/-- Where there is no mark, every element is another one. -/
theorem forall_bne_of_not_mem (absent : mark ∉ cs) : ∀ c ∈ cs, (c != mark) = true := by
  intro c mem
  rw [bne_iff_ne]
  rintro rfl
  exact absent mem

theorem takeWhile_of_not_mem (absent : mark ∉ cs) : cs.takeWhile (· != mark) = cs :=
  List.takeWhile_eq_self_iff.mpr (forall_bne_of_not_mem absent)

theorem dropWhile_of_not_mem (absent : mark ∉ cs) : cs.dropWhile (· != mark) = [] :=
  List.dropWhile_eq_nil_iff.mpr (forall_bne_of_not_mem absent)

theorem takeWhile_append_mark (absent : mark ∉ before) (rest : List α) :
    (before ++ mark :: rest).takeWhile (· != mark) = before := by
  rw [List.takeWhile_append_of_pos (forall_bne_of_not_mem absent),
    List.takeWhile_cons_of_neg (by simp), List.append_nil]

theorem dropWhile_append_mark (absent : mark ∉ before) (rest : List α) :
    (before ++ mark :: rest).dropWhile (· != mark) = mark :: rest := by
  rw [List.dropWhile_append_of_pos (forall_bne_of_not_mem absent),
    List.dropWhile_cons_of_neg (by simp)]

end Marks

/-! ## Pieces -/

/-- A pattern at the front of two pieces ends in the first or begins with all of it. -/
theorem prefix_append_cases (here : pattern <+: before ++ rest) :
    pattern <+: before ∨ ∃ more, pattern = before ++ more ∧ more <+: rest := by
  rcases List.prefix_or_prefix_of_prefix here (List.prefix_append before rest) with short | long
  · exact .inl short
  · obtain ⟨more, rfl⟩ := long
    exact .inr ⟨more, rfl, (List.prefix_append_right_inj before).mp here⟩

/-- An element that the pattern does not hold keeps it from reaching beyond. -/
theorem not_prefix_of_break {c : α} (fresh : c ∉ pattern) (absent : ¬ pattern <:+: before) :
    ∀ back, back <:+ before ++ [c] → back ≠ [] → ¬ pattern <+: back ++ rest := by
  intro back tail nonempty here
  -- whatever reaches the end of `before ++ [c]` holds the element `c` there
  rcases List.suffix_concat_iff.mp tail with rfl | ⟨front, rfl, inside⟩
  · exact nonempty rfl
  · rw [List.append_assoc] at here
    rcases prefix_append_cases here with short | ⟨more, rfl, long⟩
    · exact absent (short.isInfix.trans inside.isInfix)
    · cases more with
      | nil => exact absent (by simpa using inside.isInfix)
      | cons d more =>
        have same : d = c := (List.cons_prefix_cons.mp long).1
        exact fresh (by simp [same])

/-- A pattern does not begin where its first element does not occur. -/
theorem not_prefix_of_not_mem {c : α} (fresh : c ∉ before) :
    ∀ back, back <:+ before → back ≠ [] → ¬ c :: pattern <+: back ++ rest := by
  intro back part nonempty here
  obtain ⟨d, back, rfl⟩ := List.exists_cons_of_ne_nil nonempty
  obtain rfl := (List.cons_prefix_cons.mp here).1
  exact fresh (part.subset List.mem_cons_self)

/-- A pattern does not end where its last element does not occur. -/
theorem not_infix_append {c : α} (fresh : c ∉ after) (absent : ¬ pattern ++ [c] <:+: before) :
    ¬ pattern ++ [c] <:+: before ++ after := by
  rintro ⟨front, back, split⟩
  rcases List.append_eq_append_iff.mp split with ⟨more, rfl, -⟩ | ⟨more, reaches, rfl⟩
  · exact absent ⟨front, more, rfl⟩
  · rcases List.eq_nil_or_concat more with rfl | ⟨most, d, rfl⟩
    · exact absent ⟨front, [], by rw [List.append_nil, reaches, List.append_nil]⟩
    · -- the pattern ends behind `before`, with its last element
      rw [List.concat_eq_append, ← List.append_assoc, ← List.append_assoc] at reaches
      obtain ⟨-, same⟩ := List.append_inj' reaches rfl
      obtain rfl := List.singleton_inj.mp same
      exact fresh (by simp)

/-! ## First occurrences -/

variable [BEq α] [LawfulBEq α]

theorem indexOf?_eq_zero (here : pattern <+: rest) : indexOf? pattern rest = some 0 := by
  cases rest with
  | nil =>
    rw [List.prefix_nil] at here
    rw [here]
    rfl
  | cons c rest => rw [indexOf?, if_pos (List.isPrefixOf_iff_prefix.mpr here)]

/-- A search passes over a stretch in which the pattern does not begin. -/
theorem indexOf?_append
    (absent : ∀ back, back <:+ before → back ≠ [] → ¬ pattern <+: back ++ rest) :
    indexOf? pattern (before ++ rest) = (indexOf? pattern rest).map (· + before.length) := by
  induction before with
  | nil => simp
  | cons c before ih =>
    have nothere : ¬ pattern.isPrefixOf (c :: (before ++ rest)) = true := by
      rw [List.isPrefixOf_iff_prefix]
      exact absent (c :: before) List.suffix_rfl (by simp)
    have later := ih fun back tail => absent back (tail.trans (List.suffix_cons ..))
    rw [List.cons_append, indexOf?, if_neg nothere, later, Option.map_map]
    congr 1

theorem indexOf?_cons_of_ne {c d : α} (other : d ≠ c) (rest : List α) :
    indexOf? (d :: pattern) (c :: rest) = (indexOf? (d :: pattern) rest).map (· + 1) :=
  @indexOf?_append _ _ [c] _ _ _ (not_prefix_of_not_mem (by simpa using other))

theorem occursIn_iff : occursIn pattern rest = true ↔ pattern <:+: rest := by
  unfold occursIn
  constructor
  · intro found
    obtain ⟨i, place⟩ := Option.isSome_iff_exists.mp found
    have here := List.isPrefixOf_iff_prefix.mp (isPrefixOf_drop_of_indexOf? place)
    exact here.isInfix.trans (List.drop_suffix i rest).isInfix
  · rintro ⟨front, back, rfl⟩
    -- the search stops at the occurrence at the latest
    induction front with
    | nil =>
      rw [List.nil_append, indexOf?_eq_zero (List.prefix_append pattern back)]
      rfl
    | cons c front ih =>
      rw [List.cons_append, List.cons_append, indexOf?]
      split
      · rfl
      · rw [Option.isSome_map]
        exact ih

theorem indexOf?_eq_none_iff : indexOf? pattern rest = none ↔ ¬ pattern <:+: rest := by
  rw [← occursIn_iff, occursIn, Option.not_isSome_iff_eq_none]

/-- A first occurrence stays the first, whatever comes behind the text. -/
theorem indexOf?_append_right {i : Nat} (found : indexOf? pattern before = some i)
    (after : List α) : indexOf? pattern (before ++ after) = some i := by
  induction before generalizing i with
  | nil =>
    have here := List.isPrefixOf_iff_prefix.mp (isPrefixOf_drop_of_indexOf? found)
    rw [List.drop_nil, List.prefix_nil] at here
    subst here
    cases found
    exact indexOf?_eq_zero List.nil_prefix
  | cons c before ih =>
    rw [indexOf?] at found
    split at found
    · next here =>
      cases found
      exact indexOf?_eq_zero ((List.isPrefixOf_iff_prefix.mp here).trans (List.prefix_append ..))
    · next nothere =>
      obtain ⟨j, later, rfl⟩ := Option.map_eq_some_iff.mp found
      -- the pattern is no longer than the text, so what comes behind does not help it to begin
      have short : pattern.length ≤ (c :: before).length := by
        have inside : pattern <:+: before :=
          occursIn_iff.mp (Option.isSome_iff_exists.mpr ⟨j, later⟩)
        exact Nat.le_succ_of_le inside.length_le
      have stillNot : ¬ pattern.isPrefixOf (c :: (before ++ after)) = true := by
        rw [List.isPrefixOf_iff_prefix] at nothere ⊢
        intro here
        exact nothere (List.prefix_of_prefix_length_le here (List.prefix_append ..) short)
      rw [List.cons_append, indexOf?, if_neg stillNot, ih later, Option.map_some]

/-! ## Last occurrences -/

/-- The last occurrence of a pattern whose first element occurs only there. -/
theorem splitLast?_append (c : α) (tail : List α) (freshTail : c ∉ tail) (freshAfter : c ∉ after) :
    splitLast? (c :: tail) (before ++ (c :: tail) ++ after) = some (before, after) := by
  -- read backwards the pattern ends in `c`, and `c` is first met where the pattern ends
  have absent : ∀ back, back <:+ after.reverse → back ≠ [] →
      ¬ (c :: tail).reverse <+: back ++ ((c :: tail).reverse ++ before.reverse) := by
    intro back part nonempty here
    have held : c ∈ back ++ tail.reverse := by
      have long : (c :: tail).reverse.length ≤ (back ++ tail.reverse).length := by
        have := List.length_pos_iff.mpr nonempty
        simp
        omega
      have split : back ++ ((c :: tail).reverse ++ before.reverse) =
          back ++ tail.reverse ++ (c :: before.reverse) := by simp
      rw [split] at here
      have short := List.prefix_of_prefix_length_le here (List.prefix_append ..) long
      exact short.subset (by simp)
    rcases List.mem_append.mp held with inBack | inTail
    · exact freshAfter (List.mem_reverse.mp (part.subset inBack))
    · exact freshTail (List.mem_reverse.mp inTail)
  have place : indexOf? (c :: tail).reverse
      (after.reverse ++ ((c :: tail).reverse ++ before.reverse)) = some after.reverse.length := by
    rw [indexOf?_append absent, indexOf?_eq_zero (List.prefix_append ..)]
    simp
  have reversed : (before ++ (c :: tail) ++ after).reverse =
      after.reverse ++ ((c :: tail).reverse ++ before.reverse) := by simp
  rw [splitLast?, splitFirst?, reversed, place, Option.map_some, Option.map_some, List.take_left,
    ← List.drop_drop, List.drop_left, List.drop_left]
  simp only [List.reverse_reverse]

end SignedLink.Text
