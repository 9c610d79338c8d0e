import SignedLink.Proofs.Text.Search
import SignedLink.Text.Blank
/-!
# SignedLink — places in a text without its blanks

A place in a text can be counted in the characters before it that are no blanks.
The count does not see where blanks stand, and it still tells which of two
patterns begins first, as long as they do not begin with a blank.

* `ink`: the count at a place; `inkBefore?`: at the first occurrence of a pattern.
* `withoutBlanks_drop_take`: a stretch without its blanks is a stretch of the text without them.
* `ink_lt_iff`: the count keeps the order of places.
-/

namespace SignedLink.Text

variable {cs : List Char}

/-- How many of the first characters are no blanks. -/
def ink (cs : List Char) (k : Nat) : Nat :=
  (withoutBlanks (cs.take k)).length

theorem ink_mono (cs : List Char) {i j : Nat} (le : i ≤ j) : ink cs i ≤ ink cs j := by
  have initial : cs.take i <+: cs.take j := List.take_prefix_take_left le
  exact (initial.filter _).length_le

theorem withoutBlanks_take (cs : List Char) (k : Nat) :
    withoutBlanks (cs.take k) = (withoutBlanks cs).take (ink cs k) := by
  have whole : withoutBlanks cs = withoutBlanks (cs.take k) ++ withoutBlanks (cs.drop k) := by
    rw [← withoutBlanks_append, List.take_append_drop]
  rw [whole, ink, List.take_left]

/-- A stretch without its blanks is a stretch of the text without its blanks. -/
theorem withoutBlanks_drop_take (cs : List Char) (i j : Nat) :
    withoutBlanks ((cs.take j).drop i) = ((withoutBlanks cs).take (ink cs j)).drop (ink cs i) := by
  rw [← withoutBlanks_take]
  rcases Nat.le_total i j with le | ge
  · have whole : withoutBlanks (cs.take j) =
        withoutBlanks (cs.take i) ++ withoutBlanks ((cs.take j).drop i) := by
      have front : cs.take i = (cs.take j).take i := by rw [List.take_take, Nat.min_eq_left le]
      rw [front, ← withoutBlanks_append, List.take_append_drop]
    rw [whole, ink, List.drop_left]
  · -- nothing is left of the stretch, and nothing of its characters
    have short : (cs.take j).length ≤ i := Nat.le_trans (List.length_take_le j cs) ge
    rw [List.drop_eq_nil_of_le short, List.drop_eq_nil_of_le (ink_mono cs ge)]
    rfl

/-- Behind a pattern its own characters count too. -/
theorem ink_add_of_begins {pattern : List Char} {i : Nat} (here : pattern <+: cs.drop i) :
    ink cs (i + pattern.length) = ink cs i + (withoutBlanks pattern).length := by
  obtain ⟨rest, split⟩ := here
  rw [ink, List.take_add, ← split, List.take_left, withoutBlanks_append, List.length_append, ← ink]

/-- Where a pattern begins that does not begin with a blank, the count tells the places before it
from those behind. -/
theorem ink_lt_iff {c : Char} {pattern : List Char} {i j : Nat} (noBlank : isBlank c = false)
    (here : c :: pattern <+: cs.drop j) : ink cs j < ink cs i ↔ j < i := by
  constructor
  · intro less
    refine Nat.lt_of_not_le fun ge => ?_
    exact absurd (ink_mono cs ge) (Nat.not_le.mpr less)
  · intro less
    have single : [c] <+: cs.drop j := (List.prefix_append [c] pattern).trans here
    have step := ink_add_of_begins single
    have one : (withoutBlanks [c]).length = 1 := by
      rw [withoutBlanks, List.filter_cons_of_pos (by simp [noBlank])]
      rfl
    have later : ink cs (j + 1) ≤ ink cs i := ink_mono cs less
    rw [List.length_singleton] at step
    omega

/-- How many characters that are no blanks stand before the first occurrence of a pattern. -/
def inkBefore? (pattern cs : List Char) : Option Nat :=
  (indexOf? pattern cs).map (ink cs)

theorem occursIn_eq_isSome_inkBefore? (pattern cs : List Char) :
    occursIn pattern cs = (inkBefore? pattern cs).isSome := by
  rw [occursIn, inkBefore?, Option.isSome_map]

theorem inkBefore?_cons (pattern : List Char) (c : Char) (rest : List Char) :
    inkBefore? pattern (c :: rest) =
      if pattern.isPrefixOf (c :: rest) then some 0
      else (inkBefore? pattern rest).map (· + (withoutBlanks [c]).length) := by
  rw [inkBefore?, inkBefore?, indexOf?]
  split
  · rfl
  · rw [Option.map_map, Option.map_map]
    congr 1
    funext i
    show (withoutBlanks (c :: rest.take i)).length = _
    rw [← List.singleton_append, withoutBlanks_append, List.length_append, Nat.add_comm]
    rfl

end SignedLink.Text
