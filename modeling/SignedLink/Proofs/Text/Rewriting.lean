import Mathlib.Data.List.Infix
import SignedLink.Proofs.Text.Search
import SignedLink.Text.Blank
/-!
# SignedLink — trimming and replacing in pieces

Trimming and the replacement of a pair of characters, for texts that are put
together from pieces. Trimming stops at a character that is no blank, and a
replacement does not reach over a character that cannot end a pair. A pattern
without the replacement's character is in no text in which it was not before.

* `trimChars_append`: trimming leaves a piece between others whose ends are no blanks.
* `replacePair_append_cons`: replacement works piece by piece.
* `infix_of_infix_replacePair`: replacement brings in no pattern.
* `not_infix_replacePair`: replacement leaves no pair.
* `isTrimmed_replacePair_iff`: which replacements keep a text trimmed.
* `indexOf?_replacePair`: where a pattern is found after a replacement.
-/

namespace SignedLink.Text

variable {p : Char → Bool} {before core after : List Char}

/-! ## Trimming -/

/-- Dropping a head stops at the latest where a piece begins that stays. -/
theorem dropWhile_append_of_head {c : Char} (stays : p c = false) :
    (before ++ c :: after).dropWhile p = before.dropWhile p ++ c :: after := by
  induction before with
  | nil => simp [stays]
  | cons d before ih =>
    rw [List.cons_append, List.dropWhile_cons, List.dropWhile_cons, ih]
    split <;> rfl

/-- Dropping a tail stops at the latest where a piece ends that stays. -/
theorem dropTail_append_of_last {c : Char} (stays : p c = false) :
    dropTail p (before ++ c :: after) = before ++ c :: dropTail p after := by
  have reversed : (before ++ c :: after).reverse = after.reverse ++ c :: before.reverse := by simp
  rw [dropTail, reversed, dropWhile_append_of_head stays]
  simp [dropTail]

/-- Trimming leaves a piece whose ends are no blanks, and what stands around it is trimmed on the
outside only. -/
theorem trimChars_append {first last : Char} (begins : isBlank first = false)
    (ends : isBlank last = false) :
    trimChars (before ++ (first :: core ++ last :: after)) =
      before.dropWhile isBlank ++ (first :: core ++ last :: dropTail isBlank after) := by
  rw [trimChars, trimBy, List.cons_append, dropWhile_append_of_head begins, ← List.cons_append,
    ← List.append_assoc, dropTail_append_of_last ends, List.append_assoc]

/-- What is trimmed off stands around what is left. -/
theorem exists_trimBy (p : Char → Bool) (cs : List Char) :
    ∃ before after, cs = before ++ trimBy p cs ++ after ∧ ∀ c ∈ before ++ after, p c = true := by
  have front := List.takeWhile_append_dropWhile (p := p) (l := cs)
  have back := List.takeWhile_append_dropWhile (p := p) (l := (cs.dropWhile p).reverse)
  have back := congrArg List.reverse back
  rw [List.reverse_append, List.reverse_reverse] at back
  refine ⟨cs.takeWhile p, ((cs.dropWhile p).reverse.takeWhile p).reverse, ?_, ?_⟩
  · rw [trimBy, dropTail, List.append_assoc, back, front]
  · intro c mem
    rcases List.mem_append.mp mem with inFront | inBack
    · exact List.mem_takeWhile_imp inFront
    · exact List.mem_takeWhile_imp (List.mem_reverse.mp inBack)

/-- A text whose ends stay is what is left of it between characters that go. -/
theorem trimBy_append {before middle after : List Char}
    (goes : ∀ c ∈ before ++ after, p c = true) (head : ∀ c ∈ middle.head?, p c = false)
    (last : ∀ c ∈ middle.getLast?, p c = false) (nonempty : middle ≠ []) :
    trimBy p (before ++ middle ++ after) = middle := by
  obtain ⟨inFront, inBack⟩ := List.forall_mem_append.mp goes
  obtain ⟨c, rest, rfl⟩ := List.exists_cons_of_ne_nil nonempty
  have front : (before ++ (c :: rest) ++ after).dropWhile p = (c :: rest) ++ after := by
    rw [List.append_assoc, List.cons_append, dropWhile_append_of_head (head c rfl),
      List.dropWhile_eq_nil_iff.mpr inFront, List.nil_append]
  obtain ⟨core, e, ends⟩ : ∃ core e, c :: rest = core ++ [e] :=
    ⟨_, _, (List.dropLast_append_getLast nonempty).symm⟩
  have stays : p e = false := last e (by rw [ends]; simp)
  have dropped : dropTail p after = [] := by
    rw [dropTail, List.dropWhile_eq_nil_iff.mpr fun c mem => inBack c (List.mem_reverse.mp mem)]
    rfl
  rw [trimBy, front, ends, List.append_assoc, List.singleton_append,
    dropTail_append_of_last stays, dropped]

/-- A pattern whose ends are no blanks is still there after trimming. -/
theorem infix_trimChars {first last : Char} {cs : List Char} (begins : isBlank first = false)
    (ends : isBlank last = false) (inside : first :: core ++ [last] <:+: cs) :
    first :: core ++ [last] <:+: trimChars cs := by
  obtain ⟨before, after, rfl⟩ := inside
  have trimmed := @trimChars_append before core after first last begins ends
  have shape : before ++ (first :: core ++ [last]) ++ after =
      before ++ (first :: core ++ last :: after) := by simp
  rw [shape, trimmed]
  exact ⟨before.dropWhile isBlank, dropTail isBlank after, by simp⟩

/-- A trimmed text does not end with a blank. -/
theorem not_isBlank_last_trimChars {cs : List Char} :
    ∀ c ∈ (trimChars cs).getLast?, isBlank c = false := by
  intro c mem
  rw [trimChars, trimBy, dropTail, List.getLast?_reverse, Option.mem_def] at mem
  have stays := List.head?_dropWhile_not isBlank (cs.dropWhile isBlank).reverse
  rw [mem] at stays
  simpa using stays

/-- A text with no blanks at its ends. -/
structure IsTrimmed (cs : List Char) : Prop where
  head : ∀ c ∈ cs.head?, isBlank c = false
  last : ∀ c ∈ cs.getLast?, isBlank c = false

theorem isTrimmed_trimChars (cs : List Char) : IsTrimmed (trimChars cs) :=
  ⟨not_isBlank_head_trimChars, not_isBlank_last_trimChars⟩

theorem trimChars_eq_self_iff {cs : List Char} : trimChars cs = cs ↔ IsTrimmed cs :=
  ⟨fun same => same ▸ isTrimmed_trimChars cs,
    fun trimmed => trimBy_eq_self trimmed.head trimmed.last⟩

theorem isInfix_trimChars (cs : List Char) : trimChars cs <:+: cs := by
  obtain ⟨before, after, split, -⟩ := exists_trimBy isBlank cs
  exact ⟨before, after, split.symm⟩

/-! ## Replacing a pair -/

variable {a b : Char} {replacement : List Char}

/-- A character that cannot end a pair keeps what stands before and after it apart. -/
theorem replacePair_append_cons {c : Char} (noEnd : c ≠ b) (cs rest : List Char) :
    replacePair a b replacement (cs ++ c :: rest) =
      replacePair a b replacement cs ++ replacePair a b replacement (c :: rest) := by
  induction cs using replacePair.induct a b with
  | case1 x y cs pair ih =>
    rw [List.cons_append, List.cons_append, replacePair, if_pos pair, replacePair, if_pos pair, ih,
      List.append_assoc]
  | case2 x y cs single ih =>
    rw [List.cons_append, List.cons_append, replacePair, if_neg single, replacePair, if_neg single,
      ← List.cons_append, ih, List.cons_append]
  | case3 cs short =>
    match cs with
    | [] => rfl
    | [x] => rw [List.singleton_append, replacePair, if_neg (by simp [noEnd])]; rfl
    | x :: y :: cs => exact absurd rfl (short x y cs)

theorem replacePair_cons_of_ne {c : Char} (noStart : c ≠ a) (cs : List Char) :
    replacePair a b replacement (c :: cs) = c :: replacePair a b replacement cs := by
  cases cs with
  | nil => rfl
  | cons d cs => rw [replacePair, if_neg (by simp [noStart])]

theorem replacePair_cons_of_not_begins {cs : List Char} (noEnd : ¬ [b] <+: cs) (c : Char) :
    replacePair a b replacement (c :: cs) = c :: replacePair a b replacement cs := by
  cases cs with
  | nil => rfl
  | cons d cs =>
    have other : d ≠ b := by
      rintro rfl
      exact noEnd (List.prefix_append [d] cs)
    rw [replacePair, if_neg (by simp [other])]

theorem replacePair_append_of_not_mem {cs : List Char} (absent : a ∉ cs) (rest : List Char) :
    replacePair a b replacement (cs ++ rest) = cs ++ replacePair a b replacement rest := by
  induction cs with
  | nil => rfl
  | cons c cs ih =>
    rw [List.mem_cons, not_or] at absent
    rw [List.cons_append, replacePair_cons_of_ne (Ne.symm absent.1), ih absent.2, List.cons_append]

theorem replacePair_of_absent {cs : List Char} (absent : ¬ [a, b] <:+: cs) :
    replacePair a b replacement cs = cs := by
  induction cs using replacePair.induct a b with
  | case1 x y cs pair ih =>
    simp only [Bool.and_eq_true, beq_iff_eq] at pair
    obtain ⟨rfl, rfl⟩ := pair
    exact absurd ⟨[], cs, rfl⟩ absent
  | case2 x y cs single ih =>
    rw [replacePair, if_neg single, ih fun later => absent (List.infix_cons later)]
  | case3 cs short => rw [replacePair]; exact short

/-- Replacement brings in no pattern without the replacement's character, neither in front … -/
theorem prefix_of_prefix_replacePair {c : Char} {pattern cs : List Char} (fresh : c ∉ pattern)
    (here : pattern <+: replacePair a b [c] cs) : pattern <+: cs := by
  induction cs using replacePair.induct a b generalizing pattern with
  | case1 x y cs pair ih =>
    rw [replacePair, if_pos pair, List.singleton_append] at here
    cases pattern with
    | nil => exact List.nil_prefix
    | cons d pattern =>
      exact absurd (List.cons_prefix_cons.mp here).1 (by rintro rfl; exact fresh List.mem_cons_self)
  | case2 x y cs single ih =>
    rw [replacePair, if_neg single] at here
    cases pattern with
    | nil => exact List.nil_prefix
    | cons d pattern =>
      obtain ⟨rfl, later⟩ := List.cons_prefix_cons.mp here
      exact List.cons_prefix_cons.mpr
        ⟨rfl, ih (fun mem => fresh (List.mem_cons_of_mem d mem)) later⟩
  | case3 cs short =>
    rwa [replacePair] at here
    exact short

/-- … nor anywhere else. -/
theorem infix_of_infix_replacePair {c : Char} {pattern cs : List Char} (fresh : c ∉ pattern)
    (inside : pattern <:+: replacePair a b [c] cs) : pattern <:+: cs := by
  induction cs using replacePair.induct a b with
  | case1 x y cs pair ih =>
    have here : pattern <+: replacePair a b [c] (x :: y :: cs) → pattern <+: x :: y :: cs :=
      prefix_of_prefix_replacePair fresh
    rw [replacePair, if_pos pair, List.singleton_append] at inside here
    rcases List.infix_cons_iff.mp inside with front | later
    · exact (here front).isInfix
    · exact List.infix_cons (List.infix_cons (ih later))
  | case2 x y cs single ih =>
    have here : pattern <+: replacePair a b [c] (x :: y :: cs) → pattern <+: x :: y :: cs :=
      prefix_of_prefix_replacePair fresh
    rw [replacePair, if_neg single] at inside here
    rcases List.infix_cons_iff.mp inside with front | later
    · exact (here front).isInfix
    · exact List.infix_cons (ih later)
  | case3 cs short =>
    rwa [replacePair] at inside
    exact short

/-- No pair is left, and the replacement's character does not make a new one. -/
theorem not_infix_replacePair {c : Char} (noStart : c ≠ a) (noEnd : c ≠ b) (cs : List Char) :
    ¬ [a, b] <:+: replacePair a b [c] cs := by
  induction cs using replacePair.induct a b with
  | case1 x y cs pair ih =>
    rw [replacePair, if_pos pair, List.singleton_append]
    intro inside
    rcases List.infix_cons_iff.mp inside with front | later
    · exact noStart (List.cons_prefix_cons.mp front).1.symm
    · exact ih later
  | case2 x y cs single ih =>
    rw [replacePair, if_neg single]
    intro inside
    rcases List.infix_cons_iff.mp inside with front | later
    · -- what ends a pair here did so before the replacement
      obtain ⟨begins, goesOn⟩ := List.cons_prefix_cons.mp front
      have still : [b] <+: y :: cs :=
        prefix_of_prefix_replacePair (by simpa using noEnd) goesOn
      have ends := (List.cons_prefix_cons.mp still).1
      exact single (by simp [begins, ends])
    · exact ih later
  | case3 cs short =>
    -- a text without a second character holds no pair
    rw [replacePair]
    · intro inside
      have long : 2 ≤ cs.length := inside.length_le
      match cs with
      | [] => exact absurd long (by decide)
      | [x] => exact absurd long (Nat.not_succ_le_self 1)
      | x :: y :: cs => exact short x y cs rfl
    · exact short

/-- The first character stays when no pair begins the text. -/
theorem head?_replacePair {cs : List Char} (absent : ¬ [a, b] <+: cs) :
    (replacePair a b replacement cs).head? = cs.head? := by
  cases cs using replacePair.fun_cases a b with
  | case1 x y cs pair =>
    simp only [Bool.and_eq_true, beq_iff_eq] at pair
    obtain ⟨rfl, rfl⟩ := pair
    exact absurd (List.prefix_append [x, y] cs) absent
  | case2 x y cs single => rw [replacePair, if_neg single, List.head?_cons, List.head?_cons]
  | case3 cs short => rw [replacePair]; exact short

/-- The last character stays when no pair ends the text. -/
theorem getLast?_replacePair {cs : List Char} (absent : ¬ [a, b] <:+ cs) :
    (replacePair a b replacement cs).getLast? = cs.getLast? := by
  induction cs using replacePair.induct a b with
  | case1 x y cs pair ih =>
    simp only [Bool.and_eq_true, beq_iff_eq] at pair
    obtain ⟨rfl, rfl⟩ := pair
    cases cs with
    | nil => exact absurd List.suffix_rfl absent
    | cons z cs =>
      have later := ih fun ends => absent (ends.trans (List.suffix_append [x, y] (z :: cs)))
      rw [replacePair, if_pos (by simp), List.getLast?_append, later, List.getLast?_cons_cons,
        List.getLast?_cons_cons, List.getLast?_cons, Option.some_or]
  | case2 x y cs single ih =>
    have later := ih fun ends => absent (ends.trans (List.suffix_cons x (y :: cs)))
    rw [replacePair, if_neg single, List.getLast?_cons, later, List.getLast?_cons_cons,
      List.getLast?_cons, Option.getD_some]
  | case3 cs short => rw [replacePair]; exact short

/-- A blank in the place of a pair is at an end of the text when the pair was. -/
theorem isTrimmed_replacePair_iff {c : Char} {cs : List Char} (blank : isBlank c = true)
    (apart : a ≠ b) (trimmed : IsTrimmed cs) :
    IsTrimmed (replacePair a b [c] cs) ↔ ¬ ([a, b] <+: cs ∨ [a, b] <:+ cs) := by
  constructor
  · rintro ⟨head, last⟩ (⟨rest, rfl⟩ | ⟨front, rfl⟩)
    · have first := head c (by simp [replacePair])
      exact Bool.false_ne_true (first.symm.trans blank)
    · -- the `a` of the last pair ends no other pair, so the text is replaced up to it
      have final := last c (by rw [replacePair_append_cons apart]; simp [replacePair])
      exact Bool.false_ne_true (final.symm.trans blank)
  · intro inner
    rw [not_or] at inner
    constructor
    · rw [head?_replacePair inner.1]
      exact trimmed.head
    · rw [getLast?_replacePair inner.2]
      exact trimmed.last

/-! ## Places after a replacement -/

section Places

variable {c : Char} {pattern : List Char}

/-- A pattern that has nothing to do with a replacement begins a text after it as before. -/
theorem prefix_replacePair_iff (noStart : a ∉ pattern) (fresh : c ∉ pattern) (cs : List Char) :
    pattern <+: replacePair a b [c] cs ↔ pattern <+: cs := by
  constructor
  · exact prefix_of_prefix_replacePair fresh
  · rintro ⟨rest, rfl⟩
    rw [replacePair_append_of_not_mem noStart]
    exact List.prefix_append ..

/-- A pattern that has nothing to do with a replacement is found where it was, as far as the text
before it reaches after the replacement. -/
theorem indexOf?_replacePair (nonempty : pattern ≠ []) (noStart : a ∉ pattern) (noEnd : b ∉ pattern)
    (fresh : c ∉ pattern) (cs : List Char) :
    indexOf? pattern (replacePair a b [c] cs) =
      (indexOf? pattern cs).map fun i => (replacePair a b [c] (cs.take i)).length := by
  induction cs using replacePair.induct a b with
  | case1 x y cs pair ih =>
    have pair' := pair
    simp only [Bool.and_eq_true, beq_iff_eq] at pair'
    obtain ⟨rfl, rfl⟩ := pair'
    obtain ⟨d, pattern, rfl⟩ := List.exists_cons_of_ne_nil nonempty
    simp only [List.mem_cons, not_or] at noStart noEnd fresh
    rw [replacePair, if_pos pair, List.singleton_append, indexOf?_cons_of_ne (Ne.symm fresh.1),
      indexOf?_cons_of_ne (Ne.symm noStart.1), indexOf?_cons_of_ne (Ne.symm noEnd.1), ih,
      Option.map_map, Option.map_map, Option.map_map]
    congr 1
    funext i
    simp [replacePair]
  | case2 x y cs single ih =>
    have begins : pattern.isPrefixOf (x :: replacePair a b [c] (y :: cs)) =
        pattern.isPrefixOf (x :: y :: cs) := by
      have same := @prefix_replacePair_iff a b c pattern noStart fresh (x :: y :: cs)
      rw [replacePair, if_neg single] at same
      rw [Bool.eq_iff_iff, List.isPrefixOf_iff_prefix, List.isPrefixOf_iff_prefix, same]
    rw [replacePair, if_neg single, indexOf?, indexOf?, begins]
    split
    · rfl
    · rw [ih, Option.map_map, Option.map_map]
      congr 1
      funext i
      cases i with
      | zero => simp [replacePair]
      | succ i =>
        simp only [Function.comp_apply, List.take_succ_cons]
        rw [replacePair, if_neg single, List.length_cons]
  | case3 cs short =>
    obtain ⟨d, pattern, rfl⟩ := List.exists_cons_of_ne_nil nonempty
    rcases cs with _ | ⟨x, _ | ⟨y, cs⟩⟩
    · rfl
    · rw [replacePair, indexOf?]
      · split
        · rfl
        · rfl
      · exact short
    · exact absurd rfl (short x y cs)

/-- A character that is in no pair keeps its place behind those before it. -/
theorem length_replacePair_take_lt {replacement : List Char} {cs rest : List Char} {i j : Nat}
    (here : cs.drop i = c :: rest) (noStart : c ≠ a) (noEnd : c ≠ b) (less : i < j) :
    (replacePair a b replacement (cs.take i)).length <
      (replacePair a b replacement (cs.take j)).length := by
  obtain ⟨k, rfl⟩ := Nat.exists_eq_add_of_lt less
  rw [Nat.add_assoc, List.take_add, here, List.take_succ_cons, replacePair_append_cons noEnd,
    replacePair_cons_of_ne noStart, List.length_append, List.length_cons]
  omega

end Places

end SignedLink.Text
