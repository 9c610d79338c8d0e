import SignedLink.Proofs.Text.Ink
import SignedLink.Proofs.Text.Rewriting
import SignedLink.Text.Newline
/-!
# SignedLink — texts that differ in their line ends

Reading a text from a file turns its line ends into line feeds, and a text that
is given by hand keeps them. What both have in common is where line ends stand,
however many of them in a row and of which kind. Nothing that looks only at
other characters can tell such texts apart: trimming, the search for a pattern
on one line and the replacement of a pair keep them alike, and between blanks
they are the same.

* `Relined`: texts with line ends in the same places.
* `relined_unifyNewlines`: what becomes of a text that is read from a file.
* `Relined.inkBefore?_eq`, `Relined.withoutBlanks_eq`: what stays the same.
-/

namespace SignedLink.Text

variable {first second : List Char}

/-- One or more line ends, of whatever kind, and nothing else. -/
structure IsBreak (cs : List Char) : Prop where
  nonempty : cs ≠ []
  ends : ∀ c ∈ cs, c = '\r' ∨ c = '\n'

/-- A pattern that stands on one line. -/
def IsUnbroken (pattern : List Char) : Prop :=
  ∀ c ∈ pattern, c ≠ '\r' ∧ c ≠ '\n'

theorem isUnbroken_of_all {pattern : List Char}
    (all : pattern.all (fun c => c != '\r' && c != '\n') = true) : IsUnbroken pattern := by
  intro c mem
  simpa using List.all_eq_true.mp all c mem

/-- Two texts with line ends in the same places, however many and of which kind there. -/
inductive Relined : List Char → List Char → Prop
  | nil : Relined [] []
  | char (c : Char) {first second : List Char} (more : Relined first second) :
    Relined (c :: first) (c :: second)
  | ends {here there first second : List Char} (left : IsBreak here) (right : IsBreak there)
      (more : Relined first second) :
    Relined (here ++ first) (there ++ second)

theorem IsBreak.isBlank {cs : List Char} (isBreak : IsBreak cs) : ∀ c ∈ cs, isBlank c = true := by
  intro c mem
  rcases isBreak.ends c mem with rfl | rfl
  · decide
  · decide

/-- A pattern on one line has no character of a break. -/
theorem IsUnbroken.not_mem {pattern cs : List Char} (unbroken : IsUnbroken pattern)
    (isBreak : IsBreak cs) {c : Char} (mem : c ∈ pattern) : c ∉ cs := by
  intro inside
  obtain ⟨noReturn, noFeed⟩ := unbroken c mem
  rcases isBreak.ends c inside with rfl | rfl
  · exact noReturn rfl
  · exact noFeed rfl

theorem IsBreak.singleton {c : Char} (ends : c = '\r' ∨ c = '\n') : IsBreak [c] :=
  ⟨List.cons_ne_nil _ _, List.forall_mem_singleton.mpr ends⟩

namespace Relined

theorem refl (cs : List Char) : Relined cs cs := by
  induction cs with
  | nil => exact .nil
  | cons c cs ih => exact .char c ih

theorem symm (relined : Relined first second) : Relined second first := by
  induction relined with
  | nil => exact .nil
  | char c more ih => exact .char c ih
  | ends left right more ih => exact .ends right left ih

theorem append {front back : List Char} (relined : Relined first second)
    (later : Relined front back) : Relined (first ++ front) (second ++ back) := by
  induction relined with
  | nil => exact later
  | char c more ih => exact .char c ih
  | ends left right more ih =>
    rw [List.append_assoc, List.append_assoc]
    exact .ends left right ih

theorem reverse (relined : Relined first second) : Relined first.reverse second.reverse := by
  induction relined with
  | nil => exact .nil
  | char c more ih =>
    rw [List.reverse_cons, List.reverse_cons]
    exact ih.append (.refl [c])
  | @ends here there first second left right more ih =>
    have turned {cs : List Char} (isBreak : IsBreak cs) : IsBreak cs.reverse :=
      ⟨by simpa using isBreak.nonempty, fun c mem => isBreak.ends c (List.mem_reverse.mp mem)⟩
    have last : Relined here.reverse there.reverse := by
      have both := Relined.ends (turned left) (turned right) .nil
      rwa [List.append_nil, List.append_nil] at both
    rw [List.reverse_append, List.reverse_append]
    exact ih.append last

theorem eq_nil_iff (relined : Relined first second) : first = [] ↔ second = [] := by
  cases relined with
  | nil => exact Iff.rfl
  | char c more => exact iff_of_false (List.cons_ne_nil _ _) (List.cons_ne_nil _ _)
  | ends left right more => simp [left.nonempty, right.nonempty]

end Relined

theorem unifyNewlines_eq_self {cs : List Char} (noReturn : '\r' ∉ cs) :
    unifyNewlines cs = cs := by
  fun_induction unifyNewlines cs with
  | case1 => rfl
  | case2 rest ih => simp at noReturn
  | case3 c rest _ ih =>
    rw [List.mem_cons, not_or] at noReturn
    rw [ih noReturn.2, beq_eq_false_iff_ne.mpr (Ne.symm noReturn.1)]
    rfl

/-- What is read from a file has its line ends where the file has them. -/
theorem relined_unifyNewlines (cs : List Char) : Relined cs (unifyNewlines cs) := by
  fun_induction unifyNewlines cs with
  | case1 => exact .nil
  | case2 rest ih =>
    have pair : IsBreak ['\r', '\n'] := ⟨List.cons_ne_nil _ _, by simp⟩
    exact .ends pair (.singleton (.inr rfl)) ih
  | case3 c rest _ ih =>
    by_cases lone : c = '\r'
    · rw [lone]
      exact .ends (.singleton (.inl rfl)) (.singleton (.inr rfl)) ih
    · rw [if_neg (by simpa using lone)]
      exact .char c ih

/-! ## Trimming -/

theorem Relined.dropWhile (relined : Relined first second) :
    Relined (first.dropWhile isBlank) (second.dropWhile isBlank) := by
  induction relined with
  | nil => exact .nil
  | char c more ih =>
    by_cases blank : isBlank c = true
    · rw [List.dropWhile_cons_of_pos blank, List.dropWhile_cons_of_pos blank]
      exact ih
    · rw [List.dropWhile_cons_of_neg blank, List.dropWhile_cons_of_neg blank]
      exact .char c more
  | ends left right more ih =>
    rw [List.dropWhile_append_of_pos left.isBlank, List.dropWhile_append_of_pos right.isBlank]
    exact ih

theorem Relined.trimChars (relined : Relined first second) :
    Relined (trimChars first) (trimChars second) :=
  relined.dropWhile.reverse.dropWhile.reverse

/-! ## Searching -/

/-- A pattern on one line is at the front of both or of neither. -/
theorem Relined.begins_of_begins {pattern : List Char} (relined : Relined first second)
    (unbroken : IsUnbroken pattern) (here : pattern <+: first) : pattern <+: second := by
  induction relined generalizing pattern with
  | nil => exact here
  | char c more ih =>
    cases pattern with
    | nil => exact List.nil_prefix
    | cons d pattern =>
      obtain ⟨rfl, later⟩ := List.cons_prefix_cons.mp here
      obtain ⟨-, others⟩ := List.forall_mem_cons.mp unbroken
      exact List.cons_prefix_cons.mpr ⟨rfl, ih others later⟩
  | ends left right more ih =>
    cases pattern with
    | nil => exact List.nil_prefix
    | cons d pattern =>
      -- the pattern would begin with a line end
      exfalso
      obtain ⟨c, rest, rfl⟩ := List.exists_cons_of_ne_nil left.nonempty
      obtain ⟨rfl, -⟩ := List.cons_prefix_cons.mp here
      exact unbroken.not_mem left List.mem_cons_self List.mem_cons_self

/-- A character that is no line end can be taken from the front of both. -/
theorem Relined.tail {c : Char} (relined : Relined (c :: first) (c :: second))
    (unbroken : IsUnbroken [c]) : Relined first second := by
  generalize left : c :: first = whole, right : c :: second = other at relined
  cases relined with
  | nil => cases left
  | char d more =>
    cases left
    cases right
    exact more
  | ends isBreak _ more =>
    exfalso
    obtain ⟨d, rest, rfl⟩ := List.exists_cons_of_ne_nil isBreak.nonempty
    obtain ⟨rfl, -⟩ := List.cons.inj left
    exact unbroken.not_mem isBreak List.mem_cons_self List.mem_cons_self

theorem withoutBlanks_of_isBreak {cs : List Char} (isBreak : IsBreak cs) :
    withoutBlanks cs = [] := by
  rw [withoutBlanks, List.filter_eq_nil_iff]
  intro c mem
  simp [isBreak.isBlank c mem]

/-- A search for a pattern on one line passes over line ends. -/
theorem inkBefore?_append_of_isBreak {pattern here rest : List Char} (nonempty : pattern ≠ [])
    (unbroken : IsUnbroken pattern) (isBreak : IsBreak here) :
    inkBefore? pattern (here ++ rest) = inkBefore? pattern rest := by
  have absent : ∀ back, back <:+ here → back ≠ [] → ¬ pattern <+: back ++ rest := by
    intro back part more begins
    obtain ⟨c, back, rfl⟩ := List.exists_cons_of_ne_nil more
    obtain ⟨d, pattern, rfl⟩ := List.exists_cons_of_ne_nil nonempty
    obtain ⟨rfl, -⟩ := List.cons_prefix_cons.mp begins
    exact unbroken.not_mem isBreak List.mem_cons_self (part.subset List.mem_cons_self)
  have count (i : Nat) : ink (here ++ rest) (i + here.length) = ink rest i := by
    rw [ink, Nat.add_comm, List.take_length_add_append, withoutBlanks_append,
      withoutBlanks_of_isBreak isBreak, List.nil_append, ← ink]
  rw [inkBefore?, inkBefore?, indexOf?_append absent, Option.map_map]
  simp only [Function.comp_def, count]

namespace Relined

/-- A pattern on one line is found in the same place, as the characters count that are no blanks. -/
theorem inkBefore?_eq {pattern : List Char} (relined : Relined first second)
    (nonempty : pattern ≠ []) (unbroken : IsUnbroken pattern) :
    inkBefore? pattern first = inkBefore? pattern second := by
  induction relined with
  | nil => rfl
  | @char c first second more ih =>
    have same : pattern.isPrefixOf (c :: first) = pattern.isPrefixOf (c :: second) := by
      rw [Bool.eq_iff_iff, List.isPrefixOf_iff_prefix, List.isPrefixOf_iff_prefix]
      exact ⟨(char c more).begins_of_begins unbroken, (char c more).symm.begins_of_begins unbroken⟩
    rw [inkBefore?_cons, inkBefore?_cons, same, ih]
  | ends left right more ih =>
    rw [inkBefore?_append_of_isBreak nonempty unbroken left,
      inkBefore?_append_of_isBreak nonempty unbroken right, ih]

theorem occursIn_eq {pattern : List Char} (relined : Relined first second)
    (nonempty : pattern ≠ []) (unbroken : IsUnbroken pattern) :
    occursIn pattern first = occursIn pattern second := by
  rw [occursIn_eq_isSome_inkBefore?, occursIn_eq_isSome_inkBefore?,
    relined.inkBefore?_eq nonempty unbroken]

theorem withoutBlanks_eq (relined : Relined first second) :
    withoutBlanks first = withoutBlanks second := by
  induction relined with
  | nil => rfl
  | char c more ih =>
    rw [← List.singleton_append, withoutBlanks_append, ih, ← withoutBlanks_append,
      List.singleton_append]
  | ends left right more ih =>
    rw [withoutBlanks_append, withoutBlanks_append, withoutBlanks_of_isBreak left,
      withoutBlanks_of_isBreak right, ih]

/-! ## Replacing a pair -/

/-- Replacing a pair by a line feed keeps texts alike that differ in their line ends. -/
theorem replacePair {a b : Char} (relined : Relined first second) (unbroken : IsUnbroken [a, b])
    (distinct : a ≠ b) :
    Relined (replacePair a b ['\n'] first) (replacePair a b ['\n'] second) := by
  have last : IsUnbroken [b] := fun c mem => unbroken c (List.mem_cons_of_mem a mem)
  induction relined with
  | nil => exact .nil
  | @char c first second more ih =>
    by_cases ends : [b] <+: first
    · -- a pair may begin here, and then it does in both
      obtain ⟨front, rfl⟩ := ends
      obtain ⟨back, rfl⟩ := more.begins_of_begins last (List.prefix_append [b] front)
      have after : Relined (Text.replacePair a b ['\n'] front)
          (Text.replacePair a b ['\n'] back) := by
        rw [List.singleton_append, List.singleton_append, replacePair_cons_of_ne distinct.symm,
          replacePair_cons_of_ne distinct.symm] at ih
        exact ih.tail last
      by_cases begins : c = a
      · subst begins
        rw [List.singleton_append, List.singleton_append, Text.replacePair, if_pos (by simp),
          Text.replacePair, if_pos (by simp)]
        exact .char '\n' after
      · rw [replacePair_cons_of_ne begins, replacePair_cons_of_ne begins]
        exact .char c ih
    · have other : ¬ [b] <+: second := fun there =>
        ends (more.symm.begins_of_begins last there)
      rw [replacePair_cons_of_not_begins ends, replacePair_cons_of_not_begins other]
      exact .char c ih
  | ends left right more ih =>
    have absent {cs : List Char} (isBreak : IsBreak cs) : a ∉ cs :=
      unbroken.not_mem isBreak List.mem_cons_self
    rw [replacePair_append_of_not_mem (absent left), replacePair_append_of_not_mem (absent right)]
    exact .ends left right ih

end Relined

end SignedLink.Text
