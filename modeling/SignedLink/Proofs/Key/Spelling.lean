import Mathlib.Logic.Relation
import SignedLink.Key.Load
import SignedLink.Proofs.Key.Armour
import SignedLink.Proofs.Text.LineEnds
/-!
# SignedLink — spellings of one key text

A key text can be spelled in other ways: with other line ends, with blanks
around it, or with its line feeds escaped. What is loaded from it is the same,
and so is the refusal. For the line ends this needs the places of the markers
only as the characters count that are no blanks, since this count does not see
line ends at all; the body is then cut out of those characters.

* `body?_eq_ink`: the body, from the characters that are no blanks.
* `Respelled`: one way to spell a text differently; `Alike` is any number of them.
* `load_of_alike`: what is loaded from texts that are alike.
-/

namespace SignedLink

open Text

namespace Key

variable {first second cs : List Char}

/-! ## The body without its blanks -/

/-- The body, from the characters that are no blanks and the places of the markers among them. -/
theorem body?_eq_ink (cs : List Char) :
    body? cs =
      match inkBefore? beginMarker cs, inkBefore? endMarker cs with
      | some start, some stop =>
        if stop < start then none
        else some (((withoutBlanks cs).take stop).drop
          (start + (withoutBlanks beginMarker).length))
      | _, _ => none := by
  unfold body? inkBefore?
  cases foundBegin : indexOf? beginMarker cs with
  | none => rfl
  | some start =>
    cases foundEnd : indexOf? endMarker cs with
    | none => rfl
    | some stop =>
      have begins : beginMarker <+: cs.drop start :=
        List.isPrefixOf_iff_prefix.mp (isPrefixOf_drop_of_indexOf? foundBegin)
      have ends : endMarker <+: cs.drop stop :=
        List.isPrefixOf_iff_prefix.mp (isPrefixOf_drop_of_indexOf? foundEnd)
      obtain ⟨dash, rest, marker, noBlank⟩ : ∃ c rest, endMarker = c :: rest ∧ isBlank c = false :=
        ⟨_, _, rfl, by decide⟩
      rw [marker] at ends
      -- the end marker begins with a dash, so the count tells on which side of it a place is
      have order := ink_lt_iff (i := start) noBlank ends
      have stretch := withoutBlanks_drop_take cs (start + beginMarker.length) stop
      rw [ink_add_of_begins begins] at stretch
      simp only [Option.map_some, order, stretch]

/-! ## Line ends -/

theorem isUnbroken_markers :
    IsUnbroken beginMarker ∧ IsUnbroken endMarker ∧ IsUnbroken openingDashes :=
  ⟨isUnbroken_of_all (by decide), isUnbroken_of_all (by decide), isUnbroken_of_all (by decide)⟩

theorem body?_of_relined (relined : Relined first second) : body? first = body? second := by
  obtain ⟨begins, ends, -⟩ := isUnbroken_markers
  rw [body?_eq_ink, body?_eq_ink, relined.withoutBlanks_eq,
    relined.inkBefore?_eq (by decide) begins, relined.inkBefore?_eq (by decide) ends]

theorem relined_normalizeChars (relined : Relined first second) :
    Relined (normalizeChars first) (normalizeChars second) := by
  obtain ⟨-, -, dashes⟩ := isUnbroken_markers
  -- both are trimmed, and then both or neither have a marker and an escape
  have trimmed := relined.trimChars
  have pair : IsUnbroken ['\\', 'n'] := isUnbroken_of_all (by decide)
  unfold normalizeChars hasEscapedNewline
  dsimp only
  rw [trimmed.occursIn_eq (by decide) dashes, trimmed.occursIn_eq (by decide) pair]
  split
  · exact trimmed.replacePair pair (by decide)
  · exact trimmed

/-! ## Escapes -/

/-- The text with each line feed escaped. -/
def escapeNewlines (cs : List Char) : List Char :=
  cs.flatMap fun c => if c = '\n' then ['\\', 'n'] else [c]

theorem escapeNewlines_append (front back : List Char) :
    escapeNewlines (front ++ back) = escapeNewlines front ++ escapeNewlines back :=
  List.flatMap_append

theorem escapeNewlines_cons_of_ne {c : Char} (noFeed : c ≠ '\n') (cs : List Char) :
    escapeNewlines (c :: cs) = c :: escapeNewlines cs := by
  rw [escapeNewlines, List.flatMap_cons, if_neg noFeed]
  rfl

/-- Escapes can be undone where the text had none. -/
theorem replacePair_escapeNewlines (plain : ¬ ['\\', 'n'] <:+: cs) :
    replacePair '\\' 'n' ['\n'] (escapeNewlines cs) = cs := by
  induction cs with
  | nil => rfl
  | cons c cs ih =>
    have undone := ih fun inside => plain (List.infix_cons inside)
    by_cases feed : c = '\n'
    · have escape : escapeNewlines (c :: cs) = '\\' :: 'n' :: escapeNewlines cs := by
        rw [feed]
        rfl
      rw [escape, replacePair, if_pos (by decide), undone, feed]
      rfl
    · rw [escapeNewlines_cons_of_ne feed]
      by_cases backslash : c = '\\'
      · -- what follows the backslash is no `n`, and its escape does not begin with one
        have apart : ¬ ['n'] <+: escapeNewlines cs := by
          cases cs with
          | nil => decide
          | cons d cs =>
            have other : d ≠ 'n' := by
              rintro rfl
              subst backslash
              exact plain (List.prefix_append ['\\', 'n'] cs).isInfix
            intro begins
            by_cases feed : d = '\n'
            · rw [feed] at begins
              exact absurd (List.cons_prefix_cons.mp begins).1 (by decide)
            · rw [escapeNewlines_cons_of_ne feed] at begins
              exact other (List.cons_prefix_cons.mp begins).1.symm
        rw [replacePair_cons_of_not_begins apart, undone]
      · rw [replacePair_cons_of_ne backslash, undone]

/-- Escapes leave the ends of a trimmed text, which are no line feeds. -/
theorem trimChars_escapeNewlines (trimmed : trimChars cs = cs) :
    trimChars (escapeNewlines cs) = escapeNewlines cs := by
  have noFeed {c : Char} (noBlank : isBlank c = false) : c ≠ '\n' := by
    rintro rfl
    exact absurd noBlank (by decide)
  obtain ⟨head, last⟩ := trimChars_eq_self_iff.mp trimmed
  refine trimBy_eq_self ?_ ?_
  · cases cs with
    | nil => nofun
    | cons c cs =>
      rw [escapeNewlines_cons_of_ne (noFeed (head c rfl))]
      exact head
  · rcases List.eq_nil_or_concat cs with rfl | ⟨front, c, rfl⟩
    · nofun
    · have kept : isBlank c = false := last c (by simp)
      rw [List.concat_eq_append, escapeNewlines_append, escapeNewlines_cons_of_ne (noFeed kept)]
      intro d mem
      have same : c = d := by simpa [escapeNewlines] using mem
      rwa [← same]

/-- A trimmed text with an opening marker is the normal form of its escaped one. -/
theorem normalizeChars_escapeNewlines (trimmed : trimChars cs = cs)
    (marked : occursIn openingDashes cs = true) (plain : hasEscapedNewline cs = false) :
    normalizeChars (escapeNewlines cs) = cs := by
  have noPair : ¬ ['\\', 'n'] <:+: cs := by
    rw [← occursIn_iff, ← hasEscapedNewline, plain]
    exact Bool.false_ne_true
  obtain ⟨front, back, split⟩ := occursIn_iff.mp marked
  have stillMarked : openingDashes <:+: escapeNewlines cs := by
    have dashes : escapeNewlines openingDashes = openingDashes := by decide
    rw [← split, escapeNewlines_append, escapeNewlines_append, dashes]
    exact ⟨_, _, rfl⟩
  have stillTrimmed := trimChars_escapeNewlines trimmed
  rw [normalizeChars_of_marker (by rwa [stillTrimmed]), stillTrimmed,
    replacePair_escapeNewlines noPair]

/-! ## Texts that are alike -/

/-- One way to spell a text of a key differently. -/
inductive Respelled : List Char → List Char → Prop
  /-- the same lines, with other line ends -/
  | lineEnds {first second : List Char} (same : unifyNewlines first = unifyNewlines second) :
    Respelled first second
  /-- the same text with other blanks around it -/
  | surrounded {first second : List Char} (same : trimChars first = trimChars second) :
    Respelled first second
  /-- a trimmed text with an opening marker, its line feeds escaped -/
  | escaped {cs : List Char} (trimmed : trimChars cs = cs)
      (marked : occursIn openingDashes cs = true) (plain : hasEscapedNewline cs = false) :
    Respelled (escapeNewlines cs) cs

/-- Texts of a key that are spelled differently. -/
def Alike : List Char → List Char → Prop :=
  Relation.EqvGen Respelled

theorem Respelled.alike (respelled : Respelled first second) : Alike first second :=
  .rel _ _ respelled

theorem Alike.trans {third : List Char} (left : Alike first second) (right : Alike second third) :
    Alike first third :=
  Relation.EqvGen.trans _ _ _ left right

/-- Line ends change nothing of what is loaded, and nothing of whether there is a text at all. -/
theorem load_of_relined (relined : Relined first second) :
    loadChars (normalizeChars first) = loadChars (normalizeChars second) ∧
      (trimChars first = [] ↔ trimChars second = []) := by
  refine ⟨?_, relined.trimChars.eq_nil_iff⟩
  rw [loadChars, loadChars, body?_of_relined (relined_normalizeChars relined)]

theorem load_of_respelled (respelled : Respelled first second) :
    loadChars (normalizeChars first) = loadChars (normalizeChars second) ∧
      (trimChars first = [] ↔ trimChars second = []) := by
  cases respelled with
  | lineEnds same =>
    -- both are read as one text
    obtain ⟨left, leftBlank⟩ := load_of_relined (relined_unifyNewlines first)
    obtain ⟨right, rightBlank⟩ := load_of_relined (relined_unifyNewlines second)
    rw [← same] at right rightBlank
    exact ⟨left.trans right.symm, leftBlank.trans rightBlank.symm⟩
  | surrounded same =>
    have normal : normalizeChars first = normalizeChars second := by
      unfold normalizeChars
      rw [same]
    exact ⟨by rw [normal], by rw [same]⟩
  | escaped trimmed marked plain =>
    have normal : normalizeChars second = second := by
      unfold normalizeChars
      dsimp only
      rw [trimmed, plain, Bool.and_false, if_neg Bool.false_ne_true]
    have nonempty : second ≠ [] := by
      rintro rfl
      exact absurd marked (by decide)
    refine ⟨by rw [normalizeChars_escapeNewlines trimmed marked plain, normal], ?_⟩
    rw [trimChars_escapeNewlines trimmed, trimmed]
    refine iff_of_false ?_ nonempty
    obtain ⟨c, rest, rfl⟩ := List.exists_cons_of_ne_nil nonempty
    rw [escapeNewlines, List.flatMap_cons]
    split <;> simp

/-- What is loaded from texts that are alike is the same, and either all of them are blank or none
is. -/
theorem load_of_alike (alike : Alike first second) :
    loadChars (normalizeChars first) = loadChars (normalizeChars second) ∧
      (trimChars first = [] ↔ trimChars second = []) := by
  induction alike with
  | rel _ _ respelled => exact load_of_respelled respelled
  | refl _ => exact ⟨rfl, Iff.rfl⟩
  | symm _ _ _ ih => exact ⟨ih.1.symm, ih.2.symm⟩
  | trans _ _ _ _ _ left right => exact ⟨left.1.trans right.1, left.2.trans right.2⟩

theorem load_normalize_of_alike {pem other : String} (alike : Alike pem.toList other.toList) :
    load (normalize (some pem)) = load (normalize (some other)) := by
  simpa only [load, normalize, Option.getD_some, String.toList_ofList] using
    (load_of_alike alike).1

theorem respelled_unifyNewlines (cs : List Char) : Respelled (unifyNewlines cs) cs :=
  .lineEnds (unifyNewlines_eq_self (not_mem_unifyNewlines cs))

end Key

end SignedLink
