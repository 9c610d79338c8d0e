import Mathlib.Data.List.Nodup
import Mathlib.Data.List.TakeWhile
import SignedLink.Http.Template
import SignedLink.Proofs.Text.Search
/-!
# SignedLink — templates around a slash

A slash is in no name, so a path with a slash in it is read piece by piece
around it, and no piece of a kind looks beyond it further than the piece that
follows. That makes matching compositional: `Covers` says that the pieces in
front of a slash stand for the text in front of it, whatever comes behind, and
two templates that begin alike agree on the paths that begin alike.

* `piecesFrom_append_slash`: reading goes piece by piece around a slash.
* `match?_append`: what a match says of the two parts of a template.
* `isSome_match?_of_covers`: parts that fit make a match.
-/

namespace SignedLink.Http

/-! ## Pieces in front of a slash -/

namespace PieceKind

variable {p : Char → Bool} {cs : List Char} {n least greatest : Nat}

theorem mem_down : n ∈ down least greatest ↔ least ≤ n ∧ n ≤ greatest := by
  unfold down
  simp only [List.mem_map, List.mem_reverse, List.mem_range]
  constructor
  · rintro ⟨m, small, rfl⟩
    omega
  · rintro ⟨low, high⟩
    exact ⟨n - least, by omega, by omega⟩

theorem takeWhile_append_slash (stops : p '/' = false) (cs rest : List Char) :
    (cs ++ '/' :: rest).takeWhile p = cs.takeWhile p := by
  rw [List.takeWhile_append]
  split
  · next whole =>
    rw [List.takeWhile_cons_of_neg (by simp [stops]), List.append_nil]
    exact ((List.takeWhile_prefix p).eq_of_length whole).symm
  · rfl

/-- A text has one piece behind its last slash. -/
theorem eq_of_append_slash {front other last tail : List Char} (noSlash : '/' ∉ last)
    (free : '/' ∉ tail) (same : front ++ '/' :: last = other ++ '/' :: tail) : last = tail := by
  have reversed := congrArg (fun cs => cs.reverse.takeWhile (· != '/')) same
  simp only [List.reverse_append, List.reverse_cons, List.append_assoc, List.singleton_append]
    at reversed
  rw [takeWhile_append_slash (by decide), takeWhile_append_slash (by decide),
    Text.takeWhile_of_not_mem (by simpa using noSlash),
    Text.takeWhile_of_not_mem (by simpa using free)] at reversed
  exact List.reverse_injective reversed

/-- The groups of an identifier end before a slash. -/
theorem groupsLength?_append_slash (sizes : List Nat) (cs rest other : List Char) :
    groupsLength? sizes (cs ++ '/' :: rest) = groupsLength? sizes (cs ++ '/' :: other) := by
  induction sizes generalizing cs with
  | nil => rfl
  | cons size sizes ih =>
    simp only [groupsLength?]
    by_cases inside : size ≤ cs.length
    · simp only [List.take_append_of_le_length inside, List.drop_append_of_le_length inside]
      cases more : cs.drop size with
      | nil =>
        -- the slash itself follows, which is no hyphen
        have slash : (some '/' == some '-') = false := by decide
        simp only [List.nil_append, List.head?_cons, slash, Bool.and_false, Bool.false_eq_true,
          if_false, List.drop_zero]
        rw [show '/' :: rest = [] ++ '/' :: rest from rfl, ih []]
        rfl
      | cons d ds =>
        have whole := ih (d :: ds)
        have behind := ih ds
        rw [List.cons_append, List.cons_append] at whole
        simp only [List.cons_append, List.head?_cons]
        cases sizes with
        | nil => rfl
        | cons next sizes =>
          by_cases hyphen : d = '-'
          · simp [hyphen, behind]
          · simp [hyphen, whole]
    · -- the group would hold the slash, which is no digit
      have bad (tail : List Char) :
          ((cs ++ '/' :: tail).take size).all (fun c => (Text.hexValue? c).isSome) = false := by
        rw [List.all_eq_false]
        refine ⟨'/', ?_, by decide⟩
        rw [List.take_append, List.mem_append]
        right
        obtain ⟨k, left⟩ : ∃ k, size - cs.length = k + 1 := ⟨size - cs.length - 1, by omega⟩
        rw [left, List.take_succ_cons]
        exact List.mem_cons_self
      simp only [bad, Bool.and_false, Bool.false_eq_true, if_false]

/-- The lengths of pieces that end at or before a slash do not depend on what is behind it. -/
theorem mem_lengths_append_slash {kind : PieceKind} (inside : n ≤ cs.length)
    (rest other : List Char) (admitted : n ∈ kind.lengths (cs ++ '/' :: rest)) :
    n ∈ kind.lengths (cs ++ '/' :: other) := by
  cases kind with
  | segment =>
    simpa only [lengths, takeWhile_append_slash (p := (· != '/')) (by decide)] using admitted
  | line =>
    simp only [lengths, mem_down, List.takeWhile_append] at admitted ⊢
    split
    · -- the line goes beyond the slash, and so beyond the piece
      simp only [List.length_append]
      omega
    · next ends => simpa [ends] using admitted
  | whole =>
    simpa only [lengths, takeWhile_append_slash (p := Text.isAsciiDigit) (by decide)] using admitted
  | decimal =>
    have digits := (List.takeWhile_prefix Text.isAsciiDigit (l := cs)).length_le
    simp only [lengths, takeWhile_append_slash (p := Text.isAsciiDigit) (by decide),
      List.drop_append_of_le_length digits] at admitted ⊢
    cases more : cs.drop (cs.takeWhile Text.isAsciiDigit).length with
    | nil => simpa [more] using admitted
    | cons d ds =>
      rw [more] at admitted
      by_cases point : d = '.'
      · subst point
        simpa only [List.cons_append, takeWhile_append_slash (p := Text.isAsciiDigit) (by decide)]
          using admitted
      · simpa [point] using admitted
  | universal =>
    simpa only [lengths, groupsLength?_append_slash _ _ other rest] using admitted

end PieceKind

namespace Template

variable {first rest : Template} {path cs before : List Char} {bindings : Bindings}

/-! ## Reading -/

theorem word?_append_slash (cs rest : List Char) :
    word? (cs ++ '/' :: rest) = (word? cs).map fun w => (w.1, w.2 ++ '/' :: rest) := by
  have length := (List.takeWhile_prefix (fun c => c.isAlphanum || c == '_') (l := cs)).length_le
  unfold word?
  dsimp only
  rw [PieceKind.takeWhile_append_slash (p := fun c => c.isAlphanum || c == '_') (by decide)]
  split
  · rfl
  · split
    · rfl
    · rw [List.drop_append_of_le_length length]
      rfl

theorem braces?_append_slash (cs rest : List Char) :
    braces? (cs ++ '/' :: rest) =
      (braces? cs).map fun b => (b.1, b.2.1, b.2.2 ++ '/' :: rest) := by
  unfold braces?
  rw [word?_append_slash]
  cases word? cs with
  | none => rfl
  | some word =>
    obtain ⟨name, left⟩ := word
    cases left with
    | nil => rfl
    | cons c more =>
      by_cases closes : c = '\x7d'
      · subst closes
        rfl
      · by_cases colon : c = ':'
        · subst colon
          simp only [Option.map_some, List.cons_append, word?_append_slash]
          cases word? more with
          | none => rfl
          | some word =>
            obtain ⟨kind, left⟩ := word
            cases left with
            | nil => rfl
            | cons d _ =>
              by_cases closes : d = '\x7d'
              · subst closes
                rfl
              · simp [closes]
        · simp [closes, colon]

theorem length_word? {cs : List Char} {w : List Char × List Char} (h : word? cs = some w) :
    w.2.length ≤ cs.length := by
  unfold word? at h
  dsimp only at h
  split at h
  · cases h
  · split at h
    · cases h
    · cases h
      simp

theorem length_braces? {cs : List Char} {b : List Char × Option (List Char) × List Char}
    (h : braces? cs = some b) : b.2.2.length ≤ cs.length := by
  unfold braces? at h
  split at h
  · cases h
  · next read =>
    cases h
    have := length_word? read
    rw [List.length_cons] at this
    exact Nat.le_of_succ_le this
  · next read =>
    have := length_word? read
    split at h
    · next read' =>
      cases h
      have := length_word? read'
      simp at *
      omega
    · cases h
  · cases h

/-- An allowance as long as the path is enough. -/
theorem piecesFrom_of_length_le {allowance : Nat} (enough : cs.length ≤ allowance) :
    piecesFrom allowance cs = piecesFrom cs.length cs := by
  induction size : cs.length using Nat.strongRecOn generalizing cs allowance with
  | ind size ih =>
    subst size
    cases cs with
    | nil => cases allowance <;> rfl
    | cons c more =>
      obtain ⟨allowance, rfl⟩ : ∃ k, allowance = k + 1 := ⟨allowance - 1, by simp at enough; omega⟩
      simp only [List.length_cons, Nat.add_le_add_iff_right] at enough
      have shorter (ds : List Char) (short : ds.length ≤ more.length) :
          piecesFrom allowance ds = piecesFrom more.length ds := by
        rw [ih ds.length (by simp; omega) (by omega) rfl, ih ds.length (by simp; omega) short rfl]
      simp only [List.length_cons, piecesFrom]
      split
      · rw [shorter more (Nat.le_refl _)]
      · next read =>
        split at read
        · rw [shorter _ (length_braces? read)]
        · cases read

/-- Reading goes piece by piece around a slash. -/
theorem piecesFrom_append_slash {template : Template} {more : List Char}
    (read : piecesFrom (cs ++ '/' :: more).length (cs ++ '/' :: more) = .ok template) :
    ∃ first rest, piecesFrom cs.length cs = .ok first ∧ piecesFrom more.length more = .ok rest ∧
      template = first ++ .literal '/' :: rest := by
  induction size : cs.length using Nat.strongRecOn generalizing cs template with
  | ind size ih =>
    subst size
    cases cs with
    | nil =>
      simp only [List.nil_append, List.length_cons, piecesFrom] at read
      cases rest : piecesFrom more.length more with
      | error flaw => simp [rest, Except.map] at read
      | ok pieces =>
        refine ⟨[], pieces, rfl, rfl, ?_⟩
        simpa [rest, Except.map] using read.symm
    | cons c ds =>
      -- the pieces of what is left after the first one
      have peel {left : List Char} {own : Piece} (short : left.length ≤ ds.length)
          (read : (piecesFrom (ds ++ '/' :: more).length (left ++ '/' :: more)).map (own :: ·) =
            .ok template) :
          ∃ first rest, (piecesFrom ds.length left).map (own :: ·) = .ok first ∧
            piecesFrom more.length more = .ok rest ∧ template = first ++ .literal '/' :: rest := by
        rw [piecesFrom_of_length_le (by simp; omega)] at read
        cases behind : piecesFrom (left ++ '/' :: more).length (left ++ '/' :: more) with
        | error flaw =>
          rw [behind] at read
          cases read
        | ok pieces =>
          rw [behind] at read
          obtain ⟨first, rest, readFirst, readRest, rfl⟩ :=
            ih left.length (by simp; omega) behind rfl
          refine ⟨own :: first, rest, ?_, readRest, (Except.ok.inj read).symm⟩
          rw [piecesFrom_of_length_le short, readFirst]
          rfl
      simp only [List.cons_append, List.length_cons, piecesFrom] at read ⊢
      by_cases opens : c = '\x7b'
      · subst opens
        simp only [beq_self_eq_true, if_true, braces?_append_slash] at read ⊢
        cases braces : braces? ds with
        | none =>
          simp only [braces, Option.map_none] at read ⊢
          exact peel (Nat.le_refl _) read
        | some b =>
          simp only [braces, Option.map_some] at read ⊢
          split at read
          · cases read
          · next kind known =>
            simp only [known]
            exact peel (length_braces? braces) read
      · have other : (c == '\x7b') = false := by simpa using opens
        simp only [other, Bool.false_eq_true, if_false] at read ⊢
        exact peel (Nat.le_refl _) read

/-- The names of a path that was read are different from each other. -/
theorem nodup_names_of_ofPath {template : Template} (read : ofPath path = .ok template) :
    piecesFrom path.length path = .ok template ∧ template.names.Nodup := by
  unfold ofPath at read
  split at read
  · cases read
  · next pieces =>
    split at read
    · next unmatched =>
      cases read
      refine ⟨pieces, List.nodup_iff_count_le_one.mpr fun name => ?_⟩
      have filtered := (List.mergeSort_perm _ _).symm.trans (List.Perm.of_eq unmatched)
      have only := List.filter_eq_nil_iff.mp filtered.eq_nil
      by_cases mem : name ∈ template.names
      · have := only name (List.mem_eraseDups.mpr mem)
        simpa using this
      · rw [List.count_eq_zero_of_not_mem mem]
        omega
    · cases read

/-! ## Matching -/

/-- The pieces stand for a text from end to end, given that a slash follows. -/
inductive Covers : Template → List Char → Prop
  | nil : Covers [] []
  | literal (c : Char) {rest : Template} {cs : List Char} (more : Covers rest cs) :
    Covers (.literal c :: rest) (c :: cs)
  | named (name : List Char) {kind : PieceKind} {rest : Template} {taken cs : List Char}
    (admitted : taken.length ∈ kind.lengths (taken ++ cs ++ ['/'])) (more : Covers rest cs) :
    Covers (.named name kind :: rest) (taken ++ cs)

/-- A match goes through a template from left to right, so each part of the template has a part of
the path and binds its own names. -/
theorem match?_append (matched : match? (first ++ rest) path = some bindings) :
    ∃ before after own others, path = before ++ after ∧ match? rest after = some others ∧
      bindings = own ++ others ∧ own.map Prod.fst = first.names ∧
      (after.head? = some '/' → Covers first before) := by
  induction first generalizing path bindings with
  | nil => exact ⟨[], path, [], bindings, rfl, matched, rfl, rfl, fun _ => .nil⟩
  | cons piece first ih =>
    cases piece with
    | literal c =>
      cases path with
      | nil => simp [match?] at matched
      | cons d more =>
        rw [List.cons_append, match?] at matched
        split at matched
        · next same =>
          obtain ⟨before, after, own, others, rfl, last, rfl, names, covers⟩ := ih matched
          rw [beq_iff_eq] at same
          subst same
          exact ⟨c :: before, after, own, others, rfl, last, rfl, names,
            fun slash => .literal c (covers slash)⟩
        · cases matched
    | named name kind =>
      rw [List.cons_append, match?] at matched
      obtain ⟨n, admitted, here⟩ := List.exists_of_findSome?_eq_some matched
      rw [Option.map_eq_some_iff] at here
      obtain ⟨inner, here, rfl⟩ := here
      obtain ⟨before, after, own, others, split, last, rfl, names, covers⟩ := ih here
      refine ⟨path.take n ++ before, after, (name, path.take n) :: own, others, ?_, last, rfl, ?_,
        ?_⟩
      · rw [List.append_assoc, ← split, List.take_append_drop]
      · simpa [Template.names] using names
      · intro slash
        obtain ⟨tail, rfl⟩ := List.head?_eq_some_iff.mp slash
        -- something of the path is left behind the piece
        have inside : n < path.length := by
          have := congrArg List.length split
          simp at this
          omega
        have length : (path.take n).length = n := by
          rw [List.length_take]
          omega
        refine .named name ?_ (covers slash)
        rw [length]
        refine PieceKind.mem_lengths_append_slash (by simp; omega) tail [] ?_
        rwa [List.append_assoc, ← split, List.take_append_drop]

/-- Parts that fit make a match. -/
theorem isSome_match?_of_covers {tail : List Char} (covers : Covers first before)
    (matched : (match? rest ('/' :: tail)).isSome = true) :
    (match? (first ++ rest) (before ++ '/' :: tail)).isSome = true := by
  induction covers with
  | nil => exact matched
  | literal c _ ih => simpa [match?] using ih
  | @named name kind rest taken cs admitted _ ih =>
    rw [List.cons_append, match?, List.findSome?_isSome_iff]
    refine ⟨taken.length, PieceKind.mem_lengths_append_slash (by simp) [] tail admitted, ?_⟩
    simpa using ih

/-- Behind the last piece there is at most the end of the line. -/
theorem ends_of_match?_nil (matched : match? [] path = some bindings) :
    path = [] ∨ path = ['\n'] := by
  rw [match?] at matched
  split at matched
  · next ends =>
    rwa [Bool.or_eq_true, List.isEmpty_iff, beq_iff_eq] at ends
  · cases matched

theorem match?_literal_append {text : List Char} (path : List Char) :
    match? (literal text ++ rest) (text ++ path) = match? rest path := by
  induction text with
  | nil => rfl
  | cons c text ih => simpa [literal, match?] using ih

theorem prefix_of_match?_literal {text : List Char}
    (matched : match? (literal text ++ rest) path = some bindings) :
    ∃ tail, path = text ++ tail ∧ match? rest tail = some bindings := by
  induction text generalizing path with
  | nil => exact ⟨path, rfl, matched⟩
  | cons c text ih =>
    cases path with
    | nil => simp [literal, match?] at matched
    | cons d more =>
      rw [literal, List.map_cons, List.cons_append, match?] at matched
      split at matched
      · next same =>
        rw [beq_iff_eq] at same
        subst same
        obtain ⟨tail, rfl, last⟩ := ih matched
        exact ⟨tail, rfl, last⟩
      · cases matched

/-- A last piece without slashes is taken whole. -/
theorem match?_segment (name : List Char) (nonempty : cs ≠ []) (noSlash : '/' ∉ cs) :
    match? [.named name .segment] cs = some [(name, cs)] := by
  have whole := Text.takeWhile_of_not_mem noSlash
  obtain ⟨k, length⟩ : ∃ k, cs.length = k + 1 :=
    Nat.exists_eq_succ_of_ne_zero (by simpa using nonempty)
  -- the longest piece comes first
  have longest : PieceKind.down 1 (k + 1) = (k + 1) :: PieceKind.down 1 k := by
    simp [PieceKind.down, List.range_succ]
  rw [match?, PieceKind.lengths, whole, length, longest, List.findSome?_cons_of_isSome]
  · simp [← length, match?]
  · simp [← length, match?]

theorem not_mem_of_match?_segment {name : List Char}
    (matched : match? [.named name .segment] cs = some bindings) : '/' ∉ cs := by
  obtain ⟨n, admitted, here⟩ := List.exists_of_findSome?_eq_some matched
  rw [PieceKind.lengths, PieceKind.mem_down] at admitted
  rw [← List.take_append_drop n cs, List.mem_append, not_or]
  constructor
  · intro mem
    obtain ⟨tail, whole⟩ := List.takeWhile_prefix (· != '/') (l := cs)
    rw [← whole, List.take_append_of_le_length admitted.2] at mem
    have := List.mem_takeWhile_imp (List.mem_of_mem_take mem)
    simp at this
  · intro mem
    rw [Option.map_eq_some_iff] at here
    obtain ⟨_, last, -⟩ := here
    rcases ends_of_match?_nil last with ends | ends
    · simp [ends] at mem
    · simp [ends] at mem

end Template

end SignedLink.Http
