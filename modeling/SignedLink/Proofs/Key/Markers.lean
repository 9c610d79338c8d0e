import Mathlib.Data.List.Infix
import SignedLink.Key.Armour
import SignedLink.Proofs.Text.Search
/-!
# SignedLink — the markers of an armoured key

Of a text with a closing marker only that counts which stands before its end and
behind a line that is put in front. A marker that comes in behind the text is
not the first of its kind, or it is an opening one that comes after the closing
one: an opening marker is longer than a closing one, but not so much longer that
it could reach out of the text and still begin before it. Only the dashes at the
end of an opening marker could begin a closing one, and then the body would have
to go on with a dash or with the letter after the dashes.

* `Preamble`: what may stand before the opening marker.
* `lt_of_markers`: a closing marker does not end inside an opening one.
* `body?_surrounded`: what stands in front and behind does not count.
* `IsSealed`, `body?_of_isSealed`: a body between markers that close with the second.
-/

namespace SignedLink.Key

open Text

variable {before cs after body : List Char}

/-! ## Preambles -/

/-- A text that may stand before the opening marker: it holds no marker, and is empty or ends in a
line feed. -/
structure Preamble (before : List Char) : Prop where
  noBegin : ¬ beginMarker <:+: before
  noEnd : ¬ endMarker <:+: before
  closed : before = [] ∨ ∃ line, before = line ++ ['\n']

/-- A pattern without a line feed that a preamble does not hold does not begin in it either. -/
theorem Preamble.not_prefix {before pattern rest : List Char} (preamble : Preamble before)
    (fresh : '\n' ∉ pattern) (absent : ¬ pattern <:+: before) :
    ∀ back, back <:+ before → back ≠ [] → ¬ pattern <+: back ++ rest := by
  rcases preamble.closed with rfl | ⟨line, rfl⟩
  · intro back part nonempty
    exact absurd (List.suffix_nil.mp part) nonempty
  · exact not_prefix_of_break fresh fun inside =>
      absent (inside.trans (List.prefix_append line ['\n']).isInfix)

/-! ## Markers that overlap -/

/-- A closing marker that begins in an opening one goes on behind it, with a dash or an `E`. -/
theorem endMarker_in_beginMarker : ∀ back ∈ beginMarker.tails, back ≠ [] →
    endMarker.isPrefixOf back = false ∧
      (back.isPrefixOf endMarker = true →
        (endMarker.drop back.length).head? ∈ [some '-', some 'E']) := by
  decide +kernel

/-- No closing marker begins in the opening marker, since no body goes on as it would. -/
theorem not_endMarker_prefix_beginMarker {first : Char} (noDash : first ≠ '-') (noE : first ≠ 'E')
    (more : List Char) :
    ∀ back, back <:+ beginMarker → back ≠ [] → ¬ endMarker <+: back ++ (first :: more) := by
  intro back part nonempty here
  obtain ⟨whole, goesOn⟩ :=
    endMarker_in_beginMarker back ((List.mem_tails _ _).mpr part) nonempty
  rcases prefix_append_cases here with inside | ⟨tail, shape, there⟩
  · rw [List.isPrefixOf_iff_prefix.mpr inside] at whole
    cases whole
  · -- the marker goes on behind the dashes, where the body begins
    have inMarker : back.isPrefixOf endMarker = true := by
      rw [shape]
      exact List.isPrefixOf_iff_prefix.mpr (List.prefix_append ..)
    have begins := goesOn inMarker
    rw [shape, List.drop_left] at begins
    cases tail with
    | nil => simp at begins
    | cons d tail =>
      have same : d = first := (List.cons_prefix_cons.mp there).1
      simp only [List.head?_cons, same, List.mem_cons, Option.some.injEq, List.not_mem_nil,
        or_false] at begins
      rcases begins with dash | letter
      · exact noDash dash
      · exact noE letter

/-- A closing marker that does not begin before an opening one ends behind it. -/
theorem lt_of_markers {start stop : Nat} (begins : beginMarker <+: cs.drop start)
    (ends : endMarker <+: cs.drop stop) (order : start ≤ stop) :
    start + beginMarker.length < stop + endMarker.length := by
  refine Nat.lt_of_not_le fun inside => ?_
  obtain ⟨shift, rfl⟩ := Nat.exists_eq_add_of_le order
  have lengths : beginMarker.length = 27 ∧ endMarker.length = 25 := by decide
  -- the closing marker would be a stretch of the opening one
  have opening : beginMarker.drop shift <+: cs.drop (start + shift) := by
    rw [← List.drop_drop]
    exact begins.drop shift
  have within : endMarker <+: beginMarker.drop shift :=
    List.prefix_of_prefix_length_le ends opening (by rw [List.length_drop]; omega)
  have nonempty : beginMarker.drop shift ≠ [] := by
    intro empty
    rw [empty, List.prefix_nil] at within
    exact absurd within (by decide)
  have tail := (List.mem_tails _ _).mpr (List.drop_suffix shift beginMarker)
  have apart := (endMarker_in_beginMarker _ tail nonempty).1
  rw [List.isPrefixOf_iff_prefix.mpr within] at apart
  cases apart

/-! ## In front -/

/-- What stands in front does not count when no marker begins in it. -/
theorem body?_append_left
    (noBegin : ∀ back, back <:+ before → back ≠ [] → ¬ beginMarker <+: back ++ cs)
    (noEnd : ∀ back, back <:+ before → back ≠ [] → ¬ endMarker <+: back ++ cs) :
    body? (before ++ cs) = body? cs := by
  unfold body?
  rw [indexOf?_append noBegin, indexOf?_append noEnd]
  cases indexOf? beginMarker cs with
  | none => rfl
  | some start =>
    cases indexOf? endMarker cs with
    | none => rfl
    | some stop =>
      have stretch : ((before ++ cs).take (stop + before.length)).drop
          (start + before.length + beginMarker.length) =
            (cs.take stop).drop (start + beginMarker.length) := by
        rw [Nat.add_comm stop, List.take_length_add_append, Nat.add_right_comm,
          Nat.add_comm _ before.length, List.drop_length_add_append]
      simp only [Option.map_some, Nat.add_lt_add_iff_right, stretch]

theorem Preamble.body?_append (preamble : Preamble before) (cs : List Char) :
    body? (before ++ cs) = body? cs :=
  body?_append_left (preamble.not_prefix (by decide) preamble.noBegin)
    (preamble.not_prefix (by decide) preamble.noEnd)

/-! ## Behind -/

/-- Behind the first closing marker nothing counts. -/
theorem body?_append_right (ended : endMarker <:+: cs) (after : List Char) :
    body? (cs ++ after) = body? cs := by
  obtain ⟨stop, foundEnd⟩ := Option.isSome_iff_exists.mp (occursIn_iff.mpr ended)
  have inside : stop < cs.length := indexOf?_lt (by decide) foundEnd
  unfold body?
  rw [foundEnd, indexOf?_append_right foundEnd]
  cases foundBegin : indexOf? beginMarker cs with
  | some start =>
    rw [indexOf?_append_right foundBegin]
    simp only [List.take_append_of_le_length (Nat.le_of_lt inside)]
  | none =>
    cases later : indexOf? beginMarker (cs ++ after) with
    | none => rfl
    | some start =>
      have ends : endMarker <+: cs.drop stop :=
        List.isPrefixOf_iff_prefix.mp (isPrefixOf_drop_of_indexOf? foundEnd)
      have begins : beginMarker <+: (cs ++ after).drop start :=
        List.isPrefixOf_iff_prefix.mp (isPrefixOf_drop_of_indexOf? later)
      have fits : stop + endMarker.length ≤ cs.length := by
        have short := ends.length_le
        rw [List.length_drop] at short
        omega
      -- an opening marker in front of the closing one would stand in the text
      have order : stop < start := by
        refine Nat.lt_of_not_le fun order => ?_
        have endsStill : endMarker <+: (cs ++ after).drop stop := by
          rw [List.drop_append_of_le_length (Nat.le_of_lt inside)]
          exact ends.trans (List.prefix_append ..)
        have short := lt_of_markers begins endsStill order
        have whole : beginMarker <+: cs.drop start := by
          rw [List.drop_append_of_le_length (by omega)] at begins
          exact List.prefix_of_prefix_length_le begins (List.prefix_append ..)
            (by rw [List.length_drop]; omega)
        exact indexOf?_eq_none_iff.mp foundBegin
          (whole.isInfix.trans (List.drop_suffix start cs).isInfix)
      simp only [if_pos order]

/-- What stands around a text with a closing marker does not count. -/
theorem body?_surrounded (preamble : Preamble before) (ended : endMarker <:+: cs)
    (after : List Char) : body? (before ++ cs ++ after) = body? cs := by
  rw [List.append_assoc, preamble.body?_append, body?_append_right ended]

/-! ## Between -/

/-- The text up to the closing marker of a body that is not empty, cut at the opening one. -/
theorem exists_cut_of_body? (found : body? cs = some body) (nonempty : body ≠ []) :
    ∃ start stop raw, indexOf? beginMarker cs = some start ∧ indexOf? endMarker cs = some stop ∧
      cs.take stop = cs.take start ++ (beginMarker ++ raw) ∧ withoutBlanks raw = body := by
  unfold body? at found
  split at found
  · next start stop foundBegin foundEnd =>
    split at found
    · cases found
    · refine ⟨start, stop, (cs.take stop).drop (start + beginMarker.length), foundBegin, foundEnd,
        ?_, Option.some.inj found⟩
      -- markers that overlap have nothing between them
      have within : start + beginMarker.length ≤ stop := by
        refine Nat.le_of_not_lt fun beyond => nonempty ?_
        have short : (cs.take stop).length ≤ start + beginMarker.length :=
          Nat.le_trans (List.length_take_le ..) (Nat.le_of_lt beyond)
        rw [← Option.some.inj found, List.drop_eq_nil_of_le short]
        rfl
      have marker : (cs.drop start).take beginMarker.length = beginMarker :=
        (List.prefix_iff_eq_take.mp
          (List.isPrefixOf_iff_prefix.mp (isPrefixOf_drop_of_indexOf? foundBegin))).symm
      calc cs.take stop
          = (cs.take stop).take (start + beginMarker.length) ++
              (cs.take stop).drop (start + beginMarker.length) := by rw [List.take_append_drop]
        _ = cs.take start ++
              (beginMarker ++ (cs.take stop).drop (start + beginMarker.length)) := by
            rw [List.take_take, Nat.min_eq_left within, List.take_add, marker, List.append_assoc]
  · cases found

/-- A body is sealed when the closing marker behind it is the first one. -/
def IsSealed (body : List Char) : Prop :=
  indexOf? endMarker (beginMarker ++ body ++ endMarker) = some (beginMarker ++ body).length

/-- Between markers that close with the second stands the body. -/
theorem body?_of_isSealed (closed : IsSealed body) :
    body? (beginMarker ++ body ++ endMarker) = some (withoutBlanks body) := by
  have start : indexOf? beginMarker (beginMarker ++ body ++ endMarker) = some 0 := by
    rw [List.append_assoc]
    exact indexOf?_eq_zero (List.prefix_append ..)
  rw [body?, start, closed]
  simp only [Nat.not_lt_zero, if_false, Nat.zero_add, List.take_left, List.drop_left]

/-- A body is sealed when it holds no dash and does not go on like a closing marker. -/
theorem isSealed_of_not_mem (nonempty : body ≠ []) (noDash : '-' ∉ body)
    (noE : body.head? ≠ some 'E') : IsSealed body := by
  obtain ⟨tail, dash⟩ : ∃ tail, endMarker = '-' :: tail := ⟨_, rfl⟩
  obtain ⟨first, more, rfl⟩ := List.exists_cons_of_ne_nil nonempty
  have firstNoDash : first ≠ '-' := fun same => noDash (same ▸ List.mem_cons_self)
  have firstNoE : first ≠ 'E' := fun same => noE (by rw [same, List.head?_cons])
  have overBegin := not_endMarker_prefix_beginMarker firstNoDash firstNoE (more ++ endMarker)
  have overBody : ∀ back, back <:+ first :: more → back ≠ [] →
      ¬ endMarker <+: back ++ endMarker := by
    rw [dash]
    exact not_prefix_of_not_mem noDash
  rw [← List.cons_append] at overBegin
  rw [IsSealed, List.append_assoc, indexOf?_append overBegin, indexOf?_append overBody,
    indexOf?_eq_zero List.prefix_rfl]
  simp only [Option.map_some, List.length_append, Option.some.injEq]
  omega

end SignedLink.Key
