import SignedLink.Proofs.Key.Load
/-!
# SignedLink — what is around the body of a key

What is loaded from a text depends on its body alone. So it does not depend on
what stands in front of the markers and behind them, whether it can be loaded or
not, and neither on the blanks between them.

* `load_surrounded`: the outcome with other text around and with other blanks between the markers.
-/

namespace SignedLink.Key

open Text

/-- Two texts with one body have one outcome. -/
theorem load_of_body? {first second : String} (same : body? first.toList = body? second.toList) :
    load first = load second := by
  rw [load, load, loadChars, loadChars, same]

/-- Only what stands between the markers counts, and there the blanks do not. A text with a closing
marker keeps its body and its outcome behind a preamble and in front of whatever text; and two
sealed bodies that differ in their blanks have one outcome. -/
theorem load_surrounded :
    (∀ before text after : String, Preamble before.toList → endMarker <:+: text.toList →
      body? (before ++ text ++ after).toList = body? text.toList ∧
        load (before ++ text ++ after) = load text) ∧
    ∀ first second : List Char, withoutBlanks first = withoutBlanks second →
      IsSealed first → IsSealed second →
      body? (beginMarker ++ first ++ endMarker) = body? (beginMarker ++ second ++ endMarker) ∧
        load (.ofList (beginMarker ++ first ++ endMarker)) =
          load (.ofList (beginMarker ++ second ++ endMarker)) := by
  constructor
  · intro before text after preamble ended
    have same : body? (before ++ text ++ after).toList = body? text.toList := by
      rw [String.toList_append, String.toList_append]
      exact body?_surrounded preamble ended after.toList
    exact ⟨same, load_of_body? same⟩
  · intro first second blanks closed alsoClosed
    have same : body? (beginMarker ++ first ++ endMarker) =
        body? (beginMarker ++ second ++ endMarker) := by
      rw [body?_of_isSealed closed, body?_of_isSealed alsoClosed, blanks]
    refine ⟨same, load_of_body? ?_⟩
    rwa [String.toList_ofList, String.toList_ofList]

/-- The key of two Mersenne primes with a line in front and a second opening marker behind, and with
blanks between its own markers. -/
theorem load_surrounded_mersenneKey :
    load ("notes\n" ++ .ofList (beginMarker ++ Base64.encode (encode .mersenneKey) ++ endMarker) ++
        .ofList beginMarker) = .ok .mersenneKey ∧
      load (.ofList (beginMarker ++ (['\r', '\t'] ++ Base64.encode (encode .mersenneKey)) ++
        endMarker)) = .ok .mersenneKey := by
  have noBreaks : ∀ c ∈ [], isBlank c = true := List.forall_mem_nil _
  have loaded := load_sealed_encode .mersenneKey noBreaks
  rw [if_pos mersenneKey_fits, List.nil_append] at loaded
  obtain ⟨around, between⟩ := load_surrounded
  constructor
  · have preamble : Preamble "notes\n".toList :=
      ⟨by decide, by decide, .inr ⟨"notes".toList, rfl⟩⟩
    have ended : endMarker <:+: (String.ofList (beginMarker ++
        Base64.encode (encode .mersenneKey) ++ endMarker)).toList := by
      rw [String.toList_ofList]
      exact (List.suffix_append ..).isInfix
    rw [(around _ _ _ preamble ended).2, loaded]
  · have breaks : ∀ c ∈ ['\r', '\t'], isBlank c = true := List.all_eq_true.mp (by decide)
    have blanks : withoutBlanks (['\r', '\t'] ++ Base64.encode (encode .mersenneKey)) =
        withoutBlanks (Base64.encode (encode .mersenneKey)) := by
      have plain := withoutBlanks_encode (encode .mersenneKey) noBreaks
      rw [List.nil_append] at plain
      rw [withoutBlanks_encode _ breaks, plain]
    have closed := isSealed_encode .mersenneKey noBreaks
    rw [List.nil_append] at closed
    rw [(between _ _ blanks (isSealed_encode _ breaks) closed).2, loaded]

end SignedLink.Key
