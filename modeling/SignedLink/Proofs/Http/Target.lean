import SignedLink.Http.Target
import SignedLink.Proofs.Text.Decimal
import SignedLink.Proofs.Text.Search
import SignedLink.Proofs.Text.Utf8
/-!
# SignedLink — what targets name

A target without a `?` is a path, and one with a single parameter names its
value. Numbers stand for themselves in a query, and so does everything in ASCII
but the characters that separate or encode.

* `ofString_path`, `ofString_query`: the path and the query of a target.
* `parameter?_single`: the value of a single parameter.
-/

namespace SignedLink.Http.Target

variable {cs name value : List Char}

/-! ## Path and query -/

theorem ofString_path {path : String} (noQuery : '?' ∉ path.toList) :
    ofString path = ⟨Text.Percent.decode path.toList, []⟩ := by
  rw [ofString, split, Text.takeWhile_of_not_mem noQuery, Text.dropWhile_of_not_mem noQuery]
  rfl

theorem ofString_query {path query : List Char} (noQuery : '?' ∉ path) :
    ofString (.ofList (path ++ '?' :: query)) = ⟨Text.Percent.decode path, query⟩ := by
  rw [ofString, String.toList_ofList, split, Text.takeWhile_append_mark noQuery,
    Text.dropWhile_append_mark noQuery]
  rfl

/-! ## Parameters -/

/-- Characters that stand for themselves in a name or a value. -/
def IsPlain (c : Char) : Prop :=
  c.toNat < 128 ∧ c ≠ '&' ∧ c ≠ '+' ∧ c ≠ '%'

instance : DecidablePred IsPlain := fun c =>
  inferInstanceAs (Decidable (c.toNat < 128 ∧ c ≠ '&' ∧ c ≠ '+' ∧ c ≠ '%'))

theorem octetChars_plain (plain : ∀ c ∈ cs, IsPlain c) : octetChars cs = cs :=
  Text.Utf8.map_encode_ascii fun c mem => (plain c mem).1

theorem decodeComponent_plain (plain : ∀ c ∈ cs, IsPlain c) : decodeComponent cs = .ofList cs := by
  have kept : (cs.map fun c => if c == '+' then ' ' else c) = cs := by
    refine (List.map_congr_left fun c mem => ?_).trans (List.map_id cs)
    rw [beq_eq_false_iff_ne.mpr (plain c mem).2.2.1]
    rfl
  have noPercent : '%' ∉ cs := fun mem => (plain _ mem).2.2.2 rfl
  rw [decodeComponent, kept, Text.Percent.decode, Text.Percent.decodeOctets_of_no_percent noPercent,
    Text.Utf8.decodeLossy_encode]

/-- A single parameter has the value behind its first `=`. -/
theorem parameter?_single (path : List Char) (namePlain : ∀ c ∈ name, IsPlain c ∧ c ≠ '=')
    (valuePlain : ∀ c ∈ value, IsPlain c) :
    parameter? ⟨path, name ++ '=' :: value⟩ (.ofList name) = some (.ofList value) := by
  have plain : ∀ c ∈ name ++ '=' :: value, IsPlain c := by
    intro c mem
    rcases List.mem_append.mp mem with mem | mem
    · exact (namePlain c mem).1
    · rcases List.mem_cons.mp mem with rfl | mem
      · exact ⟨by decide, by decide, by decide, by decide⟩
      · exact valuePlain c mem
  have whole : (octetChars (name ++ '=' :: value)).splitOn '&' = [name ++ '=' :: value] := by
    rw [octetChars_plain plain]
    exact List.splitOn_eq_singleton fun mem => (plain _ mem).2.1 rfl
  have pair : Target.pair (name ++ '=' :: value) = (.ofList name, .ofList value) := by
    have noEquals : '=' ∉ name := fun mem => (namePlain _ mem).2 rfl
    rw [Target.pair, Text.takeWhile_append_mark noEquals, Text.dropWhile_append_mark noEquals,
      List.drop_succ_cons, List.drop_zero,
      decodeComponent_plain fun c mem => (namePlain c mem).1, decodeComponent_plain valuePlain]
  rw [parameter?, parameters, whole]
  simp [pair]

theorem isPlain_decimal {n : Int} : ∀ c ∈ Text.decimal n, IsPlain c := by
  intro c mem
  rcases Text.mem_decimal mem with rfl | digit
  · exact ⟨by decide, by decide, by decide, by decide⟩
  · refine ⟨?_, ?_, ?_, ?_⟩
    · simp only [Text.isAsciiDigit, Bool.and_eq_true, decide_eq_true_eq] at digit
      omega
    · exact Text.ne_of_isAsciiDigit digit (by decide)
    · exact Text.ne_of_isAsciiDigit digit (by decide)
    · exact Text.ne_of_isAsciiDigit digit (by decide)

end SignedLink.Http.Target
