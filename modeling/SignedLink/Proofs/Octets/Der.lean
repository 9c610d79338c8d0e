import SignedLink.Octets.Der
import SignedLink.Proofs.Octets.Natural
/-!
# SignedLink — DER elements are read back

What is written as an element is read back in front of whatever follows, as
long as the length of its contents fits into the octets a length may take. An
element that is longer is refused: no length that is read reaches so far.

* `readLength_length`: a length is read back.
* `expect_element`, `expectOnly_element`: so are the contents of an element.
* `expectOnly_element_of_long`: contents that are too long are refused.
* `readNaturals_flatMap`: rows of natural numbers are read back.
-/

namespace SignedLink.Der

variable {contents rest : List UInt8} {tag : UInt8}

/-! ## Octets of numbers -/

/-- The first octet of a number is not zero, unless it is given more octets than it needs. -/
theorem head_ofNat_width_ne_zero {n : Nat} {octets : List UInt8} :
    Octets.ofNat (Octets.width n) n ≠ 0 :: octets := by
  intro shape
  have long : Octets.width n = octets.length + 1 := by
    rw [← Octets.length_ofNat (Octets.width n) n, shape, List.length_cons]
  have value := Octets.toNat_ofNat (Octets.lt_pow_width n)
  rw [shape, Octets.toNat_cons, UInt8.toNat_zero, Nat.zero_mul, Nat.zero_add] at value
  -- with a zero in front the octets behind it would already spell the number
  have small := Octets.toNat_lt_pow_length octets
  have positive : 0 < n := by
    rw [Nat.pos_iff_ne_zero]
    rintro rfl
    simp [Octets.width] at long
  have large := Octets.pow_width_le positive
  rw [long, Nat.add_sub_cancel] at large
  omega

/-! ## Lengths -/

theorem width_le_of_lt {n limit : Nat} (fits : n < 256 ^ limit) : Octets.width n ≤ limit := by
  by_cases zero : n = 0
  · simp [zero, Octets.width]
  · have large := Octets.pow_width_le (Nat.pos_of_ne_zero zero)
    have := (Nat.pow_lt_pow_iff_right (by decide)).mp (Nat.lt_of_le_of_lt large fits)
    omega

theorem readLength_length {n : Nat} (fits : n < 256 ^ lengthLimit) (rest : List UInt8) :
    readLength (length n ++ rest) = some (n, rest) := by
  unfold length
  split
  · next short =>
    have value : (UInt8.ofNat n).toNat = n := by simp; omega
    have below : UInt8.ofNat n < 128 := by rw [UInt8.lt_iff_toNat_lt, value]; exact short
    rw [List.singleton_append, readLength, if_pos below, value]
  · next long =>
    -- the first octet counts the others, of which there are few enough
    have most := width_le_of_lt fits
    have octets : Octets.ofNat (Octets.width n) n ≠ [] := by
      intro empty
      have zero := Octets.toNat_ofNat (Octets.lt_pow_width n)
      rw [empty] at zero
      simp [Octets.toNat] at zero
      omega
    have nonempty := List.length_pos_iff.mpr octets
    rw [Octets.length_ofNat] at nonempty
    have value : (UInt8.ofNat (128 + Octets.width n)).toNat = 128 + Octets.width n := by
      simp [lengthLimit] at most ⊢
      omega
    have above : ¬ UInt8.ofNat (128 + Octets.width n) < 128 := by
      rw [UInt8.lt_iff_toNat_lt, value, show (128 : UInt8).toNat = 128 from rfl]
      omega
    have size : 128 + Octets.width n - 128 = Octets.width n := by omega
    have taken : (Octets.ofNat (Octets.width n) n ++ rest).take (Octets.width n) =
        Octets.ofNat (Octets.width n) n := List.take_left' (Octets.length_ofNat _ _)
    have dropped : (Octets.ofNat (Octets.width n) n ++ rest).drop (Octets.width n) = rest :=
      List.drop_left' (Octets.length_ofNat _ _)
    -- the form is minimal, so the reader has nothing against it
    have first : ¬ (Octets.ofNat (Octets.width n) n).head? = some 0 := by
      intro zero
      obtain ⟨more, shape⟩ := List.head?_eq_some_iff.mp zero
      exact head_ofNat_width_ne_zero shape
    rw [List.cons_append, readLength, if_neg above]
    simp only [value, size, taken, dropped, Octets.length_ofNat,
      Octets.toNat_ofNat (Octets.lt_pow_width n)]
    rw [if_neg (by omega), if_neg (by rintro (short | zero); exacts [long short, first zero])]

/-- A length that is read takes few octets and is bounded. -/
theorem readLength_bounds {octets : List UInt8} {n : Nat}
    (read : readLength octets = some (n, rest)) :
    n < 256 ^ lengthLimit ∧ octets.length ≤ rest.length + 1 + lengthLimit := by
  cases octets with
  | nil => simp [readLength] at read
  | cons b octets =>
    rw [readLength] at read
    split at read
    · next short =>
      obtain ⟨rfl, rfl⟩ := Prod.mk.inj (Option.some.inj read)
      have := UInt8.lt_iff_toNat_lt.mp short
      simp [lengthLimit] at this ⊢
      omega
    · simp only at read
      split at read
      · simp at read
      · next bounded =>
        split at read
        · simp at read
        · obtain ⟨rfl, rfl⟩ := Prod.mk.inj (Option.some.inj read)
          have size : b.toNat - 128 ≤ lengthLimit := by omega
          have few : (octets.take (b.toNat - 128)).length ≤ lengthLimit := by
            rw [List.length_take]
            omega
          refine ⟨?_, ?_⟩
          · exact Nat.lt_of_lt_of_le (Octets.toNat_lt_pow_length _)
              (Nat.pow_le_pow_right (by decide) few)
          · rw [List.length_drop, List.length_cons]
            omega

/-! ## Elements -/

theorem readElement_element (tag : UInt8) (fits : contents.length < 256 ^ lengthLimit)
    (rest : List UInt8) :
    readElement (element tag contents ++ rest) = some (tag, contents, rest) := by
  have enough : ¬ (contents ++ rest).length < contents.length := by simp
  rw [element, List.cons_append, List.append_assoc, readElement, readLength_length fits]
  simp only [enough, if_false, List.take_left, List.drop_left]

theorem expect_element (tag : UInt8) (fits : contents.length < 256 ^ lengthLimit)
    (rest : List UInt8) : expect tag (element tag contents ++ rest) = some (contents, rest) := by
  simp [expect, readElement_element tag fits]

theorem expect_cons_of_ne {found : UInt8} (other : found ≠ tag) (octets : List UInt8) :
    expect tag (found :: octets) = none := by
  unfold expect
  split
  · next tag' contents rest read =>
    have same : tag' = found := by
      rw [readElement] at read
      split at read
      · simp at read
      · split at read
        · simp at read
        · exact (Prod.mk.inj (Option.some.inj read)).1.symm
    rw [if_neg (same ▸ other)]
  · rfl

theorem expectOnly_element (tag : UInt8) (fits : contents.length < 256 ^ lengthLimit) :
    expectOnly tag (element tag contents) = some contents := by
  have read := expect_element tag fits []
  rw [List.append_nil] at read
  rw [expectOnly, read]

/-- What is read as the only element is nearly as long as the octets, and bounded. -/
theorem expectOnly_bounds {octets : List UInt8} (read : expectOnly tag octets = some contents) :
    octets.length < 256 ^ lengthLimit + 2 + lengthLimit := by
  unfold expectOnly expect readElement at read
  cases octets with
  | nil => simp at read
  | cons found octets =>
    cases begun : readLength octets with
    | none => simp [begun] at read
    | some pair =>
      obtain ⟨n, rest⟩ := pair
      obtain ⟨small, few⟩ := readLength_bounds begun
      simp only [begun] at read
      split at read
      · next whole =>
        split at whole
        · next element =>
          split at element
          · simp at element
          · split at whole
            · obtain ⟨-, after⟩ := Prod.mk.inj (Option.some.inj whole)
              obtain ⟨-, -, dropped⟩ : _ ∧ _ ∧ _ := by simpa using element
              have ended : rest.length ≤ n := List.drop_eq_nil_iff.mp (dropped.trans after)
              rw [List.length_cons]
              omega
            · simp at whole
        · simp at whole
      · simp at read

/-- Contents whose length does not fit are refused. -/
theorem expectOnly_element_of_long (long : ¬ contents.length < 256 ^ lengthLimit) :
    expectOnly tag (element tag contents) = none := by
  cases read : expectOnly tag (element tag contents) with
  | none => rfl
  | some found =>
    -- together with its header the element is longer than anything that is read
    have bounded := expectOnly_bounds read
    have octets : lengthLimit < Octets.width contents.length := by
      by_contra few
      exact long ((Octets.lt_pow_width _).trans_le
        (Nat.pow_le_pow_right (by decide) (Nat.le_of_not_lt few)))
    have header : 1 + Octets.width contents.length ≤ (length contents.length).length := by
      unfold length
      split
      · next short => exact absurd (Nat.lt_trans short (by decide)) long
      · simp
        omega
    rw [element, List.length_cons, List.length_append] at bounded
    omega

/-! ## Natural numbers -/

theorem naturalOf?_naturalContents (n : Nat) : naturalOf? (naturalContents n) = some n := by
  have value := Octets.toNat_ofNat (Octets.lt_pow_width n)
  unfold naturalContents
  dsimp only
  split
  · next unread =>
    rw [unread] at value
    rw [← value]
    rfl
  · next b octets shape =>
    rw [shape] at value
    split
    · next positive =>
      rw [shape]
      -- only the first of several octets must not be zero
      cases octets with
      | nil =>
        rw [naturalOf?, if_pos positive, ← value]
        simp [Octets.toNat]
      | cons c octets =>
        have nonzero : b ≠ 0 := by
          rintro rfl
          exact head_ofNat_width_ne_zero shape
        rw [naturalOf?, if_neg (by simpa using positive), if_neg (by simp [nonzero]), value]
    · next negative =>
      -- the zero octet in front was put there against a sign
      have zero : Octets.toNat (0 :: b :: octets) = n := by
        rw [Octets.toNat_cons, value]
        simp
      rw [shape, naturalOf?, if_neg (by decide), if_neg (by simp [negative]), zero]

theorem readNatural_natural {n : Nat} (fits : (naturalContents n).length < 256 ^ lengthLimit)
    (rest : List UInt8) : readNatural (natural n ++ rest) = some (n, rest) := by
  rw [readNatural, natural, expect_element integerTag fits]
  simp [naturalOf?_naturalContents]

/-- What does not begin with an integer is no natural number. -/
theorem readNatural_cons_of_ne {found : UInt8} (other : found ≠ integerTag) (octets : List UInt8) :
    readNatural (found :: octets) = none := by
  rw [readNatural, expect_cons_of_ne other]

theorem readNaturals_flatMap {ns : List Nat}
    (fits : ∀ n ∈ ns, (naturalContents n).length < 256 ^ lengthLimit) (rest : List UInt8) :
    readNaturals ns.length (ns.flatMap natural ++ rest) = some (ns, rest) := by
  induction ns with
  | nil => rfl
  | cons n ns ih =>
    have later := ih fun m mem => fits m (List.mem_cons_of_mem n mem)
    rw [List.length_cons, readNaturals, List.flatMap_cons, List.append_assoc,
      readNatural_natural (fits n List.mem_cons_self)]
    simp only [later, Option.map_some]

end SignedLink.Der
