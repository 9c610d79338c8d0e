import SignedLink.Proofs.Text.Utf8
import SignedLink.Text.Percent
/-!
# SignedLink — percent encoding is undone

What was encoded is decoded to itself, and a slash separates in both forms:
it is never a digit behind a `%`, so a path is decoded piece by piece around
it. Encoding writes nothing but safe characters and `%`, and it leaves a text
alone only when there is nothing to do.

* `decode_encode`: what was encoded is decoded to itself.
* `decode_append_slash`: a path is decoded piece by piece around a slash.
* `encode_eq_self_iff`: the texts that encoding leaves alone.
-/

namespace SignedLink.Text.Percent

variable {safe cs rest : List Char} {c : Char}

/-! ## Decoding -/

theorem hexValue?_upperHexDigit {n : Nat} (small : n < 16) :
    hexValue? (upperHexDigit n) = some n := by
  have all : ∀ m : Fin 16, hexValue? (upperHexDigit m) = some m.val := by decide
  exact all ⟨n, small⟩

theorem decodeOctets_encodeOctet (b : UInt8) (rest : List Char) :
    decodeOctets (encodeOctet b ++ rest) = b :: decodeOctets rest := by
  have bound := b.toNat_lt
  have high := hexValue?_upperHexDigit (n := b.toNat / 16) (by omega)
  have low := hexValue?_upperHexDigit (n := b.toNat % 16) (by omega)
  have whole : 16 * (b.toNat / 16) + b.toNat % 16 = b.toNat := by omega
  show decodeOctets
    ('%' :: upperHexDigit (b.toNat / 16) :: upperHexDigit (b.toNat % 16) :: rest) = _
  rw [decodeOctets, high, low]
  simp only [whole, UInt8.ofNat_toNat]

theorem decodeOctets_flatMap_encodeOctet (octets : List UInt8) (rest : List Char) :
    decodeOctets (octets.flatMap encodeOctet ++ rest) = octets ++ decodeOctets rest := by
  induction octets with
  | nil => rfl
  | cons b octets ih =>
    rw [List.flatMap_cons, List.append_assoc, decodeOctets_encodeOctet, ih, List.cons_append]

theorem decodeOctets_cons (plain : c ≠ '%') (rest : List Char) :
    decodeOctets (c :: rest) = String.utf8EncodeChar c ++ decodeOctets rest := by
  rw [decodeOctets]
  rintro h l more same -
  exact plain same

/-- A `%` that no two digits follow stands for itself. -/
theorem decodeOctets_percent (loose : ∀ h l more, rest = h :: l :: more →
    hexValue? h = none ∨ hexValue? l = none) :
    decodeOctets ('%' :: rest) = Utf8.encode ['%'] ++ decodeOctets rest := by
  match rest, loose with
  | [], _ => rfl
  | [h], _ => rfl
  | h :: l :: more, loose =>
    rw [decodeOctets]
    split
    · next high low =>
      rcases loose h l more rfl with noDigit | noDigit
      · rw [noDigit] at high
        cases high
      · rw [noDigit] at low
        cases low
    · rfl

theorem ne_percent_of_isUnreserved (unreserved : isUnreserved c = true) : c ≠ '%' := by
  rintro rfl
  exact absurd unreserved (by decide)

theorem decodeOctets_encode (noPercent : '%' ∉ safe) (cs rest : List Char) :
    decodeOctets (encode safe cs ++ rest) = Utf8.encode cs ++ decodeOctets rest := by
  induction cs with
  | nil => rfl
  | cons c cs ih =>
    rw [encode, List.flatMap_cons, List.append_assoc, ← encode, encodeChar]
    split
    · next plain =>
      have other : c ≠ '%' := by
        rw [Bool.or_eq_true, List.contains_iff_mem] at plain
        rcases plain with unreserved | mem
        · exact ne_percent_of_isUnreserved unreserved
        · rintro rfl
          exact noPercent mem
      rw [List.singleton_append, decodeOctets_cons other, ih, ← List.append_assoc]
      rfl
    · rw [decodeOctets_flatMap_encodeOctet, ih, ← List.append_assoc]
      rfl

/-- What was encoded is decoded to itself. -/
theorem decode_encode (noPercent : '%' ∉ safe) (cs : List Char) : decode (encode safe cs) = cs := by
  have octets := decodeOctets_encode noPercent cs []
  rw [List.append_nil, decodeOctets, List.append_nil] at octets
  rw [decode, octets, Utf8.decodeLossy_encode]

/-- A slash is no digit, so it ends what a `%` in front of it may begin. -/
theorem decodeOctets_append_slash (cs rest : List Char) :
    decodeOctets (cs ++ '/' :: rest) = decodeOctets cs ++ 0x2F :: decodeOctets rest := by
  have slash : decodeOctets ('/' :: rest) = 0x2F :: decodeOctets rest :=
    decodeOctets_cons (by decide) rest
  fun_induction decodeOctets cs with
  | case1 h l more a b high low ih =>
    rw [List.cons_append, List.cons_append, List.cons_append, decodeOctets, high, low]
    simp only [ih, List.cons_append]
  | case2 h l more loose ih =>
    rw [List.cons_append, decodeOctets_percent, ih, List.append_assoc]
    rintro _ _ _ ⟨⟩
    by_cases high : hexValue? h = none
    · exact .inl high
    · by_cases low : hexValue? l = none
      · exact .inr low
      · obtain ⟨a, high⟩ := Option.ne_none_iff_exists'.mp high
        obtain ⟨b, low⟩ := Option.ne_none_iff_exists'.mp low
        exact (loose a b high low).elim
  | case3 c more short ih =>
    by_cases percent : c = '%'
    · subst percent
      rw [List.cons_append, decodeOctets_percent, ih]
      · rfl
      · -- fewer than two characters stand between the `%` and the slash
        match more, short with
        | [], _ =>
          rintro _ _ _ ⟨⟩
          exact .inl (by decide)
        | [_], _ =>
          rintro _ _ _ ⟨⟩
          exact .inr (by decide)
        | h :: l :: more, short => exact (short h l more rfl rfl).elim
    · rw [List.cons_append, decodeOctets_cons percent, ih, List.append_assoc]
  | case4 => exact slash

/-- A path is decoded piece by piece around a slash. -/
theorem decode_append_slash (cs rest : List Char) :
    decode (cs ++ '/' :: rest) = decode cs ++ '/' :: decode rest := by
  rw [decode, decodeOctets_append_slash, Utf8.decodeLossy_append_cons (by decide)]
  rfl

/-! ## What is written -/

theorem isUnreserved_upperHexDigit {n : Nat} (small : n < 16) :
    isUnreserved (upperHexDigit n) = true := by
  have all : ∀ m : Fin 16, isUnreserved (upperHexDigit m) = true := by decide
  exact all ⟨n, small⟩

/-- Nothing is written but safe characters and `%`. -/
theorem mem_encode (mem : c ∈ encode safe cs) : isUnreserved c = true ∨ c ∈ safe ∨ c = '%' := by
  obtain ⟨d, -, mem⟩ := List.mem_flatMap.mp mem
  unfold encodeChar at mem
  split at mem
  · next plain =>
    rw [List.mem_singleton] at mem
    subst mem
    rw [Bool.or_eq_true, List.contains_iff_mem] at plain
    rcases plain with unreserved | mem
    · exact .inl unreserved
    · exact .inr (.inl mem)
  · obtain ⟨b, -, mem⟩ := List.mem_flatMap.mp mem
    have bound := b.toNat_lt
    simp only [encodeOctet, List.mem_cons, List.not_mem_nil, or_false] at mem
    rcases mem with rfl | rfl | rfl
    · exact .inr (.inr rfl)
    · exact .inl (isUnreserved_upperHexDigit (by omega))
    · exact .inl (isUnreserved_upperHexDigit (by omega))

theorem length_encodeChar (safe : List Char) (c : Char) :
    1 ≤ (encodeChar safe c).length ∧
      ((encodeChar safe c).length = 1 → isUnreserved c = true ∨ c ∈ safe) := by
  unfold encodeChar
  split
  · next plain =>
    rw [Bool.or_eq_true, List.contains_iff_mem] at plain
    exact ⟨Nat.le_refl 1, fun _ => plain⟩
  · -- there is at least one octet, which takes three characters
    have nonempty : String.utf8EncodeChar c ≠ [] := by
      intro empty
      have := String.length_utf8EncodeChar c
      rw [empty] at this
      have := c.utf8Size_pos
      simp_all
    obtain ⟨b, octets, split⟩ := List.exists_cons_of_ne_nil nonempty
    rw [split, List.flatMap_cons, List.length_append]
    have three : (encodeOctet b).length = 3 := rfl
    constructor
    · omega
    · intro one
      omega

/-- Encoding leaves exactly the texts alone that have safe characters only. -/
theorem encode_eq_self_iff :
    encode safe cs = cs ↔ ∀ c ∈ cs, isUnreserved c = true ∨ c ∈ safe := by
  constructor
  · intro same
    have grows (ds : List Char) : ds.length ≤ (encode safe ds).length := by
      induction ds with
      | nil => exact Nat.le_refl 0
      | cons d ds ih =>
        have := (length_encodeChar safe d).1
        rw [encode, List.flatMap_cons, List.length_append, ← encode, List.length_cons]
        omega
    -- no character can take more than its own place
    have length := congrArg List.length same
    clear same
    induction cs with
    | nil => nofun
    | cons c cs ih =>
      have own := length_encodeChar safe c
      have others := grows cs
      rw [encode, List.flatMap_cons, List.length_append, ← encode, List.length_cons] at length
      rw [List.forall_mem_cons]
      exact ⟨own.2 (by omega), ih (by omega)⟩
  · intro plain
    induction cs with
    | nil => rfl
    | cons c cs ih =>
      obtain ⟨first, others⟩ := List.forall_mem_cons.mp plain
      have kept : encodeChar safe c = [c] := by
        rw [encodeChar, if_pos]
        rwa [Bool.or_eq_true, List.contains_iff_mem]
      rw [encode, List.flatMap_cons, ← encode, kept, ih others]
      rfl

end SignedLink.Text.Percent
