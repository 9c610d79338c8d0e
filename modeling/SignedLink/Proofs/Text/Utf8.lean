import SignedLink.Text.Utf8
/-!
# SignedLink — UTF-8 is read back

The octets of a character make the machine read this character, so the strict
decoder refuses no text and the lossy one loses nothing of it. An octet of ASCII
stands for its own character whatever comes before it: a sequence that has begun
ends there, finished or not. So octets may be cut at it and decoded piece by
piece.

* `Reads`: the octets that make the machine read one character.
* `decode_encode`, `decodeLossy_encode`: the octets of a text are read back as the text.
* `decodeLossy_append_cons`: decoding goes piece by piece around an octet of ASCII.
* `map_encode_ascii`: a text in ASCII is its own octets.
-/

namespace SignedLink.Text.Utf8

variable {n : Nat} {b : UInt8} {rest : List UInt8} {p : Pending}

/-! ## Single octets -/

theorem toNat_ofNat_of_lt (small : n < 256) : (UInt8.ofNat n).toNat = n := by
  rw [UInt8.toNat_ofNat']
  omega

theorem leadOf_ofNat (small : n < 256) :
    Lead.of (UInt8.ofNat n) =
      if n < 0x80 then .single (Char.ofNat n)
      else if n < 0xC2 then .invalid
      else if n < 0xE0 then .opens (n - 0xC0) 0 0x80 0xBF
      else if n < 0xF0 then
        .opens (n - 0xE0) 1 (if n = 0xE0 then 0xA0 else 0x80) (if n = 0xED then 0x9F else 0xBF)
      else if n < 0xF5 then
        .opens (n - 0xF0) 2 (if n = 0xF0 then 0x90 else 0x80) (if n = 0xF4 then 0x8F else 0xBF)
      else .invalid := by
  have number := toNat_ofNat_of_lt small
  simp only [Lead.of, UInt8.lt_iff_toNat_lt, beq_iff_eq, ← UInt8.toNat_inj, number]
  rfl

theorem accepts_ofNat (small : n < 256) (low : p.low.toNat ≤ n) (high : n ≤ p.high.toNat) :
    p.accepts (UInt8.ofNat n) = true := by
  have number := toNat_ofNat_of_lt small
  simp only [Pending.accepts, UInt8.le_iff_toNat_le, number, low, high, decide_true, Bool.and_self]

/-- What follows a lead is never in ASCII. -/
theorem low_of_opens {value more : Nat} {low high : UInt8}
    (opens : Lead.of b = .opens value more low high) : 0x80 ≤ low := by
  have least : ∀ low ∈ [0x80, 0xA0, (0x90 : UInt8)], 0x80 ≤ low := by decide +kernel
  refine least low ?_
  unfold Lead.of at opens
  split at opens
  · injection opens
  · split at opens
    · injection opens
    · split at opens
      · injection opens with _ _ same
        simp [← same]
      · split at opens
        · injection opens with _ _ same
          rw [← same]
          split <;> simp
        · split at opens
          · injection opens with _ _ same
            rw [← same]
            split <;> simp
          · injection opens

/-! ## Steps of the machine -/

/-- The octets that make the machine read one character, from a state to that between characters.
Where a sequence began is of no account. -/
inductive Reads : Option Pending → List UInt8 → Char → Prop
  | single {a : UInt8} {c : Char} (single : Lead.of a = .single c) : Reads none [a] c
  | opens {a : UInt8} {octets : List UInt8} {value more : Nat} {low high : UInt8} {c : Char}
      (opens : Lead.of a = .opens value more low high)
      (next : ∀ start, Reads (some ⟨start, a, value, more, low, high⟩) octets c) :
    Reads none (a :: octets) c
  | more {a : UInt8} {octets : List UInt8} {start value more : Nat} {lead low high : UInt8}
      {c : Char} (accepts : Pending.accepts ⟨start, lead, value, more + 1, low, high⟩ a = true)
      (next : Reads (some ⟨start, lead, value * 64 + a.toNat % 64, more, 0x80, 0xBF⟩) octets c) :
    Reads (some ⟨start, lead, value, more + 1, low, high⟩) (a :: octets) c
  | last {a : UInt8} {start value : Nat} {lead low high : UInt8}
      (accepts : Pending.accepts ⟨start, lead, value, 0, low, high⟩ a = true) :
    Reads (some ⟨start, lead, value, 0, low, high⟩) [a] (Char.ofNat (value * 64 + a.toNat % 64))

/-- The lossy decoder writes the character that the machine reads. -/
theorem Reads.lossyFrom {state : Option Pending} {octets : List UInt8} {c : Char}
    (reads : Reads state octets c) (rest : List UInt8) :
    lossyFrom state (octets ++ rest) = c :: Utf8.lossyFrom none rest := by
  induction reads with
  | single single => simp only [List.singleton_append, Utf8.lossyFrom, lossyIdle, single]
  | opens opens next ih =>
    simp only [List.cons_append, Utf8.lossyFrom, lossyIdle, opens, List.nil_append, ih 0]
  | more accepts next ih =>
    rw [List.cons_append, Utf8.lossyFrom, if_pos accepts]
    exact ih
  | last accepts =>
    rw [List.singleton_append, Utf8.lossyFrom, if_pos accepts]
    rfl

/-- The strict decoder reads it too, wherever it is. -/
theorem Reads.decodeFrom {state : Option Pending} {octets : List UInt8} {c : Char}
    (reads : Reads state octets c) (pos : Nat) (rest : List UInt8) :
    decodeFrom pos state (octets ++ rest) =
      (c :: ·) <$> Utf8.decodeFrom (pos + octets.length) none rest := by
  induction reads generalizing pos with
  | single single =>
    simp only [List.singleton_append, Utf8.decodeFrom, single, List.length_singleton]
  | opens opens next ih =>
    rw [List.cons_append, Utf8.decodeFrom, opens]
    simp only [ih pos (pos + 1), List.length_cons]
    rw [Nat.add_right_comm, Nat.add_assoc]
  | more accepts next ih =>
    rw [List.cons_append, Utf8.decodeFrom, if_pos accepts]
    show Utf8.decodeFrom (pos + 1) _ _ = _
    rw [Pending.extend, ih (pos + 1), List.length_cons, Nat.add_right_comm, Nat.add_assoc]
  | last accepts =>
    rw [List.singleton_append, Utf8.decodeFrom, if_pos accepts]
    rfl

theorem reads_more {start value more : Nat} {lead low high : UInt8} {c : Char} (small : n < 256)
    (least : low.toNat ≤ n) (most : n ≤ high.toNat)
    (next : Reads (some ⟨start, lead, value * 64 + n % 64, more, 0x80, 0xBF⟩) rest c) :
    Reads (some ⟨start, lead, value, more + 1, low, high⟩) (UInt8.ofNat n :: rest) c := by
  refine .more (accepts_ofNat small least most) ?_
  rwa [toNat_ofNat_of_lt small]

theorem reads_last {start value v : Nat} {lead low high : UInt8} (small : n < 256)
    (least : low.toNat ≤ n) (most : n ≤ high.toNat) (whole : value * 64 + n % 64 = v) :
    Reads (some ⟨start, lead, value, 0, low, high⟩) [UInt8.ofNat n] (Char.ofNat v) := by
  have last : Reads (some ⟨start, lead, value, 0, low, high⟩) [UInt8.ofNat n] _ :=
    .last (accepts_ofNat small least most)
  rwa [toNat_ofNat_of_lt small, whole] at last

/-! ## Texts are read back -/

/-- The range of an octet that goes on, where it is not narrower. -/
theorem tail_range (v : Nat) :
    v % 64 + 128 < 256 ∧ (0x80 : UInt8).toNat ≤ v % 64 + 128 ∧
      v % 64 + 128 ≤ (0xBF : UInt8).toNat := by
  refine ⟨by omega, ?_, ?_⟩
  · show 128 ≤ _
    omega
  · show _ ≤ 191
    omega

theorem reads_two {v : Nat} (least : 0x80 ≤ v) (most : v < 0x800) :
    Reads none [UInt8.ofNat (v / 64 % 32 + 192), UInt8.ofNat (v % 64 + 128)] (Char.ofNat v) := by
  have lead := leadOf_ofNat (n := v / 64 % 32 + 192) (by omega)
  rw [if_neg (by omega), if_neg (by omega), if_pos (by omega)] at lead
  obtain ⟨small, low, high⟩ := tail_range v
  have value : (v / 64 % 32 + 192 - 0xC0) * 64 + (v % 64 + 128) % 64 = v := by omega
  exact .opens lead fun start => reads_last small low high value

theorem reads_three {v : Nat} (least : 0x800 ≤ v) (most : v < 0x10000)
    (noSurrogate : v < 0xD800 ∨ 0xDFFF < v) :
    Reads none [UInt8.ofNat (v / 4096 % 16 + 224), UInt8.ofNat (v / 64 % 64 + 128),
      UInt8.ofNat (v % 64 + 128)] (Char.ofNat v) := by
  have lead := leadOf_ofNat (n := v / 4096 % 16 + 224) (by omega)
  rw [if_neg (by omega), if_neg (by omega), if_neg (by omega), if_pos (by omega)] at lead
  -- the narrower ranges leave out what is shorter, and surrogates
  have low : UInt8.toNat (if v / 4096 % 16 + 224 = 0xE0 then 0xA0 else 0x80) ≤
      v / 64 % 64 + 128 := by
    split
    · show 160 ≤ _
      omega
    · show 128 ≤ _
      omega
  have high : v / 64 % 64 + 128 ≤
      UInt8.toNat (if v / 4096 % 16 + 224 = 0xED then 0x9F else 0xBF) := by
    split
    · show _ ≤ 159
      omega
    · show _ ≤ 191
      omega
  obtain ⟨small, lastLow, lastHigh⟩ := tail_range v
  have value : ((v / 4096 % 16 + 224 - 0xE0) * 64 + (v / 64 % 64 + 128) % 64) * 64 +
      (v % 64 + 128) % 64 = v := by omega
  exact .opens lead fun start => reads_more (tail_range (v / 64)).1 low high
    (reads_last small lastLow lastHigh value)

theorem reads_four {v : Nat} (least : 0x10000 ≤ v) (most : v < 0x110000) :
    Reads none [UInt8.ofNat (v / 262144 % 8 + 240), UInt8.ofNat (v / 4096 % 64 + 128),
      UInt8.ofNat (v / 64 % 64 + 128), UInt8.ofNat (v % 64 + 128)] (Char.ofNat v) := by
  have lead := leadOf_ofNat (n := v / 262144 % 8 + 240) (by omega)
  rw [if_neg (by omega), if_neg (by omega), if_neg (by omega), if_neg (by omega),
    if_pos (by omega)] at lead
  -- the narrower ranges leave out what is shorter, and what is no character any more
  have low : UInt8.toNat (if v / 262144 % 8 + 240 = 0xF0 then 0x90 else 0x80) ≤
      v / 4096 % 64 + 128 := by
    split
    · show 144 ≤ _
      omega
    · show 128 ≤ _
      omega
  have high : v / 4096 % 64 + 128 ≤
      UInt8.toNat (if v / 262144 % 8 + 240 = 0xF4 then 0x8F else 0xBF) := by
    split
    · show _ ≤ 143
      omega
    · show _ ≤ 191
      omega
  obtain ⟨nextSmall, nextLow, nextHigh⟩ := tail_range (v / 64)
  obtain ⟨small, lastLow, lastHigh⟩ := tail_range v
  have value : (((v / 262144 % 8 + 240 - 0xF0) * 64 + (v / 4096 % 64 + 128) % 64) * 64 +
      (v / 64 % 64 + 128) % 64) * 64 + (v % 64 + 128) % 64 = v := by omega
  exact .opens lead fun start => reads_more (tail_range (v / 4096)).1 low high
    (reads_more nextSmall nextLow nextHigh (reads_last small lastLow lastHigh value))

theorem reads_encodeChar (c : Char) : Reads none (String.utf8EncodeChar c) c := by
  have valid := c.valid
  have restored : Char.ofNat c.val.toNat = c := Char.ofNat_toNat c
  unfold UInt32.isValidChar Nat.isValidChar at valid
  unfold String.utf8EncodeChar
  generalize c.val.toNat = v at valid restored ⊢
  subst restored
  dsimp only
  -- as many cases as there are octets in a sequence
  split
  · next one =>
    have lead := leadOf_ofNat (n := v) (by omega)
    rw [if_pos (by omega)] at lead
    exact .single lead
  · split
    · exact reads_two (by omega) (by omega)
    · split
      · exact reads_three (by omega) (by omega) (by omega)
      · exact reads_four (by omega) (by omega)

theorem lossyFrom_encode (cs : List Char) (rest : List UInt8) :
    lossyFrom none (encode cs ++ rest) = cs ++ lossyFrom none rest := by
  induction cs with
  | nil => rfl
  | cons c cs ih =>
    rw [encode, List.flatMap_cons, List.append_assoc, (reads_encodeChar c).lossyFrom, ← encode, ih]
    rfl

/-- The octets of a text are read back as the text. -/
theorem decodeLossy_encode (cs : List Char) : decodeLossy (encode cs) = cs := by
  have read := lossyFrom_encode cs []
  rwa [List.append_nil, lossyFrom, List.append_nil] at read

/-- The strict decoder reads back every text. -/
theorem decode_encode (cs : List Char) : decode (encode cs) = .ok cs := by
  suffices ∀ pos, decodeFrom pos none (encode cs) = .ok cs from this 0
  induction cs with
  | nil => exact fun _ => rfl
  | cons c cs ih =>
    intro pos
    rw [encode, List.flatMap_cons, (reads_encodeChar c).decodeFrom, ← encode, ih]
    rfl

/-! ## Around an octet of ASCII -/

/-- An octet of ASCII stands for its own character between characters. -/
theorem lossyIdle_ascii (ascii : b < 0x80) : lossyIdle b = ([Char.ofNat b.toNat], none) := by
  rw [lossyIdle, Lead.of, if_pos ascii]

/-- Decoding goes piece by piece around an octet of ASCII, also from inside a sequence. -/
theorem lossyFrom_append_cons (ascii : b < 0x80) (octets : List UInt8) :
    ∀ state : Option Pending, (∀ p ∈ state, 0x80 ≤ p.low) →
      lossyFrom state (octets ++ b :: rest) =
        lossyFrom state octets ++ Char.ofNat b.toNat :: lossyFrom none rest := by
  induction octets with
  | nil =>
    intro state above
    cases state with
    | none => simp [lossyFrom, lossyIdle_ascii ascii]
    | some p =>
      -- the sequence ends here, since it cannot go on in ASCII
      have stops : p.accepts b = false := by
        have low := above p rfl
        rw [UInt8.le_iff_toNat_le] at low
        rw [UInt8.lt_iff_toNat_lt] at ascii
        have : ¬ p.low ≤ b := by
          rw [UInt8.le_iff_toNat_le]
          omega
        simp [Pending.accepts, this]
      simp [lossyFrom, stops, lossyIdle_ascii ascii]
  | cons a octets ih =>
    have idle : ∀ p ∈ (lossyIdle a).2, 0x80 ≤ p.low := by
      intro p begun
      unfold lossyIdle at begun
      split at begun
      · cases begun
      · next opens =>
        cases begun
        exact low_of_opens opens
      · cases begun
    intro state above
    cases state with
    | none => rw [List.cons_append, lossyFrom, lossyFrom, ih _ idle, List.append_assoc]
    | some p =>
      rw [List.cons_append, lossyFrom, lossyFrom]
      split
      · split
        · rw [ih none nofun]
          rfl
        · refine ih _ ?_
          rintro _ ⟨⟩
          exact (by decide : (0x80 : UInt8) ≤ 0x80)
      · rw [ih _ idle, List.cons_append, List.append_assoc]

theorem decodeLossy_append_cons (ascii : b < 0x80) (octets rest : List UInt8) :
    decodeLossy (octets ++ b :: rest) =
      decodeLossy octets ++ Char.ofNat b.toNat :: decodeLossy rest :=
  lossyFrom_append_cons ascii octets none nofun

/-! ## Texts in ASCII -/

theorem encodeChar_ascii {c : Char} (ascii : c.toNat < 128) :
    String.utf8EncodeChar c = [UInt8.ofNat c.toNat] := by
  rw [String.utf8EncodeChar]
  exact if_pos (Nat.le_of_lt_succ ascii)

theorem encode_ascii {cs : List Char} (ascii : ∀ c ∈ cs, c.toNat < 128) :
    encode cs = cs.map fun c => UInt8.ofNat c.toNat := by
  induction cs with
  | nil => rfl
  | cons c cs ih =>
    obtain ⟨first, others⟩ := List.forall_mem_cons.mp ascii
    rw [encode, List.flatMap_cons, encodeChar_ascii first, ← encode, ih others]
    rfl

theorem lt_of_mem_encode {cs : List Char} (ascii : ∀ c ∈ cs, c.toNat < 128) :
    ∀ b ∈ encode cs, b < 0x80 := by
  intro b mem
  rw [encode_ascii ascii] at mem
  obtain ⟨c, known, rfl⟩ := List.mem_map.mp mem
  have small := ascii c known
  rw [UInt8.lt_iff_toNat_lt, toNat_ofNat_of_lt (by omega)]
  exact small

/-- A text in ASCII is its own octets. -/
theorem map_encode_ascii {cs : List Char} (ascii : ∀ c ∈ cs, c.toNat < 128) :
    (encode cs).map (fun b => Char.ofNat b.toNat) = cs := by
  rw [encode_ascii ascii, List.map_map]
  refine (List.map_congr_left fun c mem => ?_).trans (List.map_id cs)
  have small := ascii c mem
  show Char.ofNat (UInt8.ofNat c.toNat).toNat = c
  rw [toNat_ofNat_of_lt (by omega), Char.ofNat_toNat]

end SignedLink.Text.Utf8
