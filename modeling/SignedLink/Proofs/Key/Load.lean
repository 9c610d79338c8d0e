import SignedLink.Key.Load
import SignedLink.Proofs.Key.Armour
import SignedLink.Proofs.Key.Structure
import SignedLink.Proofs.Octets.Base64
import SignedLink.Proofs.Rsa.Primality
/-!
# SignedLink — loading undoes encoding

A key that was written as a structure, put into base64, broken at any places
and armoured inside any text is loaded with exactly its numbers. The loader
takes no key with an even factor, and none whose structure is too long for the
lengths it reads; every other genuine key it takes.

* `IsGenuine`: the numbers of a private key as they are made from two primes.
* `load_normalize`: what is loaded from an armoured key, for any numbers.
* `load_genuine`: a genuine key is loaded, apart from the two exceptions.
* `isAcceptable_of_load`: a loaded key has numbers that fit together.
-/

namespace SignedLink.Rsa.PrivateKey

/-- The numbers of a private key as they are made from two primes. -/
structure IsGenuine (key : PrivateKey) : Prop where
  modulus_eq : key.modulus = key.p * key.q
  primeP : key.p.Prime
  primeQ : key.q.Prime
  odd : key.publicExponent % 2 = 1
  large : 1 < key.publicExponent
  inverse : key.privateExponent * key.publicExponent ≡ 1 [MOD Nat.lcm (key.p - 1) (key.q - 1)]
  exponentP_eq : key.exponentP = key.privateExponent % (key.p - 1)
  exponentQ_eq : key.exponentQ = key.privateExponent % (key.q - 1)
  coefficient_lt : key.coefficient < key.p
  coefficient_mul : key.coefficient * key.q % key.p = 1

theorem Consistent.isGenuine {key : PrivateKey} (consistent : key.Consistent)
    (primeP : key.p.Prime) (primeQ : key.q.Prime) : key.IsGenuine := by
  obtain ⟨modulus, -, -, odd, large, inverse, exponentP, exponentQ, small, unit⟩ := consistent
  exact ⟨modulus, primeP, primeQ, odd, large, inverse, exponentP, exponentQ, small, unit⟩

/-- A genuine key is accepted unless one of its factors is even, that is, two. -/
theorem IsGenuine.isAcceptable_iff {key : PrivateKey} (genuine : key.IsGenuine) :
    key.isAcceptable = true ↔ 2 < key.p ∧ 2 < key.q := by
  have odd {p : Nat} (prime : p.Prime) : p % 2 = 1 ↔ 2 < p := by
    have two := prime.two_le
    constructor
    · intro odd
      omega
    · intro large
      exact (prime.eq_two_or_odd).resolve_left (by omega)
  rw [PrivateKey.isAcceptable_iff genuine.primeP genuine.primeQ, ← odd genuine.primeP,
    ← odd genuine.primeQ]
  constructor
  · rintro ⟨-, oddP, oddQ, -⟩
    exact ⟨oddP, oddQ⟩
  · rintro ⟨oddP, oddQ⟩
    exact ⟨genuine.modulus_eq, oddP, oddQ, genuine.odd, genuine.large, genuine.inverse,
      genuine.exponentP_eq, genuine.exponentQ_eq, genuine.coefficient_lt, genuine.coefficient_mul⟩

end SignedLink.Rsa.PrivateKey

namespace SignedLink.Key

/-! ## From a text to a key -/

theorem isPlain_encode (octets : List UInt8) : IsPlain (Base64.encode octets) := by
  have plain : Base64.characters.all
      (fun c => !Text.isBlank c && c != '\\' && c != '-') = true := by decide +kernel
  intro c mem
  have holds := List.all_eq_true.mp plain c (Base64.mem_characters mem)
  simpa [and_assoc] using holds

/-- The tag of a sequence gives the first character of the body. -/
theorem encode_eq_cons (key : Rsa.PrivateKey) :
    ∃ text, Base64.encode (encode key) = 'M' :: text :=
  Base64.encode_cons Der.sequenceTag
    (Der.length (structureContents key).length ++ structureContents key)

/-- What is loaded from the body of a key: the key, when its numbers fit together and its length
fits, and else it is called unreadable. -/
theorem loadBody_encode (key : Rsa.PrivateKey) :
    loadBody (Base64.encode (encode key)) =
      if key.isAcceptable = true ∧ Fits key then .ok key else .error .unreadable := by
  obtain ⟨text, body⟩ := encode_eq_cons key
  have nonempty : (Base64.encode (encode key)).isEmpty = false := by
    rw [body]
    rfl
  rw [loadBody, nonempty, Base64.decode_encode]
  simp only [decode_encode]
  by_cases accepted : key.isAcceptable = true ∧ Fits key
  · simp [accepted]
  · simp [accepted]

/-- The same is loaded from the body between markers inside any text. -/
theorem load_normalize (key : Rsa.PrivateKey) {before raw : List Char}
    (preamble : Preamble before) (broken : Broken (Base64.encode (encode key)) raw)
    (after : List Char) :
    load (normalize (some (.ofList (before ++ beginMarker ++ raw ++ endMarker ++ after)))) =
      if key.isAcceptable = true ∧ Fits key then .ok key else .error .unreadable := by
  obtain ⟨text, body⟩ := encode_eq_cons key
  have found := body?_normalizeChars preamble broken (isPlain_encode _) (by rw [body]; simp)
    (by rw [body]; simp) after
  rw [← loadBody_encode]
  simp only [load, loadChars, normalize, Option.getD_some, String.toList_ofList,
    List.append_assoc, found]

theorem isSealed_encode (key : Rsa.PrivateKey) {breaks : List Char}
    (blank : ∀ c ∈ breaks, Text.isBlank c = true) :
    IsSealed (breaks ++ Base64.encode (encode key)) := by
  obtain ⟨text, body⟩ := encode_eq_cons key
  have other {c : Char} (mem : c ∈ breaks) : c ≠ '-' ∧ c ≠ 'E' := by
    have holds := blank c mem
    constructor <;>
    · rintro rfl
      exact absurd holds (by decide)
  refine isSealed_of_not_mem (by simp [body]) ?_ ?_
  · intro mem
    rcases List.mem_append.mp mem with inBreaks | inBody
    · exact (other inBreaks).1 rfl
    · exact (isPlain_encode _ _ inBody).2.2 rfl
  · intro letter
    cases breaks with
    | nil => simp [body] at letter
    | cons c breaks => exact (other List.mem_cons_self).2 (by simpa using letter)

theorem withoutBlanks_encode (octets : List UInt8) {breaks : List Char}
    (blank : ∀ c ∈ breaks, Text.isBlank c = true) :
    Text.withoutBlanks (breaks ++ Base64.encode octets) = Base64.encode octets := by
  have empty : Text.withoutBlanks breaks = [] :=
    List.filter_eq_nil_iff.mpr fun c mem => by simp [blank c mem]
  have all : Text.withoutBlanks (Base64.encode octets) = Base64.encode octets :=
    List.filter_eq_self.mpr fun c mem => by simp [(isPlain_encode octets c mem).1]
  rw [Text.withoutBlanks_append, empty, all, List.nil_append]

/-- The same is loaded from the body with its markers alone, with blanks in front of it. -/
theorem load_sealed_encode (key : Rsa.PrivateKey) {breaks : List Char}
    (blank : ∀ c ∈ breaks, Text.isBlank c = true) :
    load (.ofList (beginMarker ++ (breaks ++ Base64.encode (encode key)) ++ endMarker)) =
      if key.isAcceptable = true ∧ Fits key then .ok key else .error .unreadable := by
  rw [load, String.toList_ofList, loadChars, body?_of_isSealed (isSealed_encode key blank),
    withoutBlanks_encode _ blank]
  exact loadBody_encode key

theorem broken_lines (body : List Char) : Broken body ('\n' :: (body ++ ['\n'])) := by
  refine .blank (by decide) ?_
  induction body with
  | nil => exact .blank (by decide) .nil
  | cons c body ih => exact .char ih

theorem preamble_nil : Preamble [] :=
  ⟨by decide, by decide, .inl rfl⟩

theorem load_armour (key : Rsa.PrivateKey) :
    load (normalize (some (.ofList (armour (Base64.encode (encode key)))))) =
      if key.isAcceptable = true ∧ Fits key then .ok key else .error .unreadable := by
  have loaded := load_normalize key preamble_nil (broken_lines _) []
  rwa [List.nil_append, List.append_nil, List.append_assoc, List.cons_append,
    List.append_assoc] at loaded

theorem isAcceptable_of_load {pem : String} {key : Rsa.PrivateKey} (loaded : load pem = .ok key) :
    key.isAcceptable = true := by
  unfold load loadChars at loaded
  split at loaded
  · cases loaded
  · unfold loadBody at loaded
    split at loaded
    · cases loaded
    · split at loaded
      · cases loaded
      · split at loaded
        · cases loaded
        · cases loaded
        · next read =>
          cases loaded
          exact isAcceptable_of_decode read

/-! ## Genuine keys -/

/-- A genuine key whose structure stands, broken at any places, between the markers of any text is
loaded with exactly its numbers, except that a factor two and a structure that is too long are
refused. -/
theorem load_genuine {key : Rsa.PrivateKey} (genuine : key.IsGenuine) {before raw after : List Char}
    (preamble : Preamble before) (broken : Broken (Base64.encode (encode key)) raw) :
    load (normalize (some (.ofList (before ++ beginMarker ++ raw ++ endMarker ++ after)))) =
      if (2 < key.p ∧ 2 < key.q) ∧ (structureContents key).length < 256 ^ Der.lengthLimit
      then .ok key else .error .unreadable := by
  rw [load_normalize key preamble broken]
  exact if_congr (and_congr genuine.isAcceptable_iff Iff.rfl) rfl rfl

theorem mersenneKey_fits : Rsa.PrivateKey.mersenneKey.isAcceptable = true ∧ Fits .mersenneKey :=
  ⟨Rsa.PrivateKey.mersenneKey_isAcceptable, by decide +kernel⟩

theorem mersenneKey_isGenuine : Rsa.PrivateKey.mersenneKey.IsGenuine := by
  obtain ⟨primeP, primeQ⟩ := Rsa.PrivateKey.prime_mersenneKey
  have accepted := Rsa.PrivateKey.mersenneKey_isAcceptable
  exact (Rsa.PrivateKey.consistent_of_isAcceptable accepted).isGenuine primeP primeQ

/-- Two Mersenne primes, a line in front, an escaped line end, and text behind. -/
theorem load_mersenneKey :
    load (normalize (some (.ofList ("attributes\n".toList ++ beginMarker ++
      ('\\' :: 'n' :: '\n' :: (Base64.encode (encode .mersenneKey) ++ ['\n'])) ++ endMarker ++
        "\n".toList)))) = .ok .mersenneKey := by
  have preamble : Preamble "attributes\n".toList :=
    ⟨by decide, by decide, .inr ⟨"attributes".toList, rfl⟩⟩
  rw [load_genuine mersenneKey_isGenuine preamble (.escape (broken_lines _)),
    if_pos (by decide +kernel)]

/-- The loader takes no key with the factor two, although its numbers are those of two primes. -/
theorem evenKey_unreadable :
    Rsa.PrivateKey.evenKey.IsGenuine ∧ Preamble [] ∧
      Broken (Base64.encode (encode .evenKey))
        ('\n' :: (Base64.encode (encode .evenKey) ++ ['\n'])) ∧
      load (normalize (some (.ofList ([] ++ beginMarker ++
        ('\n' :: (Base64.encode (encode .evenKey) ++ ['\n'])) ++ endMarker ++ [])))) =
          .error .unreadable := by
  have genuine : Rsa.PrivateKey.evenKey.IsGenuine :=
    ⟨rfl, Nat.prime_two, Rsa.PrivateKey.prime_mersenne_127, by decide +kernel, by decide +kernel,
      by decide +kernel, rfl, rfl, by decide +kernel, by decide +kernel⟩
  refine ⟨genuine, preamble_nil, broken_lines _, ?_⟩
  rw [load_normalize .evenKey preamble_nil (broken_lines _), if_neg (by decide +kernel)]

end SignedLink.Key
