import SignedLink.Key.Structure
import SignedLink.Proofs.Octets.Der
/-!
# SignedLink — a written key structure is read back

The structure of an RSA key is read as the key it was written for, when its
numbers fit together and its length fits into the octets of a length. In all
other cases no reader takes it: the readers of bare keys expect a number where
the general structure has its algorithm.

* `decode_encode`: what is read from the structure of a key, for every key.
* `isAcceptable_of_decode`: an RSA key that was read has numbers that fit together.
-/

namespace SignedLink.Key

open Der

/-! ## The bare form -/

/-- The numbers of a key in the order of the bare form, after the version. -/
def numbers (key : Rsa.PrivateKey) : List Nat :=
  [0, key.modulus, key.publicExponent, key.privateExponent, key.p, key.q, key.exponentP,
    key.exponentQ, key.coefficient]

theorem encodeRsa_eq (key : Rsa.PrivateKey) :
    encodeRsa key = element sequenceTag ((numbers key).flatMap natural) := by
  simp [encodeRsa, numbers]

theorem length_contents_le (tag : UInt8) (contents : List UInt8) :
    contents.length ≤ (element tag contents).length := by
  rw [element, List.length_cons, List.length_append]
  omega

theorem decodeRsaNumbers_encodeRsa {key : Rsa.PrivateKey}
    (fits : ((numbers key).flatMap natural).length < 256 ^ lengthLimit) :
    decodeRsaNumbers (encodeRsa key) = some key := by
  have each (n : Nat) (mem : n ∈ numbers key) :
      (naturalContents n).length < 256 ^ lengthLimit := by
    have inside : natural n <:+: (numbers key).flatMap natural := by
      rw [List.flatMap_def]
      exact List.infix_of_mem_flatten (List.mem_map_of_mem mem)
    have := length_contents_le integerTag (naturalContents n)
    exact Nat.lt_of_le_of_lt (Nat.le_trans this inside.length_le) fits
  have read := readNaturals_flatMap each []
  rw [List.append_nil] at read
  rw [decodeRsaNumbers, encodeRsa_eq, expectOnly_element sequenceTag fits]
  simp only [show (9 : Nat) = (numbers key).length from rfl, read]
  rfl

theorem decodeRsa_encodeRsa {key : Rsa.PrivateKey}
    (fits : ((numbers key).flatMap natural).length < 256 ^ lengthLimit) :
    decodeRsa (encodeRsa key) = if key.isAcceptable then some (.rsa key) else none := by
  rw [decodeRsa, decodeRsaNumbers_encodeRsa fits]

/-! ## The general structure -/

/-- The contents of the general structure. -/
def structureContents (key : Rsa.PrivateKey) : List UInt8 :=
  natural 0 ++ rsaAlgorithm ++ element octetStringTag (encodeRsa key)

/-- Whether the length of a key's structure fits into the octets that a length may take. -/
def Fits (key : Rsa.PrivateKey) : Prop :=
  (structureContents key).length < 256 ^ lengthLimit

instance (key : Rsa.PrivateKey) : Decidable (Fits key) :=
  inferInstanceAs (Decidable (_ < _))

/-- The general structure is read exactly when the numbers fit together. -/
theorem decodeGeneral_encode {key : Rsa.PrivateKey} (fits : Fits key) :
    decodeGeneral (encode key) = if key.isAcceptable then some (.rsa key) else none := by
  have bare : (encodeRsa key).length < 256 ^ lengthLimit := by
    have := length_contents_le octetStringTag (encodeRsa key)
    unfold Fits at fits
    rw [structureContents, List.length_append] at fits
    omega
  have inner : ((numbers key).flatMap natural).length < 256 ^ lengthLimit := by
    have := length_contents_le sequenceTag ((numbers key).flatMap natural)
    rw [← encodeRsa_eq] at this
    omega
  have outer : expectOnly sequenceTag (encode key) = some (structureContents key) :=
    expectOnly_element sequenceTag fits
  -- the parts are read in their order: the version, the algorithm, the key inside its octets
  have version : readNatural (structureContents key) =
      some (0, rsaAlgorithm ++ element octetStringTag (encodeRsa key)) := by
    rw [structureContents, List.append_assoc]
    exact readNatural_natural (by decide) _
  have algorithm : expect sequenceTag (rsaAlgorithm ++ element octetStringTag (encodeRsa key)) =
      some (element identifierTag rsaIdentifier ++ element nullTag [],
        element octetStringTag (encodeRsa key)) := expect_element sequenceTag (by decide) _
  have wrapped : expect octetStringTag (element octetStringTag (encodeRsa key)) =
      some (encodeRsa key, []) := by
    have read := expect_element octetStringTag bare []
    rwa [List.append_nil] at read
  have identifier : expect identifierTag
      (element identifierTag rsaIdentifier ++ element nullTag []) =
        some (rsaIdentifier, element nullTag []) := expect_element identifierTag (by decide) _
  rw [decodeGeneral, outer]
  simp only [Option.bind_eq_bind, Option.bind_some, version, algorithm, wrapped, identifier,
    optionalAt]
  rw [if_pos (by simp), decodeAlgorithm, if_pos rfl, if_pos (.inr rfl), decodeRsa_encodeRsa inner]

/-! ## The other readers -/

/-- After the version comes no number. -/
theorem readNaturals_structureContents (key : Rsa.PrivateKey) (count : Nat) :
    readNaturals (count + 2) (structureContents key) = none := by
  rw [structureContents, List.append_assoc, readNaturals, readNatural_natural (by decide)]
  simp only [readNaturals]
  rw [rsaAlgorithm, element, List.cons_append, readNatural_cons_of_ne (by decide)]
  rfl

/-- The readers of bare keys take no general structure. -/
theorem decode_bare_encode {key : Rsa.PrivateKey} (fits : Fits key) :
    decodeEllipticCurve none (encode key) = none ∧ decodeRsa (encode key) = none ∧
      decodeDsa (encode key) = none := by
  have outer : expectOnly sequenceTag (encode key) = some (structureContents key) :=
    expectOnly_element sequenceTag fits
  refine ⟨?_, ?_, ?_⟩
  · have version : readNatural (structureContents key) =
        some (0, rsaAlgorithm ++ element octetStringTag (encodeRsa key)) := by
      rw [structureContents, List.append_assoc]
      exact readNatural_natural (by decide) _
    have scalar : expect octetStringTag
        (rsaAlgorithm ++ element octetStringTag (encodeRsa key)) = none := by
      rw [rsaAlgorithm, element, List.cons_append, expect_cons_of_ne (by decide)]
    rw [decodeEllipticCurve, outer]
    simp only [Option.bind_eq_bind, Option.bind_some, version, scalar, Option.bind_none]
  · rw [decodeRsa, decodeRsaNumbers, outer]
    simp only [readNaturals_structureContents key 7]
  · rw [decodeDsa, outer, Option.bind_some, readNaturals_structureContents key 4]

theorem decode_of_long {octets : List UInt8} (refused : expectOnly sequenceTag octets = none) :
    decode octets = none := by
  simp [decode, decodeGeneral, decodeEllipticCurve, decodeRsa, decodeRsaNumbers, decodeDsa, refused]

/-- What is read from the structure of a key: the key, when its numbers fit together and its length
fits, and else nothing. -/
theorem decode_encode (key : Rsa.PrivateKey) :
    decode (encode key) =
      if key.isAcceptable = true ∧ Fits key then some (.rsa key) else none := by
  by_cases fits : Fits key
  · obtain ⟨curve, rsa, dsa⟩ := decode_bare_encode fits
    rw [decode, decodeGeneral_encode fits]
    by_cases accepted : key.isAcceptable = true
    · simp [accepted, fits]
    · simp [accepted, curve, rsa, dsa]
  · rw [if_neg fun both => fits both.2]
    exact decode_of_long (expectOnly_element_of_long fits)

/-! ## What is accepted -/

/-- A result of reading in which an RSA key has numbers that fit together. -/
def OnlyAccepted (result : Option Decoded) : Prop :=
  ∀ key, result = some (.rsa key) → key.isAcceptable = true

theorem onlyAccepted_none : OnlyAccepted none := by
  rintro key ⟨⟩

theorem onlyAccepted_other (kind : OtherKind) : OnlyAccepted (some (.other kind)) := by
  rintro key ⟨⟩

theorem onlyAccepted_decodeRsa (octets : List UInt8) : OnlyAccepted (decodeRsa octets) :=
  fun _ read => isAcceptable_of_decodeRsa read

theorem onlyAccepted_decodeEllipticCurve (outer : Option (List UInt8)) (octets : List UInt8) :
    OnlyAccepted (decodeEllipticCurve outer octets) := by
  intro key read
  simp only [decodeEllipticCurve, Option.bind_eq_bind, Option.bind_eq_some_iff] at read
  obtain ⟨_, _, _, _, _, _, _, _, _, _, _, _, _, _, read⟩ := read
  split at read
  · exact onlyAccepted_other _ key read
  · exact onlyAccepted_none key read

theorem onlyAccepted_decodeAlgorithm (identifier parameters octets : List UInt8) :
    OnlyAccepted (decodeAlgorithm identifier parameters octets) := by
  have number (kind : OtherKind) (isGroup : List UInt8 → Bool) :
      OnlyAccepted (decodeNumber kind isGroup parameters octets) := by
    unfold decodeNumber
    split
    · exact onlyAccepted_other kind
    · exact onlyAccepted_none
  have string (kind : OtherKind) (tag : UInt8) (size : Nat) :
      OnlyAccepted (decodeString kind tag size parameters octets) := by
    unfold decodeString
    split
    · exact onlyAccepted_other kind
    · exact onlyAccepted_none
  -- one case for each identifier that the reader knows; only the first two give an RSA key
  unfold decodeAlgorithm
  split
  · split
    · exact onlyAccepted_decodeRsa octets
    · exact onlyAccepted_none
  split
  · split
    · exact onlyAccepted_decodeRsa octets
    · exact onlyAccepted_none
  split
  · exact onlyAccepted_decodeEllipticCurve _ octets
  split
  · exact number _ _
  split
  · exact number _ _
  split
  · exact number _ _
  split
  · exact string _ _ _
  · exact string _ _ _
  · exact onlyAccepted_none

theorem onlyAccepted_decodeGeneral (octets : List UInt8) : OnlyAccepted (decodeGeneral octets) := by
  intro key read
  simp only [decodeGeneral, Option.bind_eq_bind, Option.bind_eq_some_iff] at read
  obtain ⟨_, _, _, _, _, _, _, _, _, _, _, _, read⟩ := read
  split at read
  · exact onlyAccepted_decodeAlgorithm _ _ _ key read
  · exact onlyAccepted_none key read

/-- An RSA key that was read has numbers that fit together. -/
theorem isAcceptable_of_decode {octets : List UInt8} {key : Rsa.PrivateKey}
    (read : decode octets = some (.rsa key)) : key.isAcceptable = true := by
  unfold decode at read
  split at read
  · next general => exact onlyAccepted_decodeGeneral octets key (read ▸ general)
  · split at read
    · next curve => exact onlyAccepted_decodeEllipticCurve none octets key (read ▸ curve)
    · rcases Option.or_eq_some_iff.mp read with rsa | ⟨-, dsa⟩
      · exact onlyAccepted_decodeRsa octets key rsa
      · unfold decodeDsa at dsa
        split at dsa
        · exact onlyAccepted_other _ key dsa
        · exact onlyAccepted_none key dsa

end SignedLink.Key
