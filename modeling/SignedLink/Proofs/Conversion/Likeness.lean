import SignedLink.Http.Offer
import SignedLink.Proofs.Signing.Success
/-!
# SignedLink — identities that fare alike

Nothing in a conversion looks at the characters of an identity. The gate asks
whether there is one, the storage key asks for four characters, and a key signs
policies of any text or of none. So identities with as many characters come to
the same end, and what a document offers with halves of surrogate pairs in it
may be converted as it is seen.

* `Link.exists_sign_iff_of_length`: whether there is a link for an identity.
* `Conversion.outcome_eq_of_length`: what becomes of a binary with such an identity.
* `Offer.outcome_eq_of_length`: what becomes of an identity with halves in it.
-/

namespace SignedLink

/-- A key that signs one policy signs every policy. -/
theorem Link.exists_signPolicy {key : SigningKey} {policy : List Char} {signature : List UInt8}
    (signed : signPolicy key policy = .ok signature) (other : List Char) :
    ∃ signature, signPolicy key other = .ok signature := by
  cases key with
  | refusing reason => cases signed
  | other typeName => cases signed
  | rsa k =>
    rw [signPolicy_rsa_eq_ok_iff] at signed
    have enough : Rsa.leastSize ≤ k.size := by
      refine Nat.not_lt.mp fun short => ?_
      cases signed.symm.trans (Rsa.sign?_eq_none_iff.mpr short)
    obtain ⟨signature, also⟩ := Rsa.exists_sign? enough (Text.Utf8.encode other)
    exact ⟨signature, signPolicy_rsa_eq_ok_iff.mpr also⟩

theorem Link.exists_sign_of_length {a b baseUrl keyPairId : String} {key : SigningKey}
    {ttl now : Value} {link : Link} (same : a.toList.length = b.toList.length)
    (signed : sign (.text a) baseUrl keyPairId key ttl now = .ok link) :
    ∃ link, sign (.text b) baseUrl keyPairId key ttl now = .ok link := by
  obtain ⟨start, seconds, signature, stored, began, valid, expires, issued⟩ :=
    sign_eq_ok_iff.mp signed
  have long : 4 ≤ b.toList.length := by
    refine Nat.not_lt.mp fun short => ?_
    have unstored := StorageKey.ofText?_eq_none_iff.mpr (same ▸ short)
    rw [StorageKey.ofValue_text_eq_ok_iff, unstored] at stored
    cases stored
  obtain ⟨storageKey, storedAlso⟩ := StorageKey.exists_ofText? long
  obtain ⟨other, signedAlso⟩ :=
    exists_signPolicy issued.signed (Policy.text (baseUrl ++ storageKey) link.expiresAt)
  exact ⟨⟨.ofList (compose (baseUrl ++ storageKey).toList link.expiresAt other keyPairId.toList),
      link.expiresAt, storageKey⟩,
    sign_eq_ok_iff.mpr ⟨start, seconds, other, StorageKey.ofValue_text_eq_ok_iff.mpr storedAlso,
      began, valid, expires, issued.inCalendar, signedAlso, rfl⟩⟩

/-- There is a link for an identity when there is one for another with as many characters. -/
theorem Link.exists_sign_iff_of_length {a b baseUrl keyPairId : String} {key : SigningKey}
    {ttl now : Value} (same : a.toList.length = b.toList.length) :
    (∃ link, sign (.text a) baseUrl keyPairId key ttl now = .ok link) ↔
      ∃ link, sign (.text b) baseUrl keyPairId key ttl now = .ok link :=
  ⟨fun ⟨_, signed⟩ => exists_sign_of_length same signed,
    fun ⟨_, signed⟩ => exists_sign_of_length same.symm signed⟩

namespace Conversion

variable {held : Option SignerConfiguration} {now : Value} {size : Option Int} {a b : String}

/-- What is signed is issued, and what is not has failed. -/
theorem outcome_sign (config : SignerConfiguration) (now identity length : Value) :
    (sign config now identity length).outcome = .issued ↔
      ∃ link, Link.sign identity config.baseUrl config.keyPairId config.key
        (.integer config.ttlSeconds) now = .ok link := by
  unfold sign
  split
  · next unsigned => simp [unsigned, failed]
  · next signed => simp [signed, issued]

theorem outcome_sign_eq_of_length (same : a.toList.length = b.toList.length)
    (config : SignerConfiguration) (now length : Value) :
    (sign config now (.text a) length).outcome = (sign config now (.text b) length).outcome := by
  have alike := (outcome_sign config now (.text a) length).trans
    ((Link.exists_sign_iff_of_length same).trans (outcome_sign config now (.text b) length).symm)
  -- there are only two ways to end
  have either (identity : Value) : (sign config now identity length).outcome = .issued ∨
      (sign config now identity length).outcome = .failed := by
    unfold sign
    split
    · exact .inr rfl
    · exact .inl rfl
  rcases either (.text a) with first | first
  · rw [first, alike.mp first]
  · rcases either (.text b) with second | second
    · cases first.symm.trans (alike.mpr second)
    · rw [first, second]

/-- Binaries of one length whose identities have as many characters come to the same end. -/
theorem outcome_eq_of_length (same : a.toList.length = b.toList.length) :
    (of held now (⟨size, some a⟩ : BlobInfo).toCandidate).outcome =
      (of held now (⟨size, some b⟩ : BlobInfo).toCandidate).outcome := by
  cases held with
  | none => rfl
  | some config =>
    -- the gate asks only whether there is an identity
    have gate (s : String) :
        passes config.minimumSizeBytes (Value.ofInt? size) (Value.ofText? (some s)) =
          passes config.minimumSizeBytes (Value.ofInt? size) (.text "") := rfl
    simp only [BlobInfo.toCandidate, of, ofBlob, BlobInfo.toBlob, gate]
    split
    · rfl
    · rfl
    · exact outcome_sign_eq_of_length same config now _

end Conversion

/-- An identity with halves of surrogate pairs in it comes to the same end as any text with as many
characters. -/
theorem Http.Offer.outcome_eq_of_length {held : Option SignerConfiguration} {now : Value}
    {size : Option Int} {identity : List Text.CodePoint} {s : String}
    (same : identity.length = s.toList.length) :
    (Conversion.of held now (Offer.broken size identity).candidate).outcome =
      (Conversion.of held now (⟨size, some s⟩ : BlobInfo).toCandidate).outcome := by
  refine Conversion.outcome_eq_of_length ?_
  rw [String.toList_ofList, Text.seen, List.length_map, same]

end SignedLink
