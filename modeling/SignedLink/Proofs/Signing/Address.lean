import SignedLink.Proofs.Rsa.Primality
import SignedLink.Proofs.Signing.Parts
import SignedLink.Proofs.Signing.Success
/-!
# SignedLink — what an address says

The address of an issued link comes apart into its resource, its expiry, the
signature that was made and the name of the key pair. So an address stands for
one resource, one expiry and one signature, also where a base address or an
identity imitates the parameters behind it.

* `IsIssued.parts?_url`: the parts of the address of an issued link.
* `sign_decodes`: an address is taken apart into what was signed, and only by
  calls that agree in it is it returned again.
-/

namespace SignedLink.Link

variable {baseUrl keyPairId : String} {key : SigningKey} {link : Link} {signature : List UInt8}

/-- The parts of the address of an issued link. -/
theorem IsIssued.parts?_url (issued : IsIssued baseUrl keyPairId key link signature)
    (noAmp : '&' ∉ keyPairId.toList) :
    parts? link.url.toList = some {
      resource := (baseUrl ++ link.storageKey).toList
      separator := if '?' ∈ (baseUrl ++ link.storageKey).toList then '&' else '?'
      expiresAt := Text.decimal link.expiresAt
      signature
      keyPairId := keyPairId.toList } := by
  have separates : separator (baseUrl ++ link.storageKey).toList =
      if '?' ∈ (baseUrl ++ link.storageKey).toList then '&' else '?' := by
    simp [separator]
  rw [issued.url_eq, String.toList_ofList, parts?_compose _ _ _ _ noAmp, separates]

/-- Equal addresses are issued for the same resource, expiry, signature and key pair. -/
theorem IsIssued.eq_of_url_eq {baseUrl' keyPairId' : String} {key' : SigningKey} {link' : Link}
    {signature' : List UInt8} (issued : IsIssued baseUrl keyPairId key link signature)
    (issued' : IsIssued baseUrl' keyPairId' key' link' signature')
    (noAmp : '&' ∉ keyPairId.toList) (noAmp' : '&' ∉ keyPairId'.toList)
    (same : link.url = link'.url) :
    baseUrl ++ link.storageKey = baseUrl' ++ link'.storageKey ∧
      link.expiresAt = link'.expiresAt ∧ signature = signature' ∧ keyPairId = keyPairId' := by
  have parts := issued.parts?_url noAmp
  rw [same, issued'.parts?_url noAmp'] at parts
  have equal := Option.some.inj parts
  simp only [Parts.mk.injEq] at equal
  obtain ⟨resources, -, times, signatures, keyPairs⟩ := equal
  exact ⟨String.toList_injective resources.symm, Text.decimal_injective times.symm, signatures.symm,
    String.toList_injective keyPairs.symm⟩

/-- The address that a call returns is taken apart into the resource, the expiry, the signature and
the key pair of the call, the signature is written without special characters, and another call
returns the same address only when it agrees in all four. -/
theorem sign_decodes {identity : String} {ttl now : Value}
    (signed : sign (.text identity) baseUrl keyPairId key ttl now = .ok link)
    (noAmp : '&' ∉ keyPairId.toList) :
    ∃ signature, StorageKey.ofText? identity = some link.storageKey ∧
      signPolicy key (link.policy baseUrl) = .ok signature ∧
      link.url = .ofList (compose (baseUrl ++ link.storageKey).toList link.expiresAt signature
        keyPairId.toList) ∧
      parts? link.url.toList = some {
        resource := (baseUrl ++ link.storageKey).toList
        separator := if '?' ∈ (baseUrl ++ link.storageKey).toList then '&' else '?'
        expiresAt := Text.decimal link.expiresAt
        signature
        keyPairId := keyPairId.toList } ∧
      (∀ c ∈ signatureText signature, c ∉ ['+', '=', '/', '&']) ∧
      ∀ (baseUrl' keyPairId' identity' : String) (key' : SigningKey) (ttl' now' : Value)
        (link' : Link),
        sign (.text identity') baseUrl' keyPairId' key' ttl' now' = .ok link' →
        '&' ∉ keyPairId'.toList → link.url = link'.url →
        baseUrl ++ link.storageKey = baseUrl' ++ link'.storageKey ∧
          link.expiresAt = link'.expiresAt ∧
          signPolicy key' (link'.policy baseUrl') = .ok signature ∧ keyPairId = keyPairId' := by
  obtain ⟨_, _, signature, stored, _, _, _, issued⟩ := sign_eq_ok_iff.mp signed
  refine ⟨signature, StorageKey.ofValue_text_eq_ok_iff.mp stored, issued.signed, issued.url_eq,
    issued.parts?_url noAmp, fun c mem special => not_mem_signatureText special mem, ?_⟩
  intro baseUrl' keyPairId' identity' key' ttl' now' link' signed' noAmp' same
  obtain ⟨_, _, signature', _, _, _, _, issued'⟩ := sign_eq_ok_iff.mp signed'
  obtain ⟨resources, times, rfl, keyPairs⟩ := issued.eq_of_url_eq issued' noAmp noAmp' same
  exact ⟨resources, times, issued'.signed, keyPairs⟩

/-- An identity that imitates the parameters behind it. -/
theorem sign_decodes_imitation :
    ∃ link signature,
      sign (.text "abcd?Expires=1&Signature=x&Key-Pair-Id=y") "https://files.example/" "K1"
        (.rsa .mersenneKey) (.integer 60) (.integer 0) = .ok link ∧
      parts? link.url.toList = some {
        resource := "https://files.example/abcd-?Expires=1&Signature=x&Key-Pair-Id=y".toList
        separator := '&'
        expiresAt := "60".toList
        signature
        keyPairId := "K1".toList } := by
  obtain ⟨link, -, signed, stored, expires, -⟩ :=
    exists_issued "abcd?Expires=1&Signature=x&Key-Pair-Id=y" "https://files.example/" "K1"
      .mersenneKey 60 (by decide) (by rw [Rsa.PrivateKey.size_mersenneKey]; decide) (.integer 0)
      (by decide)
  obtain ⟨signature, -, -, -, parts, -⟩ := sign_decodes signed (by decide)
  have storageKey : link.storageKey = "abcd-?Expires=1&Signature=x&Key-Pair-Id=y" :=
    Option.some.inj (stored.symm.trans (by decide +kernel))
  rw [storageKey, expires] at parts
  exact ⟨link, signature, signed, parts⟩

end SignedLink.Link
