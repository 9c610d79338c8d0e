import SignedLink.Proofs.Key.Load
import SignedLink.Proofs.Rsa.Verification
import SignedLink.Proofs.Signing.Address
import SignedLink.Proofs.Signing.PolicyText
/-!
# SignedLink — issued signatures verify

Whoever has the public half of a loaded key can check a link: the signature
in its address, raised to the public exponent, is the policy of the resource
and the expiry, filled up as the signature scheme has it. The numbers of a
loaded key fit together; that its factors are prime is what the loader's test
stands for.

* `sign_verifies`: a link is issued, and its signature verifies.
-/

namespace SignedLink.Link

/-- The signature of an issued link is as long as the modulus, and raised to the public exponent it
is the filled-up policy. -/
theorem IsIssued.pow_publicExponent {baseUrl keyPairId : String} {key : Rsa.PrivateKey}
    {link : Link} {signature : List UInt8}
    (issued : IsIssued baseUrl keyPairId (.rsa key) link signature)
    (consistent : key.Consistent) (primeP : key.p.Prime) (primeQ : key.q.Prime)
    (enough : Rsa.leastSize ≤ key.size) :
    signature.length = key.size ∧
      Octets.ofNat key.size (Octets.toNat signature ^ key.publicExponent % key.modulus) =
        Rsa.encodedMessage key.size (Text.Utf8.encode (link.policy baseUrl)) := by
  have signed := signPolicy_rsa_eq_ok_iff.mp issued.signed
  refine ⟨Rsa.length_sign? signed, ?_⟩
  rw [Rsa.sign?_pow_publicExponent consistent primeP primeQ signed,
    Rsa.ofNat_toNat_encodedMessage enough]

/-- With a loaded key of at least 46 octets and prime factors, an identity of at least four
characters, and an expiry of the calendar, a link is issued; the signature in its address is as long
as the modulus, and raised to the public exponent it is the filled-up canned policy. -/
theorem sign_verifies {pem identity baseUrl keyPairId : String} {key : Rsa.PrivateKey}
    {now : Value} {ttl start : Int} (loaded : Key.load pem = .ok key) (primeP : key.p.Prime)
    (primeQ : key.q.Prime) (enough : 46 ≤ key.size) (long : 4 ≤ identity.toList.length)
    (noAmp : '&' ∉ keyPairId.toList) (reading : IsReading now start)
    (inside : Policy.InCalendar (start + ttl)) :
    ∃ link policy parts,
      sign (.text identity) baseUrl keyPairId (.rsa key) (.integer ttl) now = .ok link ∧
      StorageKey.ofText? identity = some link.storageKey ∧ link.expiresAt = start + ttl ∧
      Policy.canned (baseUrl ++ link.storageKey) link.expiresAt = .ok policy ∧
      parts? link.url.toList = some parts ∧ parts.signature.length = key.size ∧
      Octets.ofNat key.size (Octets.toNat parts.signature ^ key.publicExponent % key.modulus) =
        Rsa.encodedMessage key.size (Text.Utf8.encode policy.toList) ∧
      (Rsa.encodedMessage key.size (Text.Utf8.encode policy.toList)).length = key.size := by
  have consistent := Rsa.PrivateKey.consistent_of_isAcceptable (Key.isAcceptable_of_load loaded)
  obtain ⟨link, signature, signed, stored, expires, issued⟩ :=
    exists_issued identity baseUrl keyPairId key ttl long enough reading inside
  obtain ⟨length, verifies⟩ := issued.pow_publicExponent consistent primeP primeQ enough
  have canned := Policy.canned_eq_ok_iff.mpr ⟨issued.inCalendar,
    (rfl : _ = String.ofList (link.policy baseUrl))⟩
  refine ⟨link, _, _, signed, stored, expires, canned, issued.parts?_url noAmp, length, ?_,
    Rsa.length_encodedMessage enough _⟩
  rw [String.toList_ofList]
  exact verifies

/-- A key of two Mersenne primes, loaded from its armoured text. -/
theorem sign_verifies_mersenneKey :
    ∃ pem link policy parts, Key.load pem = .ok .mersenneKey ∧
      sign (.text "abcdef") "https://files.example/?v=1&id=" "K1" (.rsa .mersenneKey) (.integer 600)
        (.integer 1700000000) = .ok link ∧
      Policy.canned ("https://files.example/?v=1&id=" ++ link.storageKey) link.expiresAt =
        .ok policy ∧
      parts? link.url.toList = some parts ∧
      Octets.ofNat 81 (Octets.toNat parts.signature ^ Rsa.PrivateKey.mersenneKey.publicExponent %
        Rsa.PrivateKey.mersenneKey.modulus) =
          Rsa.encodedMessage 81 (Text.Utf8.encode policy.toList) := by
  have accepted : Rsa.PrivateKey.mersenneKey.isAcceptable = true ∧ Key.Fits .mersenneKey :=
    ⟨Rsa.PrivateKey.mersenneKey_isAcceptable, by decide +kernel⟩
  have loaded := Key.load_armour .mersenneKey
  rw [if_pos accepted] at loaded
  obtain ⟨primeP, primeQ⟩ := Rsa.PrivateKey.prime_mersenneKey
  obtain ⟨link, policy, parts, signed, -, -, canned, apart, -, verifies, -⟩ :=
    @sign_verifies _ "abcdef" "https://files.example/?v=1&id=" "K1" .mersenneKey
      (.integer 1700000000) 600 1700000000 loaded primeP primeQ
      (by rw [Rsa.PrivateKey.size_mersenneKey]; decide) (by decide) (by decide)
      (.integer 1700000000) (by decide)
  rw [Rsa.PrivateKey.size_mersenneKey] at verifies
  exact ⟨_, link, policy, parts, loaded, signed, canned, apart, verifies⟩

end SignedLink.Link
