import SignedLink.Proofs.Octets.Base64
import SignedLink.Proofs.Text.Decimal
import SignedLink.Proofs.Text.Search
import SignedLink.Signing.Link
/-!
# SignedLink — an address and its parts

Composing an address and taking it apart. The resource may hold anything, also
text that looks like the parameters behind it, so an address is taken apart
from the right: the name of the key pair has no ampersand, the signature is
written in an alphabet without one, and a decimal numeral holds no letter, so
that each name is met first where it was put.

* `exists_of_mem_signatureText`: the characters of a signature in an address.
* `signatureOctets?_signatureText`: the octets of a signature are read back.
* `parts?_compose`: an address comes apart into what it was composed of.
-/

namespace SignedLink.Link

/-! ## The alphabet of signatures -/

/-- What stands in an address for a base64 character is none of `+`, `=`, `/` and `&`. -/
theorem substituteChar_plain {c : Char} (h : c ∈ Base64.characters) :
    substituteChar c ∉ ['+', '=', '/', '&'] := by
  have plain : Base64.characters.all
      (fun c => decide (substituteChar c ∉ ['+', '=', '/', '&'])) = true := by decide +kernel
  simpa using List.all_eq_true.mp plain c h

/-- The text of a signature holds only what stands for base64 characters. -/
theorem exists_of_mem_signatureText {signature : List UInt8} {c : Char}
    (mem : c ∈ signatureText signature) : ∃ d ∈ Base64.characters, substituteChar d = c := by
  obtain ⟨d, inText, same⟩ := List.mem_map.mp mem
  exact ⟨d, Base64.mem_characters inText, same⟩

/-- The text of a signature holds none of the characters that mean something in an address. -/
theorem not_mem_signatureText {signature : List UInt8} {c : Char}
    (special : c ∈ ['+', '=', '/', '&']) : c ∉ signatureText signature := by
  intro mem
  obtain ⟨d, character, rfl⟩ := exists_of_mem_signatureText mem
  exact substituteChar_plain character special

/-- The octets of a signature are read back from its text. -/
theorem signatureOctets?_signatureText (signature : List UInt8) :
    signatureOctets? (signatureText signature) = some signature := by
  have others : Base64.characters.all (fun c => c != '-' && c != '_' && c != '~') = true := by
    decide +kernel
  have restored : (signatureText signature).map restoreChar = Base64.encode signature := by
    rw [signatureText, List.map_map]
    refine (List.map_congr_left fun c inText => ?_).trans (List.map_id _)
    have holds := List.all_eq_true.mp others c (Base64.mem_characters inText)
    exact restoreChar_substituteChar (by simpa [and_assoc] using holds)
  rw [signatureOctets?, restored, Base64.decode_encode]

/-! ## Taking apart -/

variable (resource keyPairId : List Char) (expiresAt : Int) (signature : List UInt8)

/-- An address comes apart into what it was composed of. -/
theorem parts?_compose (noAmp : '&' ∉ keyPairId) :
    parts? (compose resource expiresAt signature keyPairId) =
      some { resource, separator := separator resource, expiresAt := Text.decimal expiresAt,
             signature, keyPairId } := by
  have shape : compose resource expiresAt signature keyPairId =
      resource ++ [separator resource] ++ expiresName ++ Text.decimal expiresAt ++ signatureName ++
        signatureText signature ++ keyPairName ++ keyPairId := by
    simp [compose]
  -- the names are looked for from the end, and none occurs in what stands behind it
  have keyPair : ∀ before, Text.splitLast? keyPairName (before ++ keyPairName ++ keyPairId) =
      some (before, keyPairId) := fun before =>
    Text.splitLast?_append '&' keyPairName.tail (by decide) noAmp
  have signed : ∀ before, Text.splitLast? signatureName (before ++ signatureName ++
      signatureText signature) = some (before, signatureText signature) := fun before =>
    Text.splitLast?_append '&' signatureName.tail (by decide)
      (not_mem_signatureText (by decide))
  have expires : ∀ before, Text.splitLast? expiresName (before ++ expiresName ++
      Text.decimal expiresAt) = some (before, Text.decimal expiresAt) := fun before =>
    Text.splitLast?_append 'E' expiresName.tail (by decide)
      (Text.not_mem_decimal (by decide) (by decide) expiresAt)
  rw [parts?, shape, keyPair]
  simp only [Option.bind_eq_bind, Option.bind_some]
  rw [signed]
  simp only [Option.bind_some]
  rw [expires]
  simp [signatureOctets?_signatureText]

end SignedLink.Link
