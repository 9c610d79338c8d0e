import SignedLink.Octets.Sha1
import SignedLink.Rsa.Key
/-!
# SignedLink — RSA signatures

Signatures in the PKCS #1 v1.5 scheme with SHA-1: the hash, with a description
of the hash function in front, is filled up to the length of the modulus and
raised to the private exponent.

* `length_encodedMessage`: the filled-up message is as long as the modulus.
* `length_sign?`: so is the signature.
-/

namespace SignedLink.Rsa

/-- The description of SHA-1 that stands before the hash. -/
def hashDescription : List UInt8 :=
  [0x30, 0x21, 0x30, 0x09, 0x06, 0x05, 0x2B, 0x0E, 0x03, 0x02, 0x1A, 0x05, 0x00, 0x04, 0x14]

/-- The described hash of a message. -/
def describedHash (message : List UInt8) : List UInt8 :=
  hashDescription ++ Sha1.hash message

/-- The shortest modulus, in octets, that a filled-up hash fits into: eleven octets of filling. -/
def leastSize : Nat := 46

/-- The message to be raised: `00 01 FF … FF 00` and the described hash. -/
def encodedMessage (size : Nat) (message : List UInt8) : List UInt8 :=
  [0x00, 0x01] ++ List.replicate (size - (describedHash message).length - 3) 0xFF ++ [0x00] ++
    describedHash message

/-- The signature of a message; there is none when the modulus is too short. -/
def sign? (key : PrivateKey) (message : List UInt8) : Option (List UInt8) :=
  if key.size < leastSize then none
  else
    let m := Octets.toNat (encodedMessage key.size message)
    some (Octets.ofNat key.size (powMod m key.privateExponent key.modulus))

/-! ## Elementary facts -/

@[simp] theorem length_describedHash (message : List UInt8) :
    (describedHash message).length = 35 := by
  simp [describedHash, hashDescription]

/-- The filled-up message is as long as the modulus. -/
theorem length_encodedMessage {size : Nat} (enough : leastSize ≤ size) (message : List UInt8) :
    (encodedMessage size message).length = size := by
  simp [encodedMessage, leastSize] at enough ⊢
  omega

/-- A signature exists exactly when the modulus is long enough. -/
theorem sign?_eq_none_iff {key : PrivateKey} {message : List UInt8} :
    sign? key message = none ↔ key.size < leastSize := by
  simp [sign?]

/-- A signature is as long as the modulus. -/
theorem length_sign? {key : PrivateKey} {message signature : List UInt8}
    (h : sign? key message = some signature) : signature.length = key.size := by
  unfold sign? at h
  split at h
  · simp at h
  · rw [← Option.some.inj h, Octets.length_ofNat]

end SignedLink.Rsa
