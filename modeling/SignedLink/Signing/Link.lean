import SignedLink.Octets.Base64
import SignedLink.Rsa.Signature
import SignedLink.Signing.Policy
import SignedLink.Signing.StorageKey
import SignedLink.Text.Search
import SignedLink.Text.Utf8
import SignedLink.Value.Numeral
/-!
# SignedLink — signed links

A signed link is the address of a resource with three parameters: the time up
to which it is allowed, the signature of the canned policy, and the name of
the key pair. `Link.sign` makes one, and `Link.parts?` takes one apart, from
the right, since the resource may hold anything.

* `restoreChar_substituteChar`: the characters that stand for `+`, `=` and `/` can be undone.
-/

namespace SignedLink

/-- A key to sign with, as the host holds it. -/
inductive SigningKey where
  | rsa (key : Rsa.PrivateKey)
  /-- an RSA key behind a device that refuses to sign, and the reason it gives -/
  | refusing (reason : String)
  /-- something that is no RSA key, by the name of its kind -/
  | other (typeName : String)
deriving DecidableEq

/-- Whether the key is an RSA key. -/
def SigningKey.isRsa : SigningKey → Bool
  | .other _ => false
  | _ => true

/-- The binary digits of the modulus, where it is known. -/
def SigningKey.bits? : SigningKey → Option Nat
  | .rsa key => some key.bits
  | _ => none

/-- Why a policy was not signed. -/
inductive SigningCause where
  /-- the expiry is not in the calendar -/
  | expiry (fault : Fault)
  /-- the modulus is too short for the hash -/
  | shortModulus
  | refused (reason : String)
deriving DecidableEq

/-- The message of a cause. -/
def SigningCause.message : SigningCause → String
  | .expiry fault => fault.message
  | .shortModulus =>
    "Digest or salt length too long for key size. Use a larger key or shorter salt length " ++
      "if you are specifying a PSS salt"
  | .refused reason => reason

/-- Why there is no link. -/
inductive SigningError where
  | identity (error : IdentityError)
  /-- the time or the validity is no number -/
  | number (fault : Fault)
  /-- the key is no RSA key -/
  | notRsa (typeName : String)
  /-- the policy for a storage key was not signed -/
  | unsigned (storageKey : String) (cause : SigningCause)
deriving DecidableEq

/-- The message of an error. -/
def SigningError.message : SigningError → String
  | .identity error => error.message
  | .number fault => fault.message
  | .notRsa typeName => "CloudFront signing needs an RSA private key, got " ++ typeName
  | .unsigned storageKey cause => "Unable to sign " ++ storageKey ++ ": " ++ cause.message

/-- A signed link. -/
structure Link where
  url : String
  /-- the second up to which the link is allowed -/
  expiresAt : Int
  storageKey : String
deriving DecidableEq

namespace Link

/-! ## Signatures in addresses -/

/-- The character that stands for a base64 character in an address. -/
def substituteChar (c : Char) : Char :=
  if c == '+' then '-' else if c == '=' then '_' else if c == '/' then '~' else c

/-- The base64 character that an address character stands for. -/
def restoreChar (c : Char) : Char :=
  if c == '-' then '+' else if c == '_' then '=' else if c == '~' then '/' else c

/-- Octets as text for an address. -/
def signatureText (signature : List UInt8) : List Char :=
  (Base64.encode signature).map substituteChar

/-- The octets that a text in an address stands for. -/
def signatureOctets? (cs : List Char) : Option (List UInt8) :=
  match Base64.decode (cs.map restoreChar) with
  | .ok octets => some octets
  | .error _ => none

/-! ## Composing -/

def expiresName : List Char := "Expires=".toList
def signatureName : List Char := "&Signature=".toList
def keyPairName : List Char := "&Key-Pair-Id=".toList

/-- What separates the parameters from the resource. -/
def separator (resource : List Char) : Char :=
  if resource.contains '?' then '&' else '?'

/-- The address of a link. -/
def compose (resource : List Char) (expiresAt : Int) (signature : List UInt8)
    (keyPairId : List Char) : List Char :=
  resource ++ separator resource :: (expiresName ++ Text.decimal expiresAt ++ signatureName ++
    signatureText signature ++ keyPairName ++ keyPairId)

/-! ## Taking apart -/

/-- The parts of a link's address. -/
structure Parts where
  resource : List Char
  /-- the character before the parameters -/
  separator : Char
  expiresAt : List Char
  signature : List UInt8
  keyPairId : List Char
deriving DecidableEq

/-- Splits an address at the last name of the key pair, then at the last name of the signature,
then at the last name of the expiry with the one character before it. -/
def parts? (url : List Char) : Option Parts := do
  let (rest, keyPairId) ← Text.splitLast? keyPairName url
  let (rest, signature) ← Text.splitLast? signatureName rest
  let (rest, expiresAt) ← Text.splitLast? expiresName rest
  let separator ← rest.getLast?
  let signature ← signatureOctets? signature
  some { resource := rest.dropLast, separator, expiresAt, signature, keyPairId }

/-! ## Signing -/

/-- The signature of a policy. -/
def signPolicy (key : SigningKey) (policy : List Char) : Except SigningCause (List UInt8) :=
  match key with
  | .rsa key =>
    match Rsa.sign? key (Text.Utf8.encode policy) with
    | some signature => .ok signature
    | none => .error .shortModulus
  | .refusing reason => .error (.refused reason)
  | .other _ => .error .shortModulus

/-- The address that allows a resource up to a time. -/
def address (resource : String) (keyPairId : String) (key : SigningKey) (expiresAt : Int) :
    Except SigningCause String :=
  match Policy.expiry expiresAt with
  | .error fault => .error (.expiry fault)
  | .ok t =>
    match signPolicy key (Policy.text resource t) with
    | .error cause => .error cause
    | .ok signature => .ok (.ofList (compose resource.toList t signature keyPairId.toList))

/-- Signs the link of an identity under a base address, valid from now for a number of seconds. The
identity is looked at first, then the time, the validity, the kind of key, and last the policy. -/
def sign (identity : Value) (baseUrl keyPairId : String) (key : SigningKey) (ttl now : Value) :
    Except SigningError Link :=
  match StorageKey.ofValue identity with
  | .error error => .error (.identity error)
  | .ok storageKey =>
    match now.toInteger with
    | .error fault => .error (.number fault)
    | .ok start =>
      match ttl.toInteger with
      | .error fault => .error (.number fault)
      | .ok seconds =>
        match key with
        | .other typeName => .error (.notRsa typeName)
        | key =>
          let expiresAt := start + seconds
          match address (baseUrl ++ storageKey) keyPairId key expiresAt with
          | .error cause => .error (.unsigned storageKey cause)
          | .ok url => .ok { url, expiresAt, storageKey }

/-! ## Elementary facts -/

/-- On base64 text the substitution can be undone. -/
theorem restoreChar_substituteChar {c : Char} (h : c ≠ '-' ∧ c ≠ '_' ∧ c ≠ '~') :
    restoreChar (substituteChar c) = c := by
  obtain ⟨hyphen, underscore, tilde⟩ := h
  unfold substituteChar
  split
  · next e => rw [eq_of_beq e]; rfl
  · split
    · next e => rw [eq_of_beq e]; rfl
    · split
      · next e => rw [eq_of_beq e]; rfl
      · simp [restoreChar, hyphen, underscore, tilde]

end Link

end SignedLink
