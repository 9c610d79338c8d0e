import SignedLink.Key.Algorithm
import SignedLink.Rsa.Key
/-!
# SignedLink — key structures

The DER structures that private keys come in: the general one, which names the
algorithm and wraps the key in an octet string, and the bare forms of RSA, DSA
and elliptic curves. `encode` writes an RSA key in the general structure and
`decode` reads a key of any known kind.

* `isAcceptable_of_decodeRsa`: no RSA key is read unless its numbers fit together.
-/

namespace SignedLink.Key

open Der

/-- A key that was read. -/
inductive Decoded where
  | rsa (key : Rsa.PrivateKey)
  | other (kind : OtherKind)
deriving DecidableEq

/-! ## Writing -/

/-- The bare form of an RSA key: version zero and the eight numbers. -/
def encodeRsa (key : Rsa.PrivateKey) : List UInt8 :=
  element sequenceTag
    (natural 0 ++ natural key.modulus ++ natural key.publicExponent ++
      natural key.privateExponent ++
      natural key.p ++ natural key.q ++ natural key.exponentP ++ natural key.exponentQ ++
      natural key.coefficient)

/-- The algorithm of RSA keys, with null parameters. -/
def rsaAlgorithm : List UInt8 :=
  element sequenceTag (element identifierTag rsaIdentifier ++ element nullTag [])

/-- An RSA key in the general structure, version zero. -/
def encode (key : Rsa.PrivateKey) : List UInt8 :=
  element sequenceTag (natural 0 ++ rsaAlgorithm ++ element octetStringTag (encodeRsa key))

/-! ## Reading -/

/-- The numbers of a bare RSA key of version zero, consistent or not. -/
def decodeRsaNumbers (octets : List UInt8) : Option Rsa.PrivateKey :=
  match expectOnly sequenceTag octets with
  | none => none
  | some contents =>
    match readNaturals 9 contents with
    | some ([0, modulus, publicExponent, privateExponent, p, q, exponentP, exponentQ, coefficient],
        []) =>
      some { modulus, publicExponent, privateExponent, p, q, exponentP, exponentQ, coefficient }
    | _ => none

/-- A bare RSA key with consistent numbers. -/
def decodeRsa (octets : List UInt8) : Option Decoded :=
  match decodeRsaNumbers octets with
  | some key => if key.isAcceptable then some (.rsa key) else none
  | none => none

/-- The parameters that a key is for, of those around it and those in it. Where both are given
they are the same. -/
def agreedParameters (outer inner : Option (List UInt8)) : Option (List UInt8) :=
  match outer, inner with
  | some outer, some inner => if outer = inner then some outer else none
  | outer, inner => outer.or inner

/-- A bare elliptic-curve key; `outer` holds the parameters of the general structure around it. The
scalar takes as many octets as the order of the curve, and the public point is its multiple. -/
def decodeEllipticCurve (outer : Option (List UInt8)) (octets : List UInt8) : Option Decoded := do
  let contents ← expectOnly sequenceTag octets
  let (version, rest) ← readNatural contents
  let (scalar, rest) ← expect octetStringTag rest
  let (inner, rest) ← optionalAt (positionTag 0) rest
  let (point, rest) ← optionalAt (positionTag 1) rest
  let parameters ← agreedParameters outer inner
  let curve ← curve? parameters
  let n := Octets.toNat scalar
  let isPublic (field : List UInt8) : Bool :=
    ((expectOnly bitStringTag field).bind bits?).any (curve.isPublicOf n)
  if version = 1 ∧ scalar.length = curve.scalarSize ∧ curve.isPrivate n ∧ point.all isPublic ∧
      rest = [] then
    some (.other .ellipticCurve)
  else none

/-- A bare DSA key: version zero, the group, the public and the private number. -/
def decodeDsa (octets : List UInt8) : Option Decoded :=
  match (expectOnly sequenceTag octets).bind (readNaturals 6) with
  | some ([0, _, _, _, _, _], []) => some (.other .dsa)
  | _ => none

/-- A key that is one natural number in a group. -/
def decodeNumber (kind : OtherKind) (isGroup : List UInt8 → Bool) (parameters octets : List UInt8) :
    Option Decoded :=
  if isGroup parameters ∧ (natural? octets).isSome then some (.other kind) else none

/-- A key that is a string of a fixed length under a tag. -/
def decodeString (kind : OtherKind) (tag : UInt8) (size : Nat) (parameters octets : List UInt8) :
    Option Decoded :=
  if parameters = [] ∧ (expectOnly tag octets).any (·.length == size) then some (.other kind)
  else none

/-- The tag of a seed. -/
def seedTag : UInt8 := 0x80

/-- The key of an algorithm, given its parameters, which may be empty. -/
def decodeAlgorithm (identifier parameters octets : List UInt8) : Option Decoded :=
  if identifier = rsaIdentifier then
    if parameters = [] ∨ parameters = element nullTag [] then decodeRsa octets else none
  else if identifier = rsaPssIdentifier then
    if parameters = [] ∨ isPadding parameters then decodeRsa octets else none
  else if identifier = ellipticCurveIdentifier then decodeEllipticCurve (some parameters) octets
  else if identifier = dsaIdentifier then decodeNumber .dsa isSignatureGroup parameters octets
  else if identifier = agreementIdentifier then
    decodeNumber .diffieHellman isAgreementGroup parameters octets
  else if identifier = subgroupAgreementIdentifier then
    decodeNumber .diffieHellman isSubgroupAgreementGroup parameters octets
  else
    match fixedLengthKinds.lookup identifier, seededKinds.lookup identifier with
    | some (kind, size), _ => decodeString kind octetStringTag size parameters octets
    | none, some (kind, size) => decodeString kind seedTag size parameters octets
    | none, none => none

/-- Whether an element is an attribute: an identifier and a set. -/
def isAttribute (octets : List UInt8) : Bool :=
  match (expectOnly sequenceTag octets).bind (expect identifierTag) with
  | some (identifier, rest) =>
    isIdentifier identifier && ((expectOnly setTag rest).bind set?).isSome
  | none => false

/-- Whether the contents of an attribute field are a set of attributes. -/
def areAttributes (octets : List UInt8) : Bool :=
  (set? octets).any (·.all isAttribute)

/-- A key in the general structure: version zero, algorithm, key, and attributes or nothing. -/
def decodeGeneral (octets : List UInt8) : Option Decoded := do
  let contents ← expectOnly sequenceTag octets
  let (version, rest) ← readNatural contents
  let (algorithm, rest) ← expect sequenceTag rest
  let (key, rest) ← expect octetStringTag rest
  let (identifier, parameters) ← expect identifierTag algorithm
  let (attributes, rest) ← optionalAt (positionTag 0) rest
  if version = 0 ∧ rest = [] ∧ attributes.all areAttributes then
    decodeAlgorithm identifier parameters key
  else none

/-- A key in the general structure or in a bare form. -/
def decode (octets : List UInt8) : Option Decoded :=
  match decodeGeneral octets with
  | some key => some key
  | none =>
    match decodeEllipticCurve none octets with
    | some key => some key
    | none => (decodeRsa octets).or (decodeDsa octets)

/-! ## Elementary facts -/

/-- A key is read from its bare form only if its numbers were accepted. -/
theorem isAcceptable_of_decodeRsa {octets : List UInt8} {key : Rsa.PrivateKey}
    (h : decodeRsa octets = some (.rsa key)) : key.isAcceptable = true := by
  unfold decodeRsa at h
  split at h
  · split at h
    · next accepted => cases h; exact accepted
    · simp at h
  · simp at h

end SignedLink.Key
