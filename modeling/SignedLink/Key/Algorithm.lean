import SignedLink.Curve.Standard
import SignedLink.Octets.Der
/-!
# SignedLink — algorithms of keys

Which algorithm a key is for is told by an object identifier, and most
algorithms come with parameters: the curve of a key, the group of a key, or
how a key is to be used. Here are the identifiers, the kinds of keys that
cannot sign links, and what parameters are taken.
-/

namespace SignedLink.Key

open Der

/-- The kinds of keys that cannot sign links. -/
inductive OtherKind where
  | ellipticCurve
  | ed25519
  | x25519
  | ed448
  | x448
  | dsa
  | diffieHellman
  | mlDsa44
  | mlDsa65
  | mlDsa87
  | mlKem768
  | mlKem1024
deriving DecidableEq

/-- The name of a kind in messages. -/
def OtherKind.name : OtherKind → String
  | .ellipticCurve => "ECPrivateKey"
  | .ed25519 => "Ed25519PrivateKey"
  | .x25519 => "X25519PrivateKey"
  | .ed448 => "Ed448PrivateKey"
  | .x448 => "X448PrivateKey"
  | .dsa => "DSAPrivateKey"
  | .diffieHellman => "DHPrivateKey"
  | .mlDsa44 => "MLDSA44PrivateKey"
  | .mlDsa65 => "MLDSA65PrivateKey"
  | .mlDsa87 => "MLDSA87PrivateKey"
  | .mlKem768 => "MLKEM768PrivateKey"
  | .mlKem1024 => "MLKEM1024PrivateKey"

/-! ## Object identifiers -/

def rsaIdentifier : List UInt8 := [0x2A, 0x86, 0x48, 0x86, 0xF7, 0x0D, 0x01, 0x01, 0x01]
def maskIdentifier : List UInt8 := [0x2A, 0x86, 0x48, 0x86, 0xF7, 0x0D, 0x01, 0x01, 0x08]
def rsaPssIdentifier : List UInt8 := [0x2A, 0x86, 0x48, 0x86, 0xF7, 0x0D, 0x01, 0x01, 0x0A]
def ellipticCurveIdentifier : List UInt8 := [0x2A, 0x86, 0x48, 0xCE, 0x3D, 0x02, 0x01]
def primeFieldIdentifier : List UInt8 := [0x2A, 0x86, 0x48, 0xCE, 0x3D, 0x01, 0x01]
def dsaIdentifier : List UInt8 := [0x2A, 0x86, 0x48, 0xCE, 0x38, 0x04, 0x01]
def agreementIdentifier : List UInt8 := [0x2A, 0x86, 0x48, 0x86, 0xF7, 0x0D, 0x01, 0x03, 0x01]
def subgroupAgreementIdentifier : List UInt8 := [0x2A, 0x86, 0x48, 0xCE, 0x3E, 0x02, 0x01]

/-- The hashes; the first of them is the usual one. -/
def hashIdentifiers : List (List UInt8) :=
  [0x2B, 0x0E, 0x03, 0x02, 0x1A] ::
    [1, 2, 3, 4, 7, 8, 9, 10].map fun n => [0x60, 0x86, 0x48, 0x01, 0x65, 0x03, 0x04, 0x02, n]

/-- The kinds whose key is a string of fixed length, with identifier and length. -/
def fixedLengthKinds : List (List UInt8 × OtherKind × Nat) :=
  [([0x2B, 0x65, 0x70], .ed25519, 32), ([0x2B, 0x65, 0x6E], .x25519, 32),
    ([0x2B, 0x65, 0x71], .ed448, 57), ([0x2B, 0x65, 0x6F], .x448, 56)]

/-- The kinds whose key is given by its seed, with identifier and length. -/
def seededKinds : List (List UInt8 × OtherKind × Nat) :=
  [([0x60, 0x86, 0x48, 0x01, 0x65, 0x03, 0x04, 0x03, 0x11], .mlDsa44, 32),
    ([0x60, 0x86, 0x48, 0x01, 0x65, 0x03, 0x04, 0x03, 0x12], .mlDsa65, 32),
    ([0x60, 0x86, 0x48, 0x01, 0x65, 0x03, 0x04, 0x03, 0x13], .mlDsa87, 32),
    ([0x60, 0x86, 0x48, 0x01, 0x65, 0x03, 0x04, 0x04, 0x02], .mlKem768, 64),
    ([0x60, 0x86, 0x48, 0x01, 0x65, 0x03, 0x04, 0x04, 0x03], .mlKem1024, 64)]

/-! ## Curves -/

/-- A standard curve written out in numbers, with or without its seed. -/
def curveNumbers (s : Curve.Standard) (seed : Option (List UInt8)) : List UInt8 :=
  let field (n : Nat) := element octetStringTag (Octets.ofNat s.curve.coordinateSize n)
  let seedString := (seed.map fun octets => element bitStringTag (0 :: octets)).getD []
  element sequenceTag
    (natural 1 ++
      element sequenceTag (element identifierTag primeFieldIdentifier ++ natural s.curve.prime) ++
      element sequenceTag (field s.curve.a ++ field s.curve.b ++ seedString) ++
      element octetStringTag (s.curve.plain s.curve.baseX s.curve.baseY) ++
      natural s.curve.order ++ natural 1)

/-- The forms in which a standard curve may be given: its identifier, and its numbers when the
curve was drawn from a seed. -/
def curveForms (s : Curve.Standard) : List (List UInt8) :=
  element identifierTag s.identifier ::
    (if s.seed.isSome then [curveNumbers s none, curveNumbers s s.seed] else [])

/-- The curve that parameters stand for. -/
def curve? (parameters : List UInt8) : Option Curve :=
  (Curve.standards.find? fun s => (curveForms s).contains parameters).map (·.curve)

/-! ## Groups -/

/-- The fewest and the most binary digits of the modulus of a group in which keys are agreed on. -/
def agreementBits : Nat × Nat := (512, 10000)

/-- Whether a number is the modulus of a group in which keys are agreed on. -/
def isAgreementModulus (p : Nat) : Bool :=
  p % 2 == 1 && decide (agreementBits.1 ≤ p.log2 + 1) && decide (p.log2 + 1 ≤ agreementBits.2)

/-- Whether parameters are a group: modulus, generator, and the length of keys or nothing. -/
def isAgreementGroup (parameters : List UInt8) : Bool :=
  match (expectOnly sequenceTag parameters).bind (readNaturals 2) with
  | some ([p, _], rest) =>
    isAgreementModulus p && (rest.isEmpty || (natural? rest).any (· < 0x100000000))
  | _ => false

/-- Whether parameters are a group with a subgroup: modulus, generator, order, and as far as given
the cofactor and how the group was made. -/
def isSubgroupAgreementGroup (parameters : List UInt8) : Bool :=
  match (expectOnly sequenceTag parameters).bind (readNaturals 3) with
  | some ([p, _, _], rest) =>
    let rest := ((readNatural rest).map (·.2)).getD rest
    isAgreementModulus p && (rest.isEmpty || (expectOnly sequenceTag rest).isSome)
  | _ => false

/-- Whether parameters are a group for signatures: modulus, order and generator. -/
def isSignatureGroup (parameters : List UInt8) : Bool :=
  match (expectOnly sequenceTag parameters).bind (readNaturals 3) with
  | some ([p, _, _], []) => decide (0 < p)
  | _ => false

/-! ## Padding -/

/-- An algorithm with null parameters. -/
def plainAlgorithm (identifier : List UInt8) : List UInt8 :=
  element sequenceTag (element identifierTag identifier ++ element nullTag [])

/-- The usual hash. -/
def usualHash : List UInt8 :=
  plainAlgorithm (hashIdentifiers.headD [])

/-- The usual way to make a mask, which uses the usual hash. -/
def usualMask : List UInt8 :=
  element sequenceTag (element identifierTag maskIdentifier ++ usualHash)

/-- Whether the octets are an algorithm. The parameters of a hash are null or nothing, those of
another algorithm one element or nothing. -/
def isAlgorithm (octets : List UInt8) : Bool :=
  match (expectOnly sequenceTag octets).bind (expect identifierTag) with
  | none => false
  | some (identifier, parameters) =>
    isIdentifier identifier &&
      (parameters.isEmpty ||
        if hashIdentifiers.contains identifier then parameters == element nullTag []
        else (readAny parameters).any (·.2.isEmpty))

/-- Whether the octets are a way to make a mask: an identifier and an algorithm. -/
def isMask (octets : List UInt8) : Bool :=
  match (expectOnly sequenceTag octets).bind (expect identifierTag) with
  | none => false
  | some (identifier, algorithm) => isIdentifier identifier && isAlgorithm algorithm

/-- The usual number of octets of salt. -/
def usualSalt : Nat := 20

/-- Whether parameters say how an RSA key is used with padding: hash, mask, salt and trailer, each
of which may be left out. What is usual is left out, except for the trailer. -/
def isPadding (parameters : List UInt8) : Bool :=
  let read := do
    let contents ← expectOnly sequenceTag parameters
    let (hash, rest) ← optionalAt (positionTag 0) contents
    let (mask, rest) ← optionalAt (positionTag 1) rest
    let (salt, rest) ← optionalAt (positionTag 2) rest
    let (trailer, rest) ← optionalAt (positionTag 3) rest
    some (hash.all (fun h => isAlgorithm h && h != usualHash) &&
      mask.all (fun m => isMask m && m != usualMask) &&
      salt.all (fun s => (natural? s).any fun n => decide (n < 0x10000) && n != usualSalt) &&
      trailer.all (fun t => (natural? t).any (· < 0x100)) && rest.isEmpty)
  read.getD false

end SignedLink.Key
