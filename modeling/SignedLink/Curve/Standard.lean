import SignedLink.Curve.Basic
/-!
# SignedLink — standard curves

The standard curves over prime fields, each with its object identifier. The
large numbers are given in words of 64 bits, the most significant first.
-/

namespace SignedLink.Curve

/-- The number that words of 64 bits spell. -/
def ofWords (words : List Nat) : Nat :=
  words.foldl (fun n word => 0x10000000000000000 * n + word) 0

/-- The random curve of 192 bits. -/
def p192 : Curve where
  prime := ofWords [0xFFFFFFFFFFFFFFFF, 0xFFFFFFFFFFFFFFFE, 0xFFFFFFFFFFFFFFFF]
  a := ofWords [0xFFFFFFFFFFFFFFFF, 0xFFFFFFFFFFFFFFFE, 0xFFFFFFFFFFFFFFFC]
  b := ofWords [0x64210519E59C80E7, 0xFA7E9AB72243049, 0xFEB8DEECC146B9B1]
  baseX := ofWords [0x188DA80EB03090F6, 0x7CBF20EB43A18800, 0xF4FF0AFD82FF1012]
  baseY := ofWords [0x7192B95FFC8DA78, 0x631011ED6B24CDD5, 0x73F977A11E794811]
  order := ofWords [0xFFFFFFFFFFFFFFFF, 0xFFFFFFFF99DEF836, 0x146BC9B1B4D22831]

/-- The random curve of 224 bits. -/
def p224 : Curve where
  prime := ofWords [0xFFFFFFFF, 0xFFFFFFFFFFFFFFFF, 0xFFFFFFFF00000000, 0x1]
  a := ofWords [0xFFFFFFFF, 0xFFFFFFFFFFFFFFFF, 0xFFFFFFFEFFFFFFFF, 0xFFFFFFFFFFFFFFFE]
  b := ofWords [0xB4050A85, 0xC04B3ABF5413256, 0x5044B0B7D7BFD8BA, 0x270B39432355FFB4]
  baseX := ofWords [0xB70E0CBD, 0x6BB4BF7F321390B9, 0x4A03C1D356C21122, 0x343280D6115C1D21]
  baseY := ofWords [0xBD376388, 0xB5F723FB4C22DFE6, 0xCD4375A05A074764, 0x44D5819985007E34]
  order := ofWords [0xFFFFFFFF, 0xFFFFFFFFFFFFFFFF, 0xFFFF16A2E0B8F03E, 0x13DD29455C5C2A3D]

/-- The random curve of 256 bits. -/
def p256 : Curve where
  prime := ofWords [0xFFFFFFFF00000001, 0x0, 0xFFFFFFFF, 0xFFFFFFFFFFFFFFFF]
  a := ofWords [0xFFFFFFFF00000001, 0x0, 0xFFFFFFFF, 0xFFFFFFFFFFFFFFFC]
  b := ofWords [0x5AC635D8AA3A93E7, 0xB3EBBD55769886BC, 0x651D06B0CC53B0F6, 0x3BCE3C3E27D2604B]
  baseX := ofWords [0x6B17D1F2E12C4247, 0xF8BCE6E563A440F2, 0x77037D812DEB33A0, 0xF4A13945D898C296]
  baseY := ofWords [0x4FE342E2FE1A7F9B, 0x8EE7EB4A7C0F9E16, 0x2BCE33576B315ECE, 0xCBB6406837BF51F5]
  order := ofWords [0xFFFFFFFF00000000, 0xFFFFFFFFFFFFFFFF, 0xBCE6FAADA7179E84, 0xF3B9CAC2FC632551]

/-- The random curve of 384 bits. -/
def p384 : Curve where
  prime :=
    ofWords [0xFFFFFFFFFFFFFFFF, 0xFFFFFFFFFFFFFFFF, 0xFFFFFFFFFFFFFFFF, 0xFFFFFFFFFFFFFFFE,
      0xFFFFFFFF00000000, 0xFFFFFFFF]
  a :=
    ofWords [0xFFFFFFFFFFFFFFFF, 0xFFFFFFFFFFFFFFFF, 0xFFFFFFFFFFFFFFFF, 0xFFFFFFFFFFFFFFFE,
      0xFFFFFFFF00000000, 0xFFFFFFFC]
  b :=
    ofWords [0xB3312FA7E23EE7E4, 0x988E056BE3F82D19, 0x181D9C6EFE814112, 0x314088F5013875A,
      0xC656398D8A2ED19D, 0x2A85C8EDD3EC2AEF]
  baseX :=
    ofWords [0xAA87CA22BE8B0537, 0x8EB1C71EF320AD74, 0x6E1D3B628BA79B98, 0x59F741E082542A38,
      0x5502F25DBF55296C, 0x3A545E3872760AB7]
  baseY :=
    ofWords [0x3617DE4A96262C6F, 0x5D9E98BF9292DC29, 0xF8F41DBD289A147C, 0xE9DA3113B5F0B8C0,
      0xA60B1CE1D7E819D, 0x7A431D7C90EA0E5F]
  order :=
    ofWords [0xFFFFFFFFFFFFFFFF, 0xFFFFFFFFFFFFFFFF, 0xFFFFFFFFFFFFFFFF, 0xC7634D81F4372DDF,
      0x581A0DB248B0A77A, 0xECEC196ACCC52973]

/-- The random curve of 521 bits. -/
def p521 : Curve where
  prime :=
    ofWords [0x1FF, 0xFFFFFFFFFFFFFFFF, 0xFFFFFFFFFFFFFFFF, 0xFFFFFFFFFFFFFFFF, 0xFFFFFFFFFFFFFFFF,
      0xFFFFFFFFFFFFFFFF, 0xFFFFFFFFFFFFFFFF, 0xFFFFFFFFFFFFFFFF, 0xFFFFFFFFFFFFFFFF]
  a :=
    ofWords [0x1FF, 0xFFFFFFFFFFFFFFFF, 0xFFFFFFFFFFFFFFFF, 0xFFFFFFFFFFFFFFFF, 0xFFFFFFFFFFFFFFFF,
      0xFFFFFFFFFFFFFFFF, 0xFFFFFFFFFFFFFFFF, 0xFFFFFFFFFFFFFFFF, 0xFFFFFFFFFFFFFFFC]
  b :=
    ofWords [0x51, 0x953EB9618E1C9A1F, 0x929A21A0B68540EE, 0xA2DA725B99B315F3, 0xB8B489918EF109E1,
      0x56193951EC7E937B, 0x1652C0BD3BB1BF07, 0x3573DF883D2C34F1, 0xEF451FD46B503F00]
  baseX :=
    ofWords [0xC6, 0x858E06B70404E9CD, 0x9E3ECB662395B442, 0x9C648139053FB521, 0xF828AF606B4D3DBA,
      0xA14B5E77EFE75928, 0xFE1DC127A2FFA8DE, 0x3348B3C1856A429B, 0xF97E7E31C2E5BD66]
  baseY :=
    ofWords [0x118, 0x39296A789A3BC004, 0x5C8A5FB42C7D1BD9, 0x98F54449579B4468, 0x17AFBD17273E662C,
      0x97EE72995EF42640, 0xC550B9013FAD0761, 0x353C7086A272C240, 0x88BE94769FD16650]
  order :=
    ofWords [0x1FF, 0xFFFFFFFFFFFFFFFF, 0xFFFFFFFFFFFFFFFF, 0xFFFFFFFFFFFFFFFF, 0xFFFFFFFFFFFFFFFA,
      0x51868783BF2F966B, 0x7FCC0148F709A5D0, 0x3BB5C9B8899C47AE, 0xBB6FB71E91386409]

/-- The curve of 256 bits with an endomorphism. -/
def k256 : Curve where
  prime := ofWords [0xFFFFFFFFFFFFFFFF, 0xFFFFFFFFFFFFFFFF, 0xFFFFFFFFFFFFFFFF, 0xFFFFFFFEFFFFFC2F]
  a := 0
  b := 0x7
  baseX := ofWords [0x79BE667EF9DCBBAC, 0x55A06295CE870B07, 0x29BFCDB2DCE28D9, 0x59F2815B16F81798]
  baseY := ofWords [0x483ADA7726A3C465, 0x5DA4FBFC0E1108A8, 0xFD17B448A6855419, 0x9C47D08FFB10D4B8]
  order := ofWords [0xFFFFFFFFFFFFFFFF, 0xFFFFFFFFFFFFFFFE, 0xBAAEDCE6AF48A03B, 0xBFD25E8CD0364141]

/-- The verifiably random curve of 256 bits over a random prime. -/
def b256 : Curve where
  prime := ofWords [0xA9FB57DBA1EEA9BC, 0x3E660A909D838D72, 0x6E3BF623D5262028, 0x2013481D1F6E5377]
  a := ofWords [0x7D5A0975FC2C3057, 0xEEF67530417AFFE7, 0xFB8055C126DC5C6C, 0xE94A4B44F330B5D9]
  b := ofWords [0x26DC5C6CE94A4B44, 0xF330B5D9BBD77CBF, 0x958416295CF7E1CE, 0x6BCCDC18FF8C07B6]
  baseX := ofWords [0x8BD2AEB9CB7E57CB, 0x2C4B482FFC81B7AF, 0xB9DE27E1E3BD23C2, 0x3A4453BD9ACE3262]
  baseY := ofWords [0x547EF835C3DAC4FD, 0x97F8461A14611DC9, 0xC27745132DED8E54, 0x5C1D54C72F046997]
  order := ofWords [0xA9FB57DBA1EEA9BC, 0x3E660A909D838D71, 0x8C397AA3B561A6F7, 0x901E0E82974856A7]

/-- The verifiably random curve of 384 bits over a random prime. -/
def b384 : Curve where
  prime :=
    ofWords [0x8CB91E82A3386D28, 0xF5D6F7E50E641DF, 0x152F7109ED5456B4, 0x12B1DA197FB71123,
      0xACD3A729901D1A71, 0x874700133107EC53]
  a :=
    ofWords [0x7BC382C63D8C150C, 0x3C72080ACE05AFA0, 0xC2BEA28E4FB22787, 0x139165EFBA91F90F,
      0x8AA5814A503AD4EB, 0x4A8C7DD22CE2826]
  b :=
    ofWords [0x4A8C7DD22CE2826, 0x8B39B55416F0447C, 0x2FB77DE107DCD2A6, 0x2E880EA53EEB62D5,
      0x7CB4390295DBC994, 0x3AB78696FA504C11]
  baseX :=
    ofWords [0x1D1C64F068CF45FF, 0xA2A63A81B7C13F6B, 0x8847A3E77EF14FE3, 0xDB7FCAFE0CBD10E8,
      0xE826E03436D646AA, 0xEF87B2E247D4AF1E]
  baseY :=
    ofWords [0x8ABE1D7520F9C2A4, 0x5CB1EB8E95CFD552, 0x62B70B29FEEC5864, 0xE19C054FF9912928,
      0xE46462177918111, 0x42820341263C5315]
  order :=
    ofWords [0x8CB91E82A3386D28, 0xF5D6F7E50E641DF, 0x152F7109ED5456B3, 0x1F166E6CAC0425A7,
      0xCF3AB6AF6B7FC310, 0x3B883202E9046565]

/-- The verifiably random curve of 512 bits over a random prime. -/
def b512 : Curve where
  prime :=
    ofWords [0xAADD9DB8DBE9C48B, 0x3FD4E6AE33C9FC07, 0xCB308DB3B3C9D20E, 0xD6639CCA70330871,
      0x7D4D9B009BC66842, 0xAECDA12AE6A380E6, 0x2881FF2F2D82C685, 0x28AA6056583A48F3]
  a :=
    ofWords [0x7830A3318B603B89, 0xE2327145AC234CC5, 0x94CBDD8D3DF91610, 0xA83441CAEA9863BC,
      0x2DED5D5AA8253AA1, 0xA2EF1C98B9AC8B5, 0x7F1117A72BF2C7B9, 0xE7C1AC4D77FC94CA]
  b :=
    ofWords [0x3DF91610A83441CA, 0xEA9863BC2DED5D5A, 0xA8253AA10A2EF1C9, 0x8B9AC8B57F1117A7,
      0x2BF2C7B9E7C1AC4D, 0x77FC94CADC083E67, 0x984050B75EBAE5DD, 0x2809BD638016F723]
  baseX :=
    ofWords [0x81AEE4BDD82ED964, 0x5A21322E9C4C6A93, 0x85ED9F70B5D916C1, 0xB43B62EEF4D0098E,
      0xFF3B1F78E2D0D48D, 0x50D1687B93B97D5F, 0x7C6D5047406A5E68, 0x8B352209BCB9F822]
  baseY :=
    ofWords [0x7DDE385D566332EC, 0xC0EABFA9CF7822FD, 0xF209F70024A57B1A, 0xA000C55B881F8111,
      0xB2DCDE494A5F485E, 0x5BCA4BD88A2763AE, 0xD1CA2B2FA8F05406, 0x78CD1E0F3AD80892]
  order :=
    ofWords [0xAADD9DB8DBE9C48B, 0x3FD4E6AE33C9FC07, 0xCB308DB3B3C9D20E, 0xD6639CCA70330870,
      0x553E5C414CA92619, 0x418661197FAC1047, 0x1DB1D381085DDADD, 0xB58796829CA90069]

/-- A curve that is known by name. -/
structure Standard where
  /-- the contents of its object identifier -/
  identifier : List UInt8
  curve : Curve
  /-- the octets from which the curve was drawn, of the curves that may also be given by numbers -/
  seed : Option (List UInt8)
deriving DecidableEq

/-- The standard curves. -/
def standards : List Standard :=
  [⟨[0x2A, 0x86, 0x48, 0xCE, 0x3D, 0x03, 0x01, 0x01], p192, none⟩,
    ⟨[0x2A, 0x86, 0x48, 0xCE, 0x3D, 0x03, 0x01, 0x07], p256,
      some [0xC4, 0x9D, 0x36, 0x08, 0x86, 0xE7, 0x04, 0x93, 0x6A, 0x66, 0x78, 0xE1, 0x13, 0x9D,
        0x26, 0xB7, 0x81, 0x9F, 0x7E, 0x90]⟩,
    ⟨[0x2B, 0x81, 0x04, 0x00, 0x0A], k256, none⟩,
    ⟨[0x2B, 0x81, 0x04, 0x00, 0x21], p224, none⟩,
    ⟨[0x2B, 0x81, 0x04, 0x00, 0x22], p384,
      some [0xA3, 0x35, 0x92, 0x6A, 0xA3, 0x19, 0xA2, 0x7A, 0x1D, 0x00, 0x89, 0x6A, 0x67, 0x73,
        0xA4, 0x82, 0x7A, 0xCD, 0xAC, 0x73]⟩,
    ⟨[0x2B, 0x81, 0x04, 0x00, 0x23], p521,
      some [0xD0, 0x9E, 0x88, 0x00, 0x29, 0x1C, 0xB8, 0x53, 0x96, 0xCC, 0x67, 0x17, 0x39, 0x32,
        0x84, 0xAA, 0xA0, 0xDA, 0x64, 0xBA]⟩,
    ⟨[0x2B, 0x24, 0x03, 0x03, 0x02, 0x08, 0x01, 0x01, 0x07], b256, none⟩,
    ⟨[0x2B, 0x24, 0x03, 0x03, 0x02, 0x08, 0x01, 0x01, 0x0B], b384, none⟩,
    ⟨[0x2B, 0x24, 0x03, 0x03, 0x02, 0x08, 0x01, 0x01, 0x0D], b512, none⟩]

end SignedLink.Curve
