import SignedLink.Text.Hex
import SignedLink.Text.Utf8
/-!
# SignedLink — percent encoding

Addresses carry characters outside a class of safe ones as `%XX` for each
octet of their UTF-8 form. Decoding turns each `%` followed by two hexadecimal
digits into an octet, leaves a `%` that no two digits follow alone, and reads
the octets as UTF-8, with U+FFFD for what is ill-formed.

* `decodeOctets_of_no_percent`: a text without `%` stands for its own octets.
-/

namespace SignedLink.Text.Percent

/-- The octets that a percent-encoded text stands for. -/
def decodeOctets : List Char → List UInt8
  | '%' :: h :: l :: rest =>
    match hexValue? h, hexValue? l with
    | some a, some b => UInt8.ofNat (16 * a + b) :: decodeOctets rest
    | _, _ => Utf8.encode ['%'] ++ decodeOctets (h :: l :: rest)
  | c :: rest => String.utf8EncodeChar c ++ decodeOctets rest
  | [] => []

/-- The text that a percent-encoded text stands for. -/
def decode (cs : List Char) : List Char :=
  Utf8.decodeLossy (decodeOctets cs)

/-- Letters, digits and `_.-~`, which are never encoded. -/
def isUnreserved (c : Char) : Bool :=
  c.isAlphanum || "_.-~".toList.contains c

/-- The upper-case hexadecimal digit of a value below sixteen. -/
def upperHexDigit (n : Nat) : Char :=
  (hexDigit n).toUpper

/-- One octet as `%XX`. -/
def encodeOctet (b : UInt8) : List Char :=
  ['%', upperHexDigit (b.toNat / 16), upperHexDigit (b.toNat % 16)]

/-- One character: itself when safe, else its octets as `%XX`. -/
def encodeChar (safe : List Char) (c : Char) : List Char :=
  if isUnreserved c || safe.contains c then [c]
  else (String.utf8EncodeChar c).flatMap encodeOctet

/-- The text with all but unreserved and `safe` characters encoded. -/
def encode (safe : List Char) (cs : List Char) : List Char :=
  cs.flatMap (encodeChar safe)

/-! ## Elementary facts -/

/-- A text without `%` stands for its own octets. -/
theorem decodeOctets_of_no_percent {cs : List Char} (h : '%' ∉ cs) :
    decodeOctets cs = Utf8.encode cs := by
  fun_induction decodeOctets cs with
  | case1 => simp at h
  | case2 => simp at h
  | case3 c rest _ ih =>
    rw [ih (fun mem => h (List.mem_cons_of_mem _ mem))]
    rfl
  | case4 => rfl

end SignedLink.Text.Percent
