/-!
# SignedLink — base64

Encoding with padding, and strict decoding: only the alphabet and padding
occur, padding ends the text, and the number of digits fits. The unused low
bits of a last digit are not looked at, and padding after a whole number of
groups is let through.

* `decode_encode`: what was encoded decodes.
* `digit?_digitChar`: a digit reads back as its value.
-/

namespace SignedLink.Base64

/-- The alphabet in the order of the values. -/
def alphabet : List Char :=
  "ABCDEFGHIJKLMNOPQRSTUVWXYZabcdefghijklmnopqrstuvwxyz0123456789+/".toList

/-- The digit of a value below 64. -/
def digitChar (n : Nat) : Char :=
  alphabet.getD n 'A'

/-- The value of a digit. -/
def digit? (c : Char) : Option Nat :=
  let n := c.toNat
  if 65 ≤ n ∧ n ≤ 90 then some (n - 65)
  else if 97 ≤ n ∧ n ≤ 122 then some (n - 71)
  else if 48 ≤ n ∧ n ≤ 57 then some (n + 4)
  else if n = 43 then some 62
  else if n = 47 then some 63
  else none

/-! ## Encoding -/

/-- Groups of three octets become four digits, a last group of one or two is padded. -/
def encode : List UInt8 → List Char
  | [] => []
  | [a] =>
    [digitChar (a.toNat / 4), digitChar (a.toNat % 4 * 16), '=', '=']
  | [a, b] =>
    [digitChar (a.toNat / 4), digitChar (a.toNat % 4 * 16 + b.toNat / 16),
      digitChar (b.toNat % 16 * 4), '=']
  | a :: b :: c :: rest =>
    digitChar (a.toNat / 4) :: digitChar (a.toNat % 4 * 16 + b.toNat / 16) ::
      digitChar (b.toNat % 16 * 4 + c.toNat / 64) :: digitChar (c.toNat % 64) :: encode rest

/-! ## Decoding -/

/-- Why a text is no base64. -/
inductive Flaw where
  | notAscii
  | leadingPadding
  | excessData
  | notInAlphabet
  | discontinuousPadding
  /-- one digit too many, with the number of digits -/
  | loneDigit (digits : Nat)
  | incorrectPadding
deriving DecidableEq

/-- The words for a flaw. -/
def Flaw.words : Flaw → String
  | .notAscii => "string argument should contain only ASCII characters"
  | .leadingPadding => "Leading padding not allowed"
  | .excessData => "Excess data after padding"
  | .notInAlphabet => "Only base64 data is allowed"
  | .discontinuousPadding => "Discontinuous padding not allowed"
  | .loneDigit digits =>
    "Invalid base64-encoded string: number of data characters (" ++ toString digits ++
      ") cannot be 1 more than a multiple of 4"
  | .incorrectPadding => "Incorrect padding"

/-- What is known between two characters. -/
structure State where
  /-- the digits read so far -/
  count : Nat
  /-- the bits of the last digit that have not gone into an octet -/
  carry : Nat
  /-- the paddings since the last digit that can complete a group -/
  pads : Nat
  /-- whether any padding has been read -/
  padded : Bool

/-- The octets that one more digit completes. -/
def State.octets (s : State) (d : Nat) : List UInt8 :=
  match s.count % 4 with
  | 0 => []
  | 1 => [UInt8.ofNat (s.carry * 4 + d / 16)]
  | 2 => [UInt8.ofNat (s.carry * 16 + d / 4)]
  | _ => [UInt8.ofNat (s.carry * 64 + d)]

/-- The state after one more digit. -/
def State.push (s : State) (d : Nat) : State :=
  let carry :=
    match s.count % 4 with
    | 0 => d
    | 1 => d % 16
    | 2 => d % 4
    | _ => 0
  { s with count := s.count + 1, carry, pads := 0 }

/-- Reads on from a state. -/
def decodeFrom (s : State) : List Char → Except Flaw (List UInt8)
  | [] =>
    match s.count % 4 with
    | 0 => .ok []
    | 1 => .error (.loneDigit s.count)
    | _ => .error .incorrectPadding
  | c :: rest =>
    if c == '=' then
      if 2 ≤ s.count % 4 then
        if 4 ≤ s.count % 4 + s.pads + 1 then
          if rest.isEmpty then .ok [] else .error .excessData
        else decodeFrom { s with pads := s.pads + 1, padded := true } rest
      else decodeFrom { s with padded := true } rest
    else
      match digit? c with
      | none => .error .notInAlphabet
      | some d =>
        if s.padded then .error .discontinuousPadding
        else
          match decodeFrom (s.push d) rest with
          | .ok octets => .ok (s.octets d ++ octets)
          | .error flaw => .error flaw

/-- The state before the first character. -/
def State.start : State := ⟨0, 0, 0, false⟩

/-- The octets of a base64 text. -/
def decode (cs : List Char) : Except Flaw (List UInt8) :=
  if cs.any fun c => decide (127 < c.toNat) then .error .notAscii
  else if cs.head? == some '=' then .error .leadingPadding
  else decodeFrom .start cs

/-! ## Decoding undoes encoding -/

/-- A digit reads back as its value. -/
theorem digit?_digitChar : ∀ n < 64, digit? (digitChar n) = some n := by
  decide +kernel

/-- A digit is no padding. -/
theorem digitChar_ne_pad : ∀ n < 64, (digitChar n == '=') = false := by
  decide +kernel

private theorem ascii_digitChar : ∀ n < 64, ¬ 127 < (digitChar n).toNat := by
  decide +kernel

/-- Reading one digit outside padding. -/
private theorem decodeFrom_digit {s : State} {n : Nat} {rest : List Char} (small : n < 64)
    (unpadded : s.padded = false) :
    decodeFrom s (digitChar n :: rest) = (decodeFrom (s.push n) rest).map (s.octets n ++ ·) := by
  rw [decodeFrom, digitChar_ne_pad n small, digit?_digitChar n small]
  simp only [unpadded, Bool.false_eq_true, if_false]
  cases decodeFrom (s.push n) rest <;> rfl

private theorem ofNat_toNat_of_eq {b : UInt8} {n : Nat} (h : n = b.toNat) : UInt8.ofNat n = b := by
  rw [h, UInt8.ofNat_toNat]

/-- Decoding undoes encoding, between groups. -/
private theorem decodeFrom_encode (octets : List UInt8) :
    ∀ s : State, s.count % 4 = 0 → s.pads = 0 → s.padded = false →
      decodeFrom s (encode octets) = .ok octets := by
  fun_induction encode octets with
  | case1 =>
    intro s count _ _
    simp [decodeFrom, count]
  | case2 a =>
    intro s count pads unpadded
    have ha := a.toNat_lt
    have second : (s.count + 1) % 4 = 1 := by omega
    have third : (s.count + 1 + 1) % 4 = 2 := by omega
    rw [decodeFrom_digit (by omega) unpadded, decodeFrom_digit (s := s.push _) (by omega) unpadded]
    simp [decodeFrom, State.push, State.octets, Except.map, count, second, third,
      -UInt8.ofNat_add, -UInt8.ofNat_mul]
    refine ofNat_toNat_of_eq ?_
    grind
  | case3 a b =>
    intro s count pads unpadded
    have ha := a.toNat_lt
    have hb := b.toNat_lt
    have second : (s.count + 1) % 4 = 1 := by omega
    have third : (s.count + 1 + 1) % 4 = 2 := by omega
    have fourth : (s.count + 1 + 1 + 1) % 4 = 3 := by omega
    rw [decodeFrom_digit (by omega) unpadded, decodeFrom_digit (s := s.push _) (by omega) unpadded,
      decodeFrom_digit (s := (s.push _).push _) (by omega) unpadded]
    simp [decodeFrom, State.push, State.octets, Except.map, count, second, third, fourth,
      -UInt8.ofNat_add, -UInt8.ofNat_mul]
    refine ⟨ofNat_toNat_of_eq ?_, ofNat_toNat_of_eq ?_⟩ <;> grind
  | case4 a b c rest ih =>
    intro s count pads unpadded
    have ha := a.toNat_lt
    have hb := b.toNat_lt
    have hc := c.toNat_lt
    have second : (s.count + 1) % 4 = 1 := by omega
    have third : (s.count + 1 + 1) % 4 = 2 := by omega
    have fourth : (s.count + 1 + 1 + 1) % 4 = 3 := by omega
    rw [decodeFrom_digit (by omega) unpadded, decodeFrom_digit (s := s.push _) (by omega) unpadded,
      decodeFrom_digit (s := (s.push _).push _) (by omega) unpadded,
      decodeFrom_digit (s := ((s.push _).push _).push _) (by omega) unpadded,
      ih ((((s.push _).push _).push _).push _) (by simp only [State.push]; omega) rfl unpadded]
    simp [State.push, State.octets, Except.map, count, second, third, fourth,
      -UInt8.ofNat_add, -UInt8.ofNat_mul]
    refine ⟨ofNat_toNat_of_eq ?_, ofNat_toNat_of_eq ?_, ofNat_toNat_of_eq ?_⟩ <;> grind

/-- An encoded text holds digits and padding only. -/
theorem mem_encode {octets : List UInt8} {c : Char} (h : c ∈ encode octets) :
    c = '=' ∨ ∃ n < 64, c = digitChar n := by
  fun_induction encode octets with
  | case1 => simp at h
  | case2 a =>
    have ha := a.toNat_lt
    simp at h
    rcases h with rfl | rfl | rfl
    · exact .inr ⟨_, by omega, rfl⟩
    · exact .inr ⟨_, by omega, rfl⟩
    · exact .inl rfl
  | case3 a b =>
    have ha := a.toNat_lt
    have hb := b.toNat_lt
    simp at h
    rcases h with rfl | rfl | rfl | rfl
    · exact .inr ⟨_, by omega, rfl⟩
    · exact .inr ⟨_, by omega, rfl⟩
    · exact .inr ⟨_, by omega, rfl⟩
    · exact .inl rfl
  | case4 a b d rest ih =>
    have ha := a.toNat_lt
    have hb := b.toNat_lt
    have hd := d.toNat_lt
    simp at h
    rcases h with rfl | rfl | rfl | rfl | h
    · exact .inr ⟨_, by omega, rfl⟩
    · exact .inr ⟨_, by omega, rfl⟩
    · exact .inr ⟨_, by omega, rfl⟩
    · exact .inr ⟨_, by omega, rfl⟩
    · exact ih h

/-- An encoded text is ASCII. -/
private theorem encode_ascii (octets : List UInt8) :
    (encode octets).any (fun c => decide (127 < c.toNat)) = false := by
  rw [List.any_eq_false]
  intro c mem
  rcases mem_encode mem with rfl | ⟨n, small, rfl⟩
  · decide
  · simpa using ascii_digitChar n small

/-- An encoded text starts with a digit. -/
private theorem head?_encode (octets : List UInt8) :
    ((encode octets).head? == some '=') = false := by
  have first (a : UInt8) : (digitChar (a.toNat / 4) == '=') = false := by
    have ha := a.toNat_lt
    exact digitChar_ne_pad _ (by omega)
  fun_cases encode octets with
  | case1 => rfl
  | case2 a => simpa using first a
  | case3 a => simpa using first a
  | case4 a => simpa using first a

/-- What was encoded decodes. -/
theorem decode_encode (octets : List UInt8) : decode (encode octets) = .ok octets := by
  rw [decode, encode_ascii, head?_encode]
  exact decodeFrom_encode octets .start rfl rfl rfl

end SignedLink.Base64
