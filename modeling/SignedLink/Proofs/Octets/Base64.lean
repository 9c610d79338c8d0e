import SignedLink.Octets.Base64
/-!
# SignedLink — the characters of base64 text

Base64 text is written in sixty-five characters, so what has to be known about
every character of an encoding is looked up for those.

* `mem_characters`: the characters of an encoding.
* `mem_characters_of_decode`: what can be decoded has no others.
-/

namespace SignedLink.Base64

/-- The characters of base64 text. -/
def characters : List Char :=
  '=' :: alphabet

theorem mem_characters {octets : List UInt8} {c : Char} (h : c ∈ encode octets) :
    c ∈ characters := by
  have digits : ∀ n < 64, digitChar n ∈ characters := by decide +kernel
  rcases mem_encode h with rfl | ⟨n, small, rfl⟩
  · exact List.mem_cons_self
  · exact digits n small

theorem mem_alphabet_of_digit? {c : Char} {d : Nat} (digit : digit? c = some d) :
    c ∈ alphabet := by
  have all : ∀ n < 128, (digit? (Char.ofNat n)).isSome = true → Char.ofNat n ∈ alphabet := by
    decide +kernel
  have small : c.toNat < 128 := by
    simp only [digit?] at digit
    grind
  have same := all c.toNat small
  rw [Char.ofNat_toNat, digit] at same
  exact same rfl

/-- What is read without a flaw is digits and padding. -/
theorem mem_characters_of_decodeFrom {cs : List Char} {s : State} {octets : List UInt8}
    (decoded : decodeFrom s cs = .ok octets) : ∀ c ∈ cs, c ∈ characters := by
  induction cs generalizing s octets with
  | nil => nofun
  | cons c rest ih =>
    rw [List.forall_mem_cons]
    rw [decodeFrom] at decoded
    split at decoded
    · next pad =>
      refine ⟨by rw [eq_of_beq pad]; exact List.mem_cons_self, ?_⟩
      split at decoded
      · split at decoded
        · split at decoded
          · next ended =>
            rw [List.isEmpty_iff.mp ended]
            nofun
          · cases decoded
        · exact ih decoded
      · exact ih decoded
    · split at decoded
      · cases decoded
      · next digit =>
        refine ⟨List.mem_cons_of_mem _ (mem_alphabet_of_digit? digit), ?_⟩
        split at decoded
        · cases decoded
        · split at decoded
          · next later => exact ih later
          · cases decoded

theorem mem_characters_of_decode {cs : List Char} {octets : List UInt8}
    (decoded : decode cs = .ok octets) : ∀ c ∈ cs, c ∈ characters := by
  unfold decode at decoded
  split at decoded
  · cases decoded
  · split at decoded
    · cases decoded
    · exact mem_characters_of_decodeFrom decoded

/-- The first octet alone decides the first character. -/
theorem encode_cons (b : UInt8) (octets : List UInt8) :
    ∃ text, encode (b :: octets) = digitChar (b.toNat / 4) :: text := by
  match octets with
  | [] => exact ⟨_, rfl⟩
  | [_] => exact ⟨_, rfl⟩
  | _ :: _ :: _ => exact ⟨_, rfl⟩

end SignedLink.Base64
