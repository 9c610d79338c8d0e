import SignedLink.Proofs.Config.Options
import SignedLink.Proofs.Signing.Parts
import SignedLink.Proofs.Signing.Success
/-!
# SignedLink — one key in the place of another

Of two keys that can sign, one may stand in the place of the other. Which may
stand for which is left open: that is a relation between keys, the exchange. A
key comes in many forms, ready to sign with, as a text, or as the octets of a
file, so a form is given by how the key is found in it. A form in which there
is no key that can sign is not exchanged.

Whether there is a link does not depend on the exchange. The key is looked at
last, and a key that can sign does sign. So of a link and of its refusals
nothing shows the exchange but the signature.

* `Exchanged`: forms of a key, one in the place of another.
* `related_sign`: links with exchanged keys are the same but for the signature.
* `Resigned.ne`: keys that never sign alike give different addresses.
-/

namespace SignedLink

variable {exchange : Rsa.PrivateKey → Rsa.PrivateKey → Prop}

/-! ## Exchanges -/

/-- Two keys that can sign, and one may stand for the other. -/
structure Rsa.IsExchange (exchange : PrivateKey → PrivateKey → Prop) (key other : PrivateKey) :
    Prop where
  allowed : exchange key other
  signs : leastSize ≤ key.size
  otherSigns : leastSize ≤ other.size

/-- Keys whose signatures differ in length never sign alike. -/
theorem Rsa.sign?_ne_of_size_ne {key other : PrivateKey} (enough : leastSize ≤ key.size)
    (sizes : key.size ≠ other.size) (message : List UInt8) :
    sign? key message ≠ sign? other message := by
  obtain ⟨signature, signed⟩ := exists_sign? enough message
  rw [signed]
  intro same
  exact sizes ((length_sign? signed).symm.trans (length_sign? same.symm))

/-- A form of a key in the place of another, by how a key is found in it: both hold keys, which are
exchanged, or they are the same and hold no key that can sign. -/
inductive Exchanged (exchange : Rsa.PrivateKey → Rsa.PrivateKey → Prop) {α : Type}
    (find : α → Option Rsa.PrivateKey) : α → α → Prop where
  | keys {a b : α} {key other : Rsa.PrivateKey} (found : find a = some key)
      (otherFound : find b = some other) (pair : Rsa.IsExchange exchange key other) :
      Exchanged exchange find a b
  | same {a : α} (unable : ∀ key ∈ find a, key.size < Rsa.leastSize) : Exchanged exchange find a a

/-- A form that is made of another one, and holds the same key. -/
theorem Exchanged.map {α β : Type} {find : α → Option Rsa.PrivateKey}
    {findIn : β → Option Rsa.PrivateKey} {a b : α} (exchanged : Exchanged exchange find a b)
    (f : α → β) (keeps : ∀ a, findIn (f a) = find a) : Exchanged exchange findIn (f a) (f b) := by
  cases exchanged with
  | keys found otherFound pair =>
    exact .keys ((keeps a).trans found) ((keeps b).trans otherFound) pair
  | same unable => exact .same (by rwa [keeps])

/-- The RSA key that there is to sign with, where its numbers are known. -/
def SigningKey.rsa? : SigningKey → Option Rsa.PrivateKey
  | .rsa key => some key
  | _ => none

theorem SigningKey.rsa?_eq_some_iff {key : SigningKey} {k : Rsa.PrivateKey} :
    key.rsa? = some k ↔ key = .rsa k := by
  cases key <;> simp [rsa?]

namespace Link

variable {key other : SigningKey}

/-- Only an RSA key that is long enough signs a policy. -/
theorem exists_rsa_of_signPolicy {policy : List Char} {signature : List UInt8}
    (signed : signPolicy key policy = .ok signature) :
    ∃ k, key = .rsa k ∧ Rsa.leastSize ≤ k.size := by
  cases key with
  | rsa k =>
    refine ⟨k, rfl, Nat.le_of_not_lt fun short => ?_⟩
    rw [signPolicy_rsa_eq_ok_iff, Rsa.sign?_eq_none_iff.mpr short] at signed
    cases signed
  | refusing reason => cases signed
  | other typeName => cases signed

/-! ## Addresses -/

/-- Two addresses that allow the same resource up to the same time under the same name of a key
pair, with the signatures that two exchanged keys make of the one policy. -/
inductive Resigned (exchange : Rsa.PrivateKey → Rsa.PrivateKey → Prop) : String → String → Prop
    where
  | signed {key other : Rsa.PrivateKey} {resource : String} {expiresAt : Int}
      {signature otherSignature : List UInt8} (keyPairId : List Char)
      (pair : Rsa.IsExchange exchange key other)
      (signed : Rsa.sign? key (Text.Utf8.encode (Policy.text resource expiresAt)) = some signature)
      (otherSigned : Rsa.sign? other (Text.Utf8.encode (Policy.text resource expiresAt)) =
        some otherSignature) :
      Resigned exchange (.ofList (compose resource.toList expiresAt signature keyPairId))
        (.ofList (compose resource.toList expiresAt otherSignature keyPairId))

theorem signatureText_injective : Function.Injective signatureText := by
  intro signature other same
  have octets := signatureOctets?_signatureText signature
  rw [same, signatureOctets?_signatureText] at octets
  exact (Option.some.inj octets).symm

/-- Keys that never sign alike give different addresses. -/
theorem Resigned.ne {url another : String} (resigned : Resigned exchange url another)
    (apart : ∀ key other, Rsa.IsExchange exchange key other →
      ∀ message, Rsa.sign? key message ≠ Rsa.sign? other message) : url ≠ another := by
  obtain @⟨key, other, resource, expiresAt, signature, otherSignature, keyPairId, pair, signed,
    otherSigned⟩ := resigned
  intro same
  have composed := String.ofList_inj.mp same
  -- the texts of the signatures stand between parts that are the same in both
  have texts : signatureText signature = signatureText otherSignature := by
    simpa [compose] using composed
  have alike := congrArg some (signatureText_injective texts)
  exact apart key other pair _ (signed.trans (alike.trans otherSigned.symm))

/-! ## Links -/

theorem related_address {key other : Rsa.PrivateKey} (pair : Rsa.IsExchange exchange key other)
    (resource keyPairId : String) (expiresAt : Int) :
    Except.Related (Resigned exchange) (address resource keyPairId (.rsa key) expiresAt)
      (address resource keyPairId (.rsa other) expiresAt) := by
  unfold address
  cases Policy.expiry expiresAt with
  | error fault => exact .error _
  | ok t =>
    obtain ⟨signature, signed⟩ :=
      Rsa.exists_sign? pair.signs (Text.Utf8.encode (Policy.text resource t))
    obtain ⟨otherSignature, otherSigned⟩ :=
      Rsa.exists_sign? pair.otherSigns (Text.Utf8.encode (Policy.text resource t))
    simp only [signPolicy, signed, otherSigned]
    exact .ok (.signed keyPairId.toList pair signed otherSigned)

/-- With exchanged keys there are the same refusals, and links that are the same but for the
signature. -/
theorem related_sign (exchanged : Exchanged exchange SigningKey.rsa? key other) (identity : Value)
    (baseUrl keyPairId : String) (ttl now : Value) :
    Except.Related (fun link another => Resigned exchange link.url another.url)
      (sign identity baseUrl keyPairId key ttl now)
      (sign identity baseUrl keyPairId other ttl now) := by
  cases exchanged with
  | same unable =>
    cases made : sign identity baseUrl keyPairId key ttl now with
    | error e => exact .error e
    | ok link =>
      -- a link would have been signed, and the key cannot sign
      obtain ⟨_, _, _, _, _, _, _, issued⟩ := sign_eq_ok_iff.mp made
      obtain ⟨k, rfl, enough⟩ := exists_rsa_of_signPolicy issued.signed
      exact absurd (unable k rfl) (Nat.not_lt.mpr enough)
  | keys found otherFound pair =>
    obtain rfl := SigningKey.rsa?_eq_some_iff.mp found
    obtain rfl := SigningKey.rsa?_eq_some_iff.mp otherFound
    -- what is looked at before the key is the same on both sides
    unfold sign
    cases StorageKey.ofValue identity with
    | error e => exact .error _
    | ok storageKey =>
      cases now.toInteger with
      | error fault => exact .error _
      | ok start =>
        cases ttl.toInteger with
        | error fault => exact .error _
        | ok seconds =>
          have addresses :=
            related_address pair (baseUrl ++ storageKey) keyPairId (start + seconds)
          rcases addresses.elim with
            ⟨cause, made, otherMade⟩ | ⟨url, another, made, otherMade, resigned⟩
          · simp only [made, otherMade]
            exact .error _
          · simp only [made, otherMade]
            exact .ok resigned

end Link

end SignedLink
