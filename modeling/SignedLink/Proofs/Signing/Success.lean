import SignedLink.Proofs.Signing.Expiry
import SignedLink.Signing.Link
/-!
# SignedLink — when a link is signed

A call gives a link exactly when each of its steps succeeds, and then
everything in the link is known: the resource it points at, the policy that
was signed for it, and the signature in its address.

* `IsIssued`: how a link follows from its storage key, its expiry and a signature.
* `sign_eq_ok_iff`: the calls that give a link, and the link they give.
* `exists_issued`: a call with a long enough RSA key and identity and an expiry of the calendar
  gives a link.
* `toInteger_of_isReading`: every finite reading of a clock has a whole part.
-/

namespace SignedLink

/-- A reading of a clock, an integer or a finite real number, and its whole part. -/
inductive IsReading : Value → Int → Prop where
  | integer (n : Int) : IsReading (.integer n) n
  | real {x : Binary64} {n : Int} (whole : x.truncate? = some n) : IsReading (.real x) n

theorem toInteger_of_isReading {now : Value} {start : Int} (reading : IsReading now start) :
    now.toInteger = .ok start := by
  cases reading with
  | integer n => rfl
  | @real x n whole =>
    cases x with
    | nan => simp [Binary64.truncate?] at whole
    | infinite s => simp [Binary64.truncate?] at whole
    | finite s m e => simp [Value.toInteger, Value.wholePart, whole]

theorem StorageKey.ofValue_text_eq_ok_iff {identity key : String} :
    ofValue (.text identity) = .ok key ↔ ofText? identity = some key := by
  cases h : ofText? identity <;> simp [ofValue, h]

theorem StorageKey.exists_ofText? {identity : String} (long : 4 ≤ identity.toList.length) :
    ∃ key, ofText? identity = some key := by
  refine Option.ne_none_iff_exists'.mp fun refused => ?_
  have short := ofText?_eq_none_iff.mp refused
  omega

/-- A key that is long enough signs every message. -/
theorem Rsa.exists_sign? {key : PrivateKey} (enough : leastSize ≤ key.size)
    (message : List UInt8) : ∃ signature, sign? key message = some signature := by
  refine Option.ne_none_iff_exists'.mp fun refused => ?_
  have short := sign?_eq_none_iff.mp refused
  omega

namespace Link

/-- The text of the policy that is signed for a link. -/
def policy (baseUrl : String) (link : Link) : List Char :=
  Policy.text (baseUrl ++ link.storageKey) link.expiresAt

/-- What a link is made of: its expiry lies in the calendar, the key signed the policy of its
resource and expiry, and the address is composed of them with that signature. -/
structure IsIssued (baseUrl keyPairId : String) (key : SigningKey) (link : Link)
    (signature : List UInt8) : Prop where
  inCalendar : Policy.InCalendar link.expiresAt
  signed : signPolicy key (link.policy baseUrl) = .ok signature
  url_eq : link.url = .ofList (compose (baseUrl ++ link.storageKey).toList link.expiresAt signature
    keyPairId.toList)

variable {baseUrl keyPairId : String} {key : SigningKey} {link : Link} {signature : List UInt8}

/-- An address is made exactly for a time of the calendar whose policy the key signs. -/
theorem address_eq_ok_iff {resource url : String} {expiresAt : Int} :
    address resource keyPairId key expiresAt = .ok url ↔
      ∃ signature, Policy.InCalendar expiresAt ∧
        signPolicy key (Policy.text resource expiresAt) = .ok signature ∧
        url = .ofList (compose resource.toList expiresAt signature keyPairId.toList) := by
  unfold address
  constructor
  · intro made
    split at made
    · simp at made
    · next t inTime =>
      obtain ⟨inside, rfl⟩ := Policy.expiry_eq_ok_iff.mp inTime
      split at made
      · simp at made
      · next signature signed => exact ⟨signature, inside, signed, (Except.ok.inj made).symm⟩
  · rintro ⟨signature, inside, signed, rfl⟩
    rw [Policy.expiry_eq_ok_iff.mpr ⟨inside, rfl⟩]
    simp only [signed]

theorem isRsa_of_signPolicy {policy : List Char} (signed : signPolicy key policy = .ok signature) :
    key.isRsa = true := by
  cases key <;> first | rfl | simp [signPolicy] at signed

/-- The calls that give a link, and the link they give. -/
theorem sign_eq_ok_iff {identity ttl now : Value} :
    sign identity baseUrl keyPairId key ttl now = .ok link ↔
      ∃ start seconds signature, StorageKey.ofValue identity = .ok link.storageKey ∧
        now.toInteger = .ok start ∧ ttl.toInteger = .ok seconds ∧
        link.expiresAt = start + seconds ∧ IsIssued baseUrl keyPairId key link signature := by
  constructor
  · intro signed
    -- the call stops at the first step that fails, so every step has succeeded
    unfold sign at signed
    cases stored : StorageKey.ofValue identity with
    | error e => simp [stored] at signed
    | ok storageKey =>
      cases began : now.toInteger with
      | error e => simp [stored, began] at signed
      | ok start =>
        cases valid : ttl.toInteger with
        | error e => simp [stored, began, valid] at signed
        | ok seconds =>
          simp only [stored, began, valid] at signed
          split at signed
          · simp at signed
          · split at signed
            · simp at signed
            · next made =>
              obtain ⟨signature, inside, policy, rfl⟩ := address_eq_ok_iff.mp made
              cases signed
              exact ⟨start, seconds, signature, rfl, rfl, rfl, rfl, inside, policy, rfl⟩
  · rintro ⟨start, seconds, signature, stored, began, valid, expires, inside, policy, url⟩
    have rsa := isRsa_of_signPolicy policy
    have made := address_eq_ok_iff.mpr ⟨signature, inside, policy, url⟩
    obtain ⟨address, expiresAt, storageKey⟩ := link
    dsimp only at stored expires made
    subst expires
    cases key with
    | other typeName => simp [SigningKey.isRsa] at rsa
    | rsa k => simp only [sign, stored, began, valid, made]
    | refusing reason => simp only [sign, stored, began, valid, made]

/-- An RSA key signs a policy as it signs its octets in UTF-8. -/
theorem signPolicy_rsa_eq_ok_iff {key : Rsa.PrivateKey} {policy : List Char} :
    signPolicy (.rsa key) policy = .ok signature ↔
      Rsa.sign? key (Text.Utf8.encode policy) = some signature := by
  cases signed : Rsa.sign? key (Text.Utf8.encode policy) <;> simp [signPolicy, signed]

/-- A call with a long enough RSA key, a long enough identity and an expiry of the calendar gives a
link. -/
theorem exists_issued (identity baseUrl keyPairId : String) (key : Rsa.PrivateKey) (ttl : Int)
    {now : Value} {start : Int} (long : 4 ≤ identity.toList.length)
    (enough : Rsa.leastSize ≤ key.size) (reading : IsReading now start)
    (inside : Policy.InCalendar (start + ttl)) :
    ∃ link signature,
      sign (.text identity) baseUrl keyPairId (.rsa key) (.integer ttl) now = .ok link ∧
      StorageKey.ofText? identity = some link.storageKey ∧ link.expiresAt = start + ttl ∧
      IsIssued baseUrl keyPairId (.rsa key) link signature := by
  obtain ⟨storageKey, stored⟩ := StorageKey.exists_ofText? long
  obtain ⟨signature, signed⟩ := Rsa.exists_sign? enough
    (Text.Utf8.encode (Policy.text (baseUrl ++ storageKey) (start + ttl)))
  have issued : IsIssued baseUrl keyPairId (.rsa key) {
      url := .ofList (compose (baseUrl ++ storageKey).toList (start + ttl) signature
        keyPairId.toList)
      expiresAt := start + ttl
      storageKey } signature :=
    ⟨inside, signPolicy_rsa_eq_ok_iff.mpr signed, rfl⟩
  have identified := StorageKey.ofValue_text_eq_ok_iff.mpr stored
  have began := toInteger_of_isReading reading
  exact ⟨_, signature,
    sign_eq_ok_iff.mpr ⟨start, ttl, signature, identified, began, rfl, rfl, issued⟩, stored, rfl,
    issued⟩

end Link

end SignedLink
