import SignedLink.Proofs.Config.Settings
import SignedLink.Proofs.Conversion.Gate
import SignedLink.Proofs.Signing.Refusals
/-!
# SignedLink — what a failure shows of an identity

The record of a failure names the identity in quotes, with all that is not
printable escaped, and then tells the error. The error of a link that was not
signed names the storage key as it is, and the key has all characters of the
identity. So what is not printable in the identity, a line break for one, gets
into the record after all, unless the identity is too short or the key is no RSA
key. The rest of an error is printable but for what the host itself says: the
name of a kind of key, and why a device refused to sign.

* `mem_message_iff`: the characters of an error that are not printable.
* `unescaped_iff`: the characters of a record that are not printable.
* `message_forged`: an identity that begins a second line.
-/

namespace SignedLink

open Text (isPrintable)

/-! ## Texts that show -/

/-- Whether every character of a text is printable. -/
def Text.IsVisible (text : String) : Prop :=
  ∀ c ∈ text.toList, isPrintable c = true

instance (text : String) : Decidable (Text.IsVisible text) :=
  decidable_of_iff (text.toList.all isPrintable = true) List.all_eq_true

variable {c : Char}

namespace Text.IsVisible

variable {text other : String}

theorem not_mem (visible : IsVisible text) (hidden : isPrintable c = false) : c ∉ text.toList := by
  intro mem
  rw [visible c mem] at hidden
  cases hidden

theorem append (visible : IsVisible text) (more : IsVisible other) : IsVisible (text ++ other) := by
  intro c mem
  rw [String.toList_append, List.mem_append] at mem
  exact mem.elim (visible c) (more c)

/-- What is hidden behind a visible text is hidden in the other. -/
theorem mem_append_iff (visible : IsVisible text) (hidden : isPrintable c = false) :
    c ∈ (text ++ other).toList ↔ c ∈ other.toList := by
  rw [String.toList_append, List.mem_append]
  exact or_iff_right (visible.not_mem hidden)

end Text.IsVisible

theorem Text.isVisible_decimal (n : Int) : IsVisible (.ofList (decimal n)) := by
  intro c mem
  rw [String.toList_ofList] at mem
  rcases mem_decimal mem with rfl | digit
  · decide +kernel
  · simp only [isAsciiDigit, Bool.and_eq_true, decide_eq_true_eq] at digit
    exact isPrintable_of_ascii (by omega) (by omega)

/-- A storage key has the characters of its identity, and a hyphen. -/
theorem StorageKey.mem_insertHyphen_iff {cs : List Char} :
    c ∈ insertHyphen cs ↔ c ∈ cs ∨ c = '-' := by
  have whole : c ∈ cs ↔ c ∈ cs.take headLength ∨ c ∈ cs.drop headLength := by
    rw [← List.mem_append, List.take_append_drop]
  rw [insertHyphen, List.mem_append, List.mem_cons, whole]
  tauto

/-! ## Errors -/

/-- What the host itself says in an error. -/
def SigningError.hostText : SigningError → String
  | .notRsa typeName => typeName
  | .unsigned _ (.refused reason) => reason
  | _ => ""

/-- A time beyond the calendar is told in printable characters. -/
theorem Policy.isVisible_of_expiry {expiresAt : Int} {f : Fault}
    (outside : expiry expiresAt = .error f) : Text.IsVisible f.message := by
  have faults : f = .timeOutOfRange ∨ f = .dateTooLarge ∨ ∃ year, f = .yearOutOfRange year := by
    unfold expiry moment at outside
    split at outside
    · cases outside
      exact .inl rfl
    · dsimp only at outside
      split at outside
      · cases outside
        exact .inr (.inl rfl)
      · split at outside
        · cases outside
        · cases outside
          exact .inr (.inr ⟨_, rfl⟩)
  rcases faults with rfl | rfl | ⟨year, rfl⟩
  · show Text.IsVisible "timestamp out of range for platform time_t"
    decide +kernel
  · show Text.IsVisible "[Errno 75] Value too large for defined data type"
    decide +kernel
  · have before : Text.IsVisible "year " := by decide +kernel
    have after : Text.IsVisible " is out of range" := by decide +kernel
    exact (before.append (Text.isVisible_decimal year)).append after

namespace Link

variable {identity baseUrl keyPairId : String} {key : SigningKey} {ttl expiresAt : Int}
  {now : Value} {e : SigningError}

/-- An error of a documented kind has one of the four reasons. -/
theorem exists_fails_of_kind (kind : e.kind?.isSome = true)
    (refused : sign (.text identity) baseUrl keyPairId key (.integer ttl) now = .error e) :
    ∃ expiresAt, Fails (some identity) baseUrl key expiresAt e := by
  cases stored : (some identity).bind StorageKey.ofText? with
  | none =>
    cases refused.symm.trans (sign_of_unstored stored)
    exact ⟨0, .identity stored⟩
  | some storageKey =>
    cases began : now.toInteger with
    | ok start =>
      have reasons := @sign_eq_error_iff_of_toInteger baseUrl keyPairId key (some identity)
      exact ⟨_, (reasons began).mp refused⟩
    | error f =>
      -- a time that cannot be read is an error of no kind
      have unread : sign (.ofText? (some identity)) baseUrl keyPairId key (.integer ttl) now =
          .error (.number f) := by
        simp only [sign, StorageKey.ofValue_ofText?, stored, began]
      cases refused.symm.trans unread
      cases kind

/-- What is not printable in an error comes from the identity, by way of its storage key, or from
the host. -/
theorem mem_message_iff (fails : Fails (some identity) baseUrl key expiresAt e)
    (hidden : isPrintable c = false) :
    c ∈ e.message.toList ↔
      (c ∈ identity.toList ∧ 4 ≤ identity.toList.length ∧ key.isRsa = true) ∨
        c ∈ e.hostText.toList := by
  -- the storage key has the same hidden characters as the identity
  have keyed {storageKey : String} (stored : (some identity).bind StorageKey.ofText? =
      some storageKey) : 4 ≤ identity.toList.length ∧
        (c ∈ storageKey.toList ↔ c ∈ identity.toList) := by
    rw [Option.bind_some, StorageKey.ofText?] at stored
    split at stored
    · cases stored
    · next long =>
      cases stored
      rw [String.toList_ofList, StorageKey.mem_insertHyphen_iff, or_iff_left]
      · exact ⟨not_lt.mp long, Iff.rfl⟩
      · rintro rfl
        exact absurd hidden (by decide +kernel)
  have told (storageKey : String) (cause : SigningCause) :
      c ∈ (SigningError.unsigned storageKey cause).message.toList ↔
        c ∈ storageKey.toList ∨ c ∈ cause.message.toList := by
    have before : Text.IsVisible "Unable to sign " := by decide +kernel
    have between : Text.IsVisible ": " := by decide +kernel
    show c ∈ ("Unable to sign " ++ storageKey ++ ": " ++ cause.message).toList ↔ _
    rw [String.append_assoc, String.append_assoc, before.mem_append_iff hidden,
      String.toList_append, List.mem_append, between.mem_append_iff hidden]
  cases fails with
  | identity unstored =>
    have short := StorageKey.bind_ofText?_eq_none_iff.mp unstored identity rfl
    have visible : Text.IsVisible "Content identity must be at least 4 characters" := by
      decide +kernel
    constructor
    · exact fun mem => absurd mem (visible.not_mem hidden)
    · rintro (⟨-, long, -⟩ | mem)
      · omega
      · cases mem
  | notRsa stored other =>
    subst other
    have before : Text.IsVisible "CloudFront signing needs an RSA private key, got " := by
      decide +kernel
    show c ∈ ("CloudFront signing needs an RSA private key, got " ++ _).toList ↔ _
    rw [before.mem_append_iff hidden, or_iff_right]
    · rfl
    · rintro ⟨-, -, ⟨⟩⟩
  | expiry stored rsa outside =>
    obtain ⟨long, same⟩ := keyed stored
    have silent := (Policy.isVisible_of_expiry outside).not_mem hidden
    rw [told, same, and_iff_left ⟨long, rsa⟩]
    exact or_congr_right ⟨fun mem => absurd mem silent, by rintro ⟨⟩⟩
  | @declined storageKey cause stored rsa inside unsigned =>
    obtain ⟨long, same⟩ := keyed stored
    rw [told, same, and_iff_left ⟨long, rsa⟩]
    cases cause with
    | refused reason => rfl
    | shortModulus =>
      have visible : Text.IsVisible SigningCause.shortModulus.message := by decide +kernel
      exact or_congr_right ⟨fun mem => absurd mem (visible.not_mem hidden), by rintro ⟨⟩⟩
    | expiry f =>
      -- the signing itself does not look at the time
      unfold signPolicy at unsigned
      split at unsigned <;> try split at unsigned
      all_goals cases unsigned

end Link

/-! ## Records -/

namespace Conversion

variable {config : SignerConfiguration} {now : Value} {blob : Blob} {identity : String}
  {r : Logging.Record} {e : SigningError}

/-- The record of a link that was not signed. -/
theorem eq_of_told (identified : blob.identity = .ok (.text identity))
    (mem : r ∈ (of (some config) now (.binary (some blob))).records)
    (told : r.failure = some (.signing e)) :
    signing config now identity = .error e ∧
      r = ⟨Logging.providerLogger, .error, .ok ("Unable to get or sign content identity " ++
        String.ofList (Text.quoted identity.toList) ++ ": " ++ e.message), some (.signing e)⟩ := by
  have faultless (v : Value) (f : Fault) : r ∉ (failed v (.fault f)).records := by
    intro own
    cases List.mem_singleton.mp own
    cases told
  rw [of, ofBlob, identified] at mem
  dsimp only at mem
  split at mem
  · exact absurd mem (faultless _ _)
  · split at mem
    · exact absurd mem (faultless _ _)
    · cases mem
    · unfold sign at mem
      split at mem
      · next refused =>
        cases List.mem_singleton.mp mem
        cases told
        exact ⟨refused, rfl⟩
      · cases List.mem_singleton.mp mem
        cases told

/-- When a link is not signed, the record of it quotes the identity. What is not printable in it
comes from the identity itself, if that has a storage key that an RSA key was to sign, or else from
the host. So it has control characters exactly when one of them has. -/
theorem unescaped_iff (identified : blob.identity = .ok (.text identity))
    (mem : r ∈ (of (some config) now (.binary (some blob))).records)
    (told : r.failure = some (.signing e)) (kind : e.kind?.isSome = true) :
    ∃ message, r.level = .error ∧ r.message = .ok message ∧
      message = "Unable to get or sign content identity " ++
        String.ofList (Text.quoted identity.toList) ++ ": " ++ e.message ∧
      (∀ c, isPrintable c = false → (c ∈ message.toList ↔
        (c ∈ identity.toList ∧ 4 ≤ identity.toList.length ∧ config.key.isRsa = true) ∨
          c ∈ e.hostText.toList)) ∧
      ((∃ c ∈ message.toList, Text.isControl c = true) ↔
        ((∃ c ∈ identity.toList, Text.isControl c = true) ∧ 4 ≤ identity.toList.length ∧
            config.key.isRsa = true) ∨
          ∃ c ∈ e.hostText.toList, Text.isControl c = true) := by
  obtain ⟨refused, rfl⟩ := eq_of_told identified mem told
  obtain ⟨expiresAt, fails⟩ := Link.exists_fails_of_kind kind refused
  have before : Text.IsVisible "Unable to get or sign content identity " := by decide +kernel
  have between : Text.IsVisible ": " := by decide +kernel
  have quoted : Text.IsVisible (.ofList (Text.quoted identity.toList)) := by
    intro c mem
    rw [String.toList_ofList] at mem
    exact Text.isPrintable_of_mem_quoted mem
  have unprintable (c : Char) (hidden : isPrintable c = false) :=
    (((before.append quoted).append between).mem_append_iff hidden).trans
      (Link.mem_message_iff fails hidden)
  refine ⟨_, rfl, rfl, rfl, unprintable, ?_⟩
  have controls (c : Char) (control : Text.isControl c = true) :=
    unprintable c (Text.not_isPrintable_of_isControl control)
  constructor
  · rintro ⟨c, mem, control⟩
    rcases (controls c control).mp mem with ⟨own, keyed⟩ | host
    · exact .inl ⟨⟨c, own, control⟩, keyed⟩
    · exact .inr ⟨c, host, control⟩
  · rintro (⟨⟨c, own, control⟩, keyed⟩ | ⟨c, host, control⟩)
    · exact ⟨c, (controls c control).mpr (.inl ⟨own, keyed⟩), control⟩
    · exact ⟨c, (controls c control).mpr (.inr host), control⟩

/-! ### An identity with a line break -/

/-- A configuration whose links are valid beyond the calendar. -/
def endlessSigner : SignerConfiguration :=
  { Settings.mersenneSigner with ttlSeconds := 1000000000000 }

/-- A binary whose identity goes on with a line of its own. -/
def twoLineBlob : Blob :=
  ⟨.ok (.integer 1), .ok (.text "ab\ncd")⟩

/-- The message of the record has a line break. -/
theorem message_forged :
    (of (some endlessSigner) (.integer 1700000000) (.binary (some twoLineBlob))).records.map
        (·.message.toOption) =
      [some ("Unable to get or sign content identity 'ab\\ncd': Unable to sign ab\nc-d: " ++
        "year 33712 is out of range")] := by
  decide +kernel

theorem unescaped_iff_twoLineBlob :
    ∃ r ∈ (of (some endlessSigner) (.integer 1700000000) (.binary (some twoLineBlob))).records,
      ∃ message, r.message = .ok message ∧ ∃ c ∈ message.toList, Text.isControl c = true := by
  obtain ⟨r, mem, told⟩ : ∃ r ∈ (of (some endlessSigner) (.integer 1700000000)
      (.binary (some twoLineBlob))).records,
      r.failure = some (.signing (.unsigned "ab\nc-d" (.expiry (.yearOutOfRange 33712)))) :=
    ⟨_, List.mem_singleton_self _, by decide +kernel⟩
  obtain ⟨message, -, written, -, -, control⟩ := unescaped_iff rfl mem told rfl
  have broken : ∃ c ∈ "ab\ncd".toList, Text.isControl c = true := ⟨'\n', by decide, by decide⟩
  exact ⟨r, mem, message, written, control.mpr (.inl ⟨broken, by decide, rfl⟩)⟩

end Conversion

end SignedLink
