import SignedLink.Proofs.Config.Options
import SignedLink.Proofs.Conversion.Gate
import SignedLink.Proofs.Signing.Success
/-!
# SignedLink — what a conversion cannot tell

A conversion contains whatever fails while a link is made, but not what fails
afterwards, when its record is put together. Two things fail there. A link is
told with the length as a whole number, and the gate lets lengths through that
have none, since nothing compares with what is no number; and a failure is told
with the identity, which may hold an integer that is too long.

* `Unwhole`: the lengths without a whole number, or with one that is too long.
* `Escapes`: what a conversion cannot tell, with the level of its record.
* `untold_of_iff`: a conversion has a record without a message exactly for these reasons.
-/

namespace SignedLink

namespace Conversion

variable {config : SignerConfiguration} {held : Option SignerConfiguration}
  {now length identity : Value} {candidate : Candidate} {level : Logging.Level} {f : Fault}
  {link : Link}

/-! ## Lengths -/

/-- What keeps a length from being told as a whole number. -/
inductive Unwhole : Value → Fault → Prop where
  | nan : Unwhole (.real .nan) .wholeOfNan
  | infinite (negative : Bool) : Unwhole (.real (.infinite negative)) .wholeOfInfinity
  | long {length : Value} {n : Int} (whole : length.toInteger = .ok n)
      (long : (Value.integer n).isWritable = false) : Unwhole length .longInteger

/-- The kinds of value that pass the gate as lengths. -/
theorem cases_of_passes {least : Int} (passed : passes least length identity = .ok true) :
    (∃ n, length = .integer n) ∨ (∃ b, length = .boolean b) ∨ ∃ x, length = .real x := by
  cases length with
  | integer n => exact .inl ⟨n, rfl⟩
  | boolean b => exact .inr (.inl ⟨b, rfl⟩)
  | real x => exact .inr (.inr ⟨x, rfl⟩)
  | _ => cases passed

/-- An integer is told exactly when it can be written. -/
theorem write_eq_error_iff {n : Int} :
    Numeral.write n = .error f ↔ f = .longInteger ∧ (Value.integer n).isWritable = false := by
  rw [← Value.written_integer]
  exact Value.written_eq_error_iff

/-- What keeps the length of a link from being told. -/
theorem whole_eq_error_iff {least : Int} (passed : passes least length identity = .ok true) :
    (length.toInteger >>= Numeral.write) = .error f ↔ Unwhole length f := by
  constructor
  · intro untold
    rcases Except.bind_eq_error_iff.mp untold with noWhole | ⟨n, whole, unwritten⟩
    · -- only a number that is not finite passes without a whole part
      rcases cases_of_passes passed with ⟨n, rfl⟩ | ⟨b, rfl⟩ | ⟨x, rfl⟩
      · cases noWhole
      · cases noWhole
      · cases x with
        | nan =>
          cases noWhole
          exact .nan
        | infinite negative =>
          cases noWhole
          exact .infinite negative
        | finite negative m e => cases noWhole
    · obtain ⟨rfl, long⟩ := write_eq_error_iff.mp unwritten
      exact .long whole long
  · intro unwhole
    cases unwhole with
    | nan => rfl
    | infinite negative => rfl
    | long whole long =>
      rw [whole]
      exact write_eq_error_iff.mpr ⟨rfl, long⟩

/-! ## Records without a message -/

/-- A conversion has a record of a level without a message, for a reason. -/
def Untold (c : Conversion) (level : Logging.Level) (f : Fault) : Prop :=
  ∃ r ∈ c.records, r.level = level ∧ r.message = .error f

theorem not_untold_skipped : ¬ (skipped []).Untold level f := by
  rintro ⟨r, mem, -⟩
  cases mem

/-- A failure is not told when its identity is too long. -/
theorem untold_failed_iff {failure : ConversionFailure} :
    (failed identity failure).Untold level f ↔
      level = .error ∧ f = .longInteger ∧ identity.isWritable = false := by
  -- there is one record, and its message fails with the identity alone
  have message : (∃ r ∈ (failed identity failure).records, r.level = level ∧ r.message = .error f) ↔
      level = .error ∧ identity.written = .error f := by
    simp only [failed, List.mem_singleton, exists_eq_left]
    cases identity.written <;> simp [Except.map, eq_comm]
  rw [Untold, message, Value.written_eq_error_iff]

/-- A length is told as a whole number, or not at all. -/
theorem issuedWords_eq_error_iff {shown : String} :
    issuedWords shown length = .error f ↔ (length.toInteger >>= Numeral.write) = .error f := by
  rw [issuedWords]
  cases length.toInteger with
  | error g => rfl
  | ok n =>
    show (Numeral.write n >>= fun _ => pure _) = _ ↔ Numeral.write n = _
    cases Numeral.write n with
    | error g => rfl
    | ok digits => exact iff_of_false nofun nofun

/-- A link is not told when its length is not, since its identity can be told. -/
theorem untold_issued_iff {uri : String} (writable : identity.isWritable = true) :
    (issued identity length uri).Untold level f ↔
      level = .debug ∧ (length.toInteger >>= Numeral.write) = .error f := by
  have message : issuedMessage identity length = .error f ↔
      (length.toInteger >>= Numeral.write) = .error f := by
    rw [issuedMessage, Value.written, if_pos writable]
    exact issuedWords_eq_error_iff
  simp only [Untold, issued, List.mem_singleton, exists_eq_left, message, eq_comm]

/-- What is signed is a text. -/
theorem isWritable_of_sign {baseUrl keyPairId : String} {key : SigningKey} {ttl : Value}
    (signed : Link.sign identity baseUrl keyPairId key ttl now = .ok link) :
    identity.isWritable = true := by
  obtain ⟨_, _, _, stored, -⟩ := Link.sign_eq_ok_iff.mp signed
  cases identity with
  | text s => rfl
  | _ => cases stored

/-! ## Reasons -/

/-- The link of whatever a binary gives as its identity. -/
def signingOf (config : SignerConfiguration) (now identity : Value) : Except SigningError Link :=
  Link.sign identity config.baseUrl config.keyPairId config.key (.integer config.ttlSeconds) now

/-- Why the record of a conversion has no message, with the level of the record. -/
inductive Escapes (held : Option SignerConfiguration) (now : Value) :
    Candidate → Logging.Level → Fault → Prop where
  /-- a link was signed, but the length of its binary cannot be told -/
  | length {config : SignerConfiguration} {blob : Blob} {length identity : Value} {link : Link}
      {f : Fault} (active : held = some config) (known : blob.length = .ok length)
      (identified : blob.identity = .ok identity)
      (passed : passes config.minimumSizeBytes length identity = .ok true)
      (signed : signingOf config now identity = .ok link) (unwhole : Unwhole length f) :
      Escapes held now (.binary (some blob)) .debug f
  /-- the binary was not skipped, but its identity cannot be told -/
  | identity {config : SignerConfiguration} {blob : Blob} {length identity : Value}
      (active : held = some config) (known : blob.length = .ok length)
      (identified : blob.identity = .ok identity)
      (kept : passes config.minimumSizeBytes length identity ≠ .ok false)
      (long : identity.isWritable = false) :
      Escapes held now (.binary (some blob)) .error .longInteger

/-- What is not told of a binary that passed the gate. -/
theorem untold_sign_iff (passed : passes config.minimumSizeBytes length identity = .ok true) :
    (sign config now identity length).Untold level f ↔
      (level = .debug ∧ (∃ link, signingOf config now identity = .ok link) ∧ Unwhole length f) ∨
        (level = .error ∧ f = .longInteger ∧ identity.isWritable = false) := by
  unfold sign
  cases signed : signingOf config now identity with
  | error e =>
    rw [signingOf] at signed
    simp [signed, untold_failed_iff]
  | ok link =>
    rw [signingOf] at signed
    -- an identity that was signed is a text, so only the length can fail
    have writable := isWritable_of_sign signed
    simp [signed, untold_issued_iff writable, whole_eq_error_iff passed, writable]

/-- What is not told of a binary. -/
theorem untold_ofBlob_iff {blob : Blob} :
    (ofBlob config now blob).Untold level f ↔
      Escapes (some config) now (.binary (some blob)) level f := by
  constructor
  · intro untold
    unfold ofBlob at untold
    split at untold
    · -- where an answer does not come, no identity is told
      cases (untold_failed_iff.mp untold).2.2
    · next length known =>
      split at untold
      · cases (untold_failed_iff.mp untold).2.2
      · next identity identified =>
        split at untold
        · next unordered =>
          obtain ⟨rfl, rfl, long⟩ := untold_failed_iff.mp untold
          exact .identity rfl known identified (by rw [unordered]; exact nofun) long
        · exact absurd untold not_untold_skipped
        · next passed =>
          rcases (untold_sign_iff passed).mp untold with
            ⟨rfl, ⟨link, signed⟩, unwhole⟩ | ⟨rfl, rfl, long⟩
          · exact .length rfl known identified passed signed unwhole
          · exact .identity rfl known identified (by rw [passed]; exact nofun) long
  · intro escapes
    cases escapes with
    | length active known identified passed signed unwhole =>
      cases active
      simp only [ofBlob, known, identified, passed]
      exact (untold_sign_iff passed).mpr (.inl ⟨rfl, ⟨_, signed⟩, unwhole⟩)
    | identity active known identified kept long =>
      cases active
      simp only [ofBlob, known, identified]
      split
      · exact untold_failed_iff.mpr ⟨rfl, rfl, long⟩
      · next skips => exact absurd skips kept
      · next passed => exact (untold_sign_iff passed).mpr (.inr ⟨rfl, rfl, long⟩)

/-- Exactly for these reasons a conversion has a record without a message. -/
theorem untold_of_iff :
    (of held now candidate).Untold level f ↔ Escapes held now candidate level f := by
  match held, candidate with
  | none, candidate =>
    constructor
    · rintro ⟨r, mem, -, untold⟩
      obtain rfl := List.mem_singleton.mp mem
      cases untold
    · intro escapes
      cases escapes with
      | length active => cases active
      | identity active => cases active
  | some config, .foreign =>
    exact ⟨fun untold => absurd untold not_untold_skipped, nofun⟩
  | some config, .binary none =>
    exact ⟨fun untold => absurd untold not_untold_skipped, nofun⟩
  | some config, .binary (some blob) => exact untold_ofBlob_iff

/-- Whatever a conversion writes is written to the logger of the provider. -/
theorem logger_of_mem_of {r : Logging.Record} (mem : r ∈ (of held now candidate).records) :
    r.logger = Logging.providerLogger := by
  have failure {identity : Value} {cause : ConversionFailure}
      (mem : r ∈ (failed identity cause).records) : r.logger = Logging.providerLogger := by
    obtain rfl := List.mem_singleton.mp mem
    rfl
  match held, candidate with
  | none, _ =>
    obtain rfl := List.mem_singleton.mp mem
    rfl
  | some config, .foreign => cases mem
  | some config, .binary none => cases mem
  | some config, .binary (some blob) =>
    change r ∈ (ofBlob config now blob).records at mem
    unfold ofBlob at mem
    split at mem
    · exact failure mem
    · split at mem
      · exact failure mem
      · split at mem
        · exact failure mem
        · cases mem
        · unfold sign at mem
          split at mem
          · exact failure mem
          · obtain rfl := List.mem_singleton.mp mem
            rfl

end Conversion

end SignedLink
