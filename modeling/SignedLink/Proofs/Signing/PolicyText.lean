import SignedLink.Proofs.Json.Characters
import SignedLink.Proofs.Json.RoundTrip
import SignedLink.Proofs.Rsa.Primality
import SignedLink.Proofs.Signing.Success
/-!
# SignedLink — what a policy text says

A policy text is read as the one policy it was written for, whatever the
resource holds: a quote, a backslash or a character beyond ASCII in it is
escaped, so no resource can end its own string and add to the statement. So
texts are as different as the resources and times they allow, and what is
signed for two links of one base address tells their identities apart.

* `read_text`: a policy text is read as its policy.
* `text_injective`: different resources or times have different texts.
* `canned_faithful`: the texts of all policies, and what is signed for links.
-/

namespace SignedLink.Policy

theorem length_toDigits_le {expiresAt : Int} (inside : InCalendar expiresAt) :
    (Nat.toDigits 10 expiresAt.natAbs).length ≤ Fault.numeralLimit := by
  have few : (Nat.toDigits 10 expiresAt.natAbs).length ≤ 12 := by
    rw [Nat.length_toDigits_le_iff (by decide) (by decide)]
    simp only [InCalendar, earliest, latest] at inside
    omega
  exact Nat.le_trans few (by decide)

/-- A policy is five values deep. -/
theorem readable_document (resource : String) {expiresAt : Int} (inside : InCalendar expiresAt)
    (depth : Nat) : Json.Readable (depth + 5) (document resource expiresAt) := by
  have time : Json.Readable (depth + 1) (.record [("AWS:EpochTime", .integer expiresAt)]) :=
    .record (by simpa using .integer (length_toDigits_le inside)) (by simp)
  have before : Json.Readable (depth + 2)
      (.record [("DateLessThan", .record [("AWS:EpochTime", .integer expiresAt)])]) :=
    .record (by simpa using time) (by simp)
  have statement : Json.Readable (depth + 3) (.record [("Resource", .text resource), ("Condition",
      .record [("DateLessThan", .record [("AWS:EpochTime", .integer expiresAt)])])]) := by
    refine .record ?_ (by simp)
    simpa using ⟨.text resource, before⟩
  exact .record (by simpa using .list (by simpa using statement)) (by simp)

theorem read_text (resource : String) {expiresAt : Int} (inside : InCalendar expiresAt) :
    Json.read (text resource expiresAt) = .ok (document resource expiresAt) := by
  have read := Json.read_write Json.separating_signed (readable_document resource inside 945) []
    (by simp)
  rwa [List.append_nil] at read

theorem document_injective {resource other : String} {expiresAt time : Int}
    (same : document resource expiresAt = document other time) :
    resource = other ∧ expiresAt = time := by
  simpa [document] using same

theorem text_injective {resource other : String} {expiresAt time : Int}
    (inside : InCalendar expiresAt) (inside' : InCalendar time)
    (same : text resource expiresAt = text other time) : resource = other ∧ expiresAt = time := by
  have documents := read_text resource inside
  rw [same, read_text other inside'] at documents
  exact document_injective (Except.ok.inj documents).symm

/-- The texts of policies are those of the times in the calendar. -/
theorem canned_eq_ok_iff {resource policy : String} {expiresAt : Int} :
    canned resource expiresAt = .ok policy ↔
      InCalendar expiresAt ∧ policy = .ofList (text resource expiresAt) := by
  unfold canned
  constructor
  · intro made
    cases taken : expiry expiresAt with
    | error fault => simp [taken, Except.map] at made
    | ok t =>
      obtain ⟨inside, rfl⟩ := expiry_eq_ok_iff.mp taken
      rw [taken] at made
      exact ⟨inside, (Except.ok.inj made).symm⟩
  · rintro ⟨inside, rfl⟩
    rw [expiry_eq_ok_iff.mpr ⟨inside, rfl⟩]
    rfl

end SignedLink.Policy

namespace SignedLink.Link

variable {baseUrl keyPairId keyPairId' identity identity' : String} {key key' : SigningKey}
  {ttl ttl' now now' : Value} {link link' : Link}

/-- For one base address the same policy is only signed for the same identity and time. -/
theorem eq_of_policy_eq (signed : sign (.text identity) baseUrl keyPairId key ttl now = .ok link)
    (signed' : sign (.text identity') baseUrl keyPairId' key' ttl' now' = .ok link')
    (same : link.policy baseUrl = link'.policy baseUrl) :
    identity = identity' ∧ link.expiresAt = link'.expiresAt := by
  obtain ⟨_, _, _, stored, _, _, _, issued⟩ := sign_eq_ok_iff.mp signed
  obtain ⟨_, _, _, stored', _, _, _, issued'⟩ := sign_eq_ok_iff.mp signed'
  obtain ⟨resources, times⟩ :=
    Policy.text_injective issued.inCalendar issued'.inCalendar same
  have keys : link.storageKey = link'.storageKey := by
    have lists := congrArg String.toList resources
    rw [String.toList_append, String.toList_append] at lists
    exact String.toList_injective (List.append_cancel_left lists)
  rw [StorageKey.ofValue_text_eq_ok_iff] at stored stored'
  rw [← keys] at stored'
  exact ⟨StorageKey.ofText?_injective stored stored', times⟩

end SignedLink.Link

namespace SignedLink.Policy

/-- The text for a resource and a time of the calendar is ASCII and is read as the one policy for
them, no other resource or time has that text, and what two calls sign under one base address is
different when their identities or their times are. -/
theorem canned_faithful :
    (∀ (resource : String) (expiresAt : Int), InCalendar expiresAt →
      ∃ policy, canned resource expiresAt = .ok policy ∧ (∀ c ∈ policy.toList, c.toNat < 128) ∧
        Json.read policy.toList = .ok (document resource expiresAt)) ∧
    (∀ (resource other policy : String) (expiresAt time : Int),
      canned resource expiresAt = .ok policy → canned other time = .ok policy →
        resource = other ∧ expiresAt = time) ∧
    ∀ (baseUrl keyPairId keyPairId' identity identity' : String) (key key' : SigningKey)
      (ttl ttl' now now' : Value) (link link' : Link),
      Link.sign (.text identity) baseUrl keyPairId key ttl now = .ok link →
      Link.sign (.text identity') baseUrl keyPairId' key' ttl' now' = .ok link' →
      (∃ signature, Link.IsIssued baseUrl keyPairId key link signature) ∧
      (∃ signature, Link.IsIssued baseUrl keyPairId' key' link' signature) ∧
      (identity ≠ identity' ∨ link.expiresAt ≠ link'.expiresAt →
        link.policy baseUrl ≠ link'.policy baseUrl) := by
  refine ⟨?_, ?_, ?_⟩
  · intro resource expiresAt inside
    refine ⟨_, canned_eq_ok_iff.mpr ⟨inside, rfl⟩, ?_, ?_⟩
    · rw [String.toList_ofList]
      exact Json.isAscii_write _
    · rw [String.toList_ofList]
      exact read_text resource inside
  · intro resource other policy expiresAt time made made'
    obtain ⟨inside, rfl⟩ := canned_eq_ok_iff.mp made
    obtain ⟨inside', texts⟩ := canned_eq_ok_iff.mp made'
    exact text_injective inside inside' (String.ofList_injective texts)
  · intro baseUrl keyPairId keyPairId' identity identity' key key' ttl ttl' now now' link link'
      signed signed'
    obtain ⟨_, _, signature, _, _, _, _, issued⟩ := Link.sign_eq_ok_iff.mp signed
    obtain ⟨_, _, signature', _, _, _, _, issued'⟩ := Link.sign_eq_ok_iff.mp signed'
    refine ⟨⟨signature, issued⟩, ⟨signature', issued'⟩, fun different same => ?_⟩
    obtain ⟨identities, times⟩ := Link.eq_of_policy_eq signed signed' same
    rcases different with identitiesDiffer | timesDiffer
    · exact identitiesDiffer identities
    · exact timesDiffer times

/-- A resource that tries to end its string, and two identities that differ in one character. -/
theorem canned_faithful_quote :
    (∃ policy, canned "a\",\"b" 0 = .ok policy ∧
      Json.read policy.toList = .ok (document "a\",\"b" 0)) ∧
    ∃ link link',
      Link.sign (.text "abcde") "https://files.example/" "K1" (.rsa .mersenneKey) (.integer 60)
        (.integer 0) = .ok link ∧
      Link.sign (.text "abcd\"") "https://files.example/" "K1" (.rsa .mersenneKey) (.integer 60)
        (.integer 0) = .ok link' ∧
      link.policy "https://files.example/" ≠ link'.policy "https://files.example/" := by
  obtain ⟨faithful, -, distinct⟩ := canned_faithful
  have issued (identity : String) (long : 4 ≤ identity.toList.length) :=
    Link.exists_issued identity "https://files.example/" "K1" .mersenneKey 60 long
      (by rw [Rsa.PrivateKey.size_mersenneKey]; decide) (.integer 0) (by decide)
  obtain ⟨link, -, signed, -⟩ := issued "abcde" (by decide)
  obtain ⟨link', -, signed', -⟩ := issued "abcd\"" (by decide)
  obtain ⟨policy, made, -, read⟩ := faithful "a\",\"b" 0 (by decide)
  obtain ⟨-, -, differ⟩ := distinct _ _ _ _ _ _ _ _ _ _ _ _ _ signed signed'
  exact ⟨⟨policy, made, read⟩, link, link', signed, signed', differ (.inl (by decide))⟩

end SignedLink.Policy
