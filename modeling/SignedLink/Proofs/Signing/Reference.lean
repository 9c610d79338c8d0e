import SignedLink.Proofs.Rsa.Primality
import SignedLink.Proofs.Signing.Parts
import SignedLink.Proofs.Signing.Success
/-!
# SignedLink — how others read an address

A browser and a server take an address apart from the left: a fragment behind
the first `#`, which is never sent, and in front of it a query behind the first
`?`. The identity of a link stands in front of the parameters as it is. So the
parameters are read as they were issued, for every base address and every name
of a key pair without these characters, exactly when the identity has none of
them either: behind a `#` all parameters are lost to the fragment, and a `?`
ends the resource inside the identity.

* `Reference.ofString`, `Reference.parameters`: an address in the general grammar.
* `Presents`: a reader finds the resource and the parameters that were issued.
* `IsIssued.presents_iff`: exactly identities without `?` and `#` are presented so.
* `exists_presented`: the same of the link that a call gives.
-/

namespace SignedLink

/-! ## Addresses in general -/

/-- What stands before the first mark, and what stands behind it if there is one. -/
def Text.cut (mark : Char) (cs : List Char) : List Char × Option (List Char) :=
  (cs.takeWhile (· != mark), (cs.dropWhile (· != mark)).tail?)

/-- An address taken apart. -/
structure Reference where
  resource : List Char
  query? : Option (List Char)
  fragment? : Option (List Char)
deriving DecidableEq

namespace Reference

/-- The fragment is behind the first `#`, and the query behind the first `?` in front of it. -/
def ofString (address : String) : Reference :=
  let (front, fragment?) := Text.cut '#' address.toList
  let (resource, query?) := Text.cut '?' front
  { resource, query?, fragment? }

/-- The parameters of the query, each with what stands behind its first `=`. -/
def parameters (reference : Reference) : List (List Char × Option (List Char)) :=
  match reference.query? with
  | none => []
  | some query => (query.splitOn '&').map (Text.cut '=')

end Reference

namespace Text

variable {mark : Char} {cs before : List Char}

theorem cut_of_not_mem (absent : mark ∉ cs) : cut mark cs = (cs, none) := by
  rw [cut, takeWhile_of_not_mem absent, dropWhile_of_not_mem absent]
  rfl

theorem cut_append (absent : mark ∉ before) (rest : List Char) :
    cut mark (before ++ mark :: rest) = (before, some rest) := by
  rw [cut, takeWhile_append_mark absent, dropWhile_append_mark absent]
  rfl

/-- There is no mark before the first one. -/
theorem not_mem_cut_fst : mark ∉ (cut mark cs).1 := by
  intro mem
  have differs := List.mem_takeWhile_imp mem
  simp at differs

/-- What is cut has a part behind the mark exactly when it holds one. -/
theorem cut_snd_eq_none_iff : (cut mark cs).2 = none ↔ mark ∉ cs := by
  constructor
  · intro nothing mem
    obtain ⟨before, rest, rfl, absent⟩ := List.eq_append_cons_of_mem mem
    rw [cut_append absent] at nothing
    cases nothing
  · intro absent
    rw [cut_of_not_mem absent]

/-- What stands in a row is of the separator or of one of the parts. -/
theorem mem_intercalate {c : Char} {separator : List Char} {parts : List (List Char)}
    (mem : c ∈ separator.intercalate parts) : c ∈ separator ∨ ∃ part ∈ parts, c ∈ part := by
  induction parts with
  | nil => simp [List.intercalate] at mem
  | cons part rest ih =>
    cases rest with
    | nil => exact .inr ⟨part, by simp, by simpa [List.intercalate] using mem⟩
    | cons next more =>
      have split : separator.intercalate (part :: next :: more) =
          part ++ (separator ++ separator.intercalate (next :: more)) := by
        simp [List.intercalate]
      rw [split, List.mem_append, List.mem_append] at mem
      rcases mem with here | between | later
      · exact .inr ⟨part, by simp, here⟩
      · exact .inl between
      · rcases ih later with between | ⟨part, among, inside⟩
        · exact .inl between
        · exact .inr ⟨part, List.mem_cons_of_mem _ among, inside⟩

end Text

namespace Reference

variable {resource query : List Char}

/-- A resource without marks is found in front of a query without a fragment. -/
theorem ofString_append (noQuery : '?' ∉ resource) (noFragment : '#' ∉ resource)
    (whole : '#' ∉ query) :
    ofString (.ofList (resource ++ '?' :: query)) = ⟨resource, some query, none⟩ := by
  have uncut : '#' ∉ resource ++ '?' :: query := by simp [noFragment, whole]
  rw [ofString, String.toList_ofList, Text.cut_of_not_mem uncut]
  dsimp only
  rw [Text.cut_append noQuery]

/-- There is a fragment exactly when there is a `#` in the address. -/
theorem fragment?_eq_none_iff {address : String} :
    (ofString address).fragment? = none ↔ '#' ∉ address.toList :=
  Text.cut_snd_eq_none_iff

/-- A resource never holds a `?`. -/
theorem not_mem_resource {address : String} : '?' ∉ (ofString address).resource :=
  Text.not_mem_cut_fst

/-- Parameters without ampersands, put in a row. -/
theorem parameters_of_query {parts : List (List Char)} {fragment? : Option (List Char)}
    (nonempty : parts ≠ []) (noAmp : ∀ part ∈ parts, '&' ∉ part) :
    parameters ⟨resource, some (['&'].intercalate parts), fragment?⟩ =
      parts.map (Text.cut '=') := by
  rw [parameters]
  dsimp only
  rw [List.splitOn_intercalate '&' noAmp nonempty]

end Reference

/-! ## Identities in addresses -/

/-- A storage key holds the characters of its identity and a hyphen. -/
theorem StorageKey.mem_iff_of_ofText? {identity storageKey : String} {c : Char} (other : c ≠ '-')
    (stored : ofText? identity = some storageKey) :
    c ∈ storageKey.toList ↔ c ∈ identity.toList := by
  unfold ofText? at stored
  split at stored
  · cases stored
  · cases stored
    rw [String.toList_ofList, insertHyphen, List.mem_append, List.mem_cons]
    simp only [other, false_or]
    rw [← List.mem_append, List.take_append_drop]

namespace Link

variable {baseUrl keyPairId : String} {key : SigningKey} {link : Link} {signature : List UInt8}

/-- None of the characters at which an address is cut is in the text of a signature. -/
theorem mark_not_mem_signatureText {mark : Char} (special : mark ∈ ['?', '#', '&']) :
    mark ∉ signatureText signature := by
  intro mem
  obtain ⟨d, character, rfl⟩ := exists_of_mem_signatureText mem
  have plain : Base64.characters.all
      (fun c => decide (substituteChar c ∉ ['?', '#', '&'])) = true := by decide +kernel
  exact absurd special (by simpa using List.all_eq_true.mp plain d character)

/-- A reader of an address finds no fragment, the resource, and the three parameters as they were
issued. -/
structure Presents (baseUrl keyPairId : String) (link : Link) (signature : List UInt8) : Prop where
  fragment? : (Reference.ofString link.url).fragment? = none
  resource : (Reference.ofString link.url).resource = (baseUrl ++ link.storageKey).toList
  parameters : (Reference.ofString link.url).parameters =
    [("Expires".toList, some (Text.decimal link.expiresAt)),
      ("Signature".toList, some (signatureText signature)),
      ("Key-Pair-Id".toList, some keyPairId.toList)]

/-- The parameters as they stand in an address. -/
def parameterTexts (expiresAt : Int) (signature : List UInt8) (keyPairId : List Char) :
    List (List Char) :=
  ["Expires".toList ++ '=' :: Text.decimal expiresAt,
    "Signature".toList ++ '=' :: signatureText signature,
    "Key-Pair-Id".toList ++ '=' :: keyPairId]

variable (resource : List Char) (expiresAt : Int) (signature : List UInt8)

theorem compose_eq (keyPairId : List Char) :
    compose resource expiresAt signature keyPairId =
      resource ++ separator resource ::
        ['&'].intercalate (parameterTexts expiresAt signature keyPairId) := by
  have expires : expiresName = "Expires".toList ++ ['='] := by decide +kernel
  have signed : signatureName = '&' :: ("Signature".toList ++ ['=']) := by decide +kernel
  have keyPair : keyPairName = '&' :: ("Key-Pair-Id".toList ++ ['=']) := by decide +kernel
  rw [compose, expires, signed, keyPair, parameterTexts]
  generalize "Expires".toList = first, "Signature".toList = second, "Key-Pair-Id".toList = third
  simp [List.intercalate]

theorem not_mem_parameterTexts {mark : Char} {keyPairId : List Char} (special : mark ∈ ['#', '&'])
    (fresh : mark ∉ keyPairId) :
    ∀ part ∈ parameterTexts expiresAt signature keyPairId, mark ∉ part := by
  have names : ["Expires", "Signature", "Key-Pair-Id"].all (fun name =>
      ['#', '&'].all fun c => !(name.toList ++ ['=']).contains c) = true := by decide +kernel
  have noName : ∀ name ∈ ["Expires", "Signature", "Key-Pair-Id"], mark ∉ name.toList ++ ['='] := by
    intro name among mem
    have fresh := List.all_eq_true.mp (List.all_eq_true.mp names name among) mark special
    rw [List.contains_iff_mem.mpr mem] at fresh
    cases fresh
  have noDigit : mark ∉ Text.decimal expiresAt := by
    rcases List.mem_pair.mp special with rfl | rfl
    · exact Text.not_mem_decimal (by decide) (by decide) expiresAt
    · exact Text.not_mem_decimal (by decide) (by decide) expiresAt
  have noSignature : mark ∉ signatureText signature :=
    mark_not_mem_signatureText (List.mem_cons_of_mem _ special)
  intro part mem
  simp only [parameterTexts, List.mem_cons, List.not_mem_nil, or_false] at mem
  -- a part holds its name, an equals sign and its value
  have apart {name value : List Char} (front : mark ∉ name ++ ['=']) (noValue : mark ∉ value) :
      mark ∉ name ++ '=' :: value := by
    simp only [List.mem_append, List.mem_cons, List.not_mem_nil, or_false, not_or] at front ⊢
    exact ⟨front.1, front.2, noValue⟩
  rcases mem with rfl | rfl | rfl
  · exact apart (noName _ (by simp)) noDigit
  · exact apart (noName _ (by simp)) noSignature
  · exact apart (noName _ (by simp)) fresh

theorem map_cut_parameterTexts (keyPairId : List Char) :
    (parameterTexts expiresAt signature keyPairId).map (Text.cut '=') =
      [("Expires".toList, some (Text.decimal expiresAt)),
        ("Signature".toList, some (signatureText signature)),
        ("Key-Pair-Id".toList, some keyPairId)] := by
  simp only [parameterTexts, List.map_cons, List.map_nil]
  rw [Text.cut_append (by decide), Text.cut_append (by decide), Text.cut_append (by decide)]

/-- A link is presented as it was issued exactly when its resource holds neither mark. -/
theorem IsIssued.presents_iff {signature : List UInt8}
    (issued : IsIssued baseUrl keyPairId key link signature)
    (noAmp : '&' ∉ keyPairId.toList) (noFragment : '#' ∉ keyPairId.toList) :
    Presents baseUrl keyPairId link signature ↔
      '?' ∉ (baseUrl ++ link.storageKey).toList ∧ '#' ∉ (baseUrl ++ link.storageKey).toList := by
  have composed : link.url = .ofList ((baseUrl ++ link.storageKey).toList ++
      separator (baseUrl ++ link.storageKey).toList ::
        ['&'].intercalate (parameterTexts link.expiresAt signature keyPairId.toList)) := by
    rw [issued.url_eq, compose_eq]
  constructor
  · -- what is read as the resource has no `?`, and without a fragment there is no `#` at all
    intro presents
    constructor
    · rw [← presents.resource]
      exact Reference.not_mem_resource
    · have whole := Reference.fragment?_eq_none_iff.mp presents.fragment?
      rw [composed, String.toList_ofList] at whole
      exact fun mem => whole (List.mem_append_left _ mem)
  · -- the separator is the first `?`, and everything behind it is the query
    rintro ⟨noQuery, noMark⟩
    have separates : separator (baseUrl ++ link.storageKey).toList = '?' := by
      rw [separator, if_neg (by simpa using noQuery)]
    have query :
        '#' ∉ ['&'].intercalate (parameterTexts link.expiresAt signature keyPairId.toList) := by
      intro mem
      rcases Text.mem_intercalate mem with between | ⟨part, among, inside⟩
      · exact absurd between (by decide)
      · exact not_mem_parameterTexts _ _ (by decide) noFragment part among inside
    have read := Reference.ofString_append noQuery noMark query
    rw [← separates, ← composed] at read
    refine ⟨by rw [read], by rw [read], ?_⟩
    rw [read, Reference.parameters_of_query (by simp [parameterTexts])
      (not_mem_parameterTexts _ _ (by decide) noAmp), map_cut_parameterTexts]

/-- The link of a call with a long enough RSA key and identity and an expiry of the calendar is
presented as it was issued exactly when the identity holds neither a `?` nor a `#`, where neither
does the base address, and the name of the key pair holds no `&` and no `#`. -/
theorem exists_presented (identity baseUrl keyPairId : String) (key : Rsa.PrivateKey) (ttl : Int)
    {now : Value} {start : Int} (long : 4 ≤ identity.toList.length) (enough : 46 ≤ key.size)
    (reading : IsReading now start) (inside : Policy.InCalendar (start + ttl))
    (baseNoQuery : '?' ∉ baseUrl.toList) (baseNoFragment : '#' ∉ baseUrl.toList)
    (noAmp : '&' ∉ keyPairId.toList) (noFragment : '#' ∉ keyPairId.toList) :
    ∃ link signature,
      sign (.text identity) baseUrl keyPairId (.rsa key) (.integer ttl) now = .ok link ∧
      StorageKey.ofText? identity = some link.storageKey ∧ link.expiresAt = start + ttl ∧
      signPolicy (.rsa key) (link.policy baseUrl) = .ok signature ∧
      (Presents baseUrl keyPairId link signature ↔
        '?' ∉ identity.toList ∧ '#' ∉ identity.toList) := by
  obtain ⟨link, signature, signed, stored, expires, issued⟩ :=
    exists_issued identity baseUrl keyPairId key ttl long enough reading inside
  refine ⟨link, signature, signed, stored, expires, issued.signed, ?_⟩
  rw [issued.presents_iff noAmp noFragment, String.toList_append, List.mem_append, List.mem_append,
    StorageKey.mem_iff_of_ofText? (by decide) stored,
    StorageKey.mem_iff_of_ofText? (by decide) stored]
  simp [baseNoQuery, baseNoFragment]

/-- An identity that is an address in parts of its own, but without marks. -/
theorem exists_presented_imitation :
    ∃ link signature,
      sign (.text "abcd&Expires=1/../x=y") "https://files.example/" "K1" (.rsa .mersenneKey)
        (.integer 60) (.integer 0) = .ok link ∧
      Presents "https://files.example/" "K1" link signature := by
  obtain ⟨link, signature, signed, -, -, -, presents⟩ :=
    exists_presented "abcd&Expires=1/../x=y" "https://files.example/" "K1" .mersenneKey 60
      (by decide) (by rw [Rsa.PrivateKey.size_mersenneKey]; decide) (.integer 0) (by decide)
      (by decide) (by decide) (by decide) (by decide)
  exact ⟨link, signature, signed, presents.mpr (by decide)⟩

/-- A `#` in the identity makes a fragment of the parameters, and a `?` ends the resource. -/
theorem not_presents_marks :
    (∃ link signature,
      sign (.text "ab#cd") "https://files.example/" "K1" (.rsa .mersenneKey) (.integer 60)
        (.integer 0) = .ok link ∧
      IsIssued "https://files.example/" "K1" (.rsa .mersenneKey) link signature ∧
      (Reference.ofString link.url).fragment? ≠ none) ∧
    ∃ link signature,
      sign (.text "ab?cd") "https://files.example/" "K1" (.rsa .mersenneKey) (.integer 60)
        (.integer 0) = .ok link ∧
      IsIssued "https://files.example/" "K1" (.rsa .mersenneKey) link signature ∧
      (Reference.ofString link.url).resource ≠
        ("https://files.example/" ++ link.storageKey).toList := by
  have enough : Rsa.leastSize ≤ Rsa.PrivateKey.mersenneKey.size := by
    rw [Rsa.PrivateKey.size_mersenneKey]
    decide
  constructor
  · obtain ⟨link, signature, signed, stored, -, issued⟩ :=
      exists_issued "ab#cd" "https://files.example/" "K1" .mersenneKey 60 (by decide) enough
        (.integer 0) (by decide)
    refine ⟨link, signature, signed, issued, fun nothing => ?_⟩
    have whole := Reference.fragment?_eq_none_iff.mp nothing
    have inside : '#' ∈ link.storageKey.toList :=
      (StorageKey.mem_iff_of_ofText? (by decide) stored).mpr (by decide)
    rw [issued.url_eq, compose, String.toList_ofList, String.toList_append] at whole
    exact whole (List.mem_append_left _ (List.mem_append_right _ inside))
  · obtain ⟨link, signature, signed, stored, -, issued⟩ :=
      exists_issued "ab?cd" "https://files.example/" "K1" .mersenneKey 60 (by decide) enough
        (.integer 0) (by decide)
    refine ⟨link, signature, signed, issued, fun whole => ?_⟩
    have inside : '?' ∈ link.storageKey.toList :=
      (StorageKey.mem_iff_of_ofText? (by decide) stored).mpr (by decide)
    have noQuery : '?' ∉ (Reference.ofString link.url).resource := Reference.not_mem_resource
    rw [whole, String.toList_append] at noQuery
    exact noQuery (List.mem_append_right _ inside)

end Link

end SignedLink
