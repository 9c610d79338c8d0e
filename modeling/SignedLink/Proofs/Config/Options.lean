import SignedLink.Config.Options
/-!
# SignedLink — which options are read

A row of readings gives options exactly when each reading does. What is read
is in its normal form already: texts are trimmed and not blank, and numbers
are not negative, so the same options can be read again without a change.

A refusal has one of two documented kinds. Besides there are faults, which
belong to no kind, and each of them has its property: a number that is
infinite, a key file with U+0000 in its path, and an integer that is too long
for the message that would tell it.

* `ErrorKind`, `ConfigError.kind?`: the documented kinds of refusal.
* `ofProperties_eq_ok_iff`: the bags that give options, and the options they give.
* `isNormal_of_ofProperties`: options that were read are in their normal form.
* `isFault_of_ofProperties`: the faults that reading can end with, and the properties to blame.
-/

namespace SignedLink

/-! ## Rows of readings -/

/-- A row of two readings succeeds exactly when both do. -/
theorem Except.bind_eq_ok_iff {ε α β : Type} {first : Except ε α} {next : α → Except ε β} {b : β} :
    first >>= next = .ok b ↔ ∃ a, first = .ok a ∧ next a = .ok b := by
  cases first with
  | error e => simp [bind, Except.bind]
  | ok a => simp [bind, Except.bind]

/-- A row of two readings fails when the first does, or else with the failure of the second. -/
theorem Except.bind_eq_error_iff {ε α β : Type} {first : Except ε α} {next : α → Except ε β}
    {e : ε} :
    first >>= next = .error e ↔ first = .error e ∨ ∃ a, first = .ok a ∧ next a = .error e := by
  cases first with
  | error e => simp [bind, Except.bind]
  | ok a => simp [bind, Except.bind]

/-- The same error, or results that are related. -/
inductive Except.Related {ε α β : Type} (related : α → β → Prop) : Except ε α → Except ε β → Prop
    where
  | error (e : ε) : Related related (.error e) (.error e)
  | ok {a : α} {b : β} (results : related a b) : Related related (.ok a) (.ok b)

namespace Except.Related

variable {ε α β γ δ : Type} {related : α → β → Prop} {x : Except ε α} {y : Except ε β}

theorem of_eq {x y : Except ε α} (same : x = y) : Related Eq x y := by
  subst same
  cases x with
  | error e => exact .error e
  | ok a => exact .ok rfl

/-- Rows of two readings that are related one by one. -/
theorem bind {others : γ → δ → Prop} {next : α → Except ε γ} {other : β → Except ε δ}
    (first : Related related x y) (rest : ∀ a b, related a b → Related others (next a) (other b)) :
    Related others (x >>= next) (y >>= other) := by
  cases first with
  | error e => exact .error e
  | ok results => exact rest _ _ results

/-- The two ends of related outcomes. -/
theorem elim (outcomes : Related related x y) :
    (∃ e, x = .error e ∧ y = .error e) ∨ ∃ a b, x = .ok a ∧ y = .ok b ∧ related a b := by
  cases outcomes with
  | error e => exact .inl ⟨e, rfl, rfl⟩
  | ok results => exact .inr ⟨_, _, rfl, rfl, results⟩

/-- To be related to a result by a function is to be its image. -/
theorem eq_map_iff {f : α → β} : Related (fun a b => b = f a) x y ↔ y = x.map f := by
  constructor
  · rintro (_ | ⟨rfl⟩)
    · rfl
    · rfl
  · rintro rfl
    cases x with
    | error e => exact .error e
    | ok a => exact .ok rfl

end Except.Related

/-! ## Kinds of refusal -/

/-- The documented kinds of refusal. -/
inductive ErrorKind where
  | configuration
  | keyFormat
deriving DecidableEq

/-- The kind of a refusal. A fault is of no kind. -/
def ConfigError.kind? : ConfigError → Option ErrorKind
  | .fault _ => none
  | .key e => some (if e.isConfiguration then .configuration else .keyFormat)
  | _ => some .configuration

/-- Exactly the faults have no kind. -/
theorem ConfigError.kind?_eq_none_iff {e : ConfigError} : e.kind? = none ↔ ∃ f, e = .fault f := by
  cases e <;> simp [kind?]

namespace Value

/-- Whether there is an integer that cannot be written in a value, or in what it stands for. -/
def HasLongInteger (v : Value) : Prop :=
  v.isWritable = false ∨ ∃ n, v.toInteger = .ok n ∧ (integer n).isWritable = false

/-- Only an infinite number has no whole part for being infinite. -/
theorem infinite_of_toInteger {v : Value} (h : v.toInteger = .error .wholeOfInfinity) :
    ∃ negative, v = .real (.infinite negative) := by
  cases v with
  | real x =>
    cases x with
    | infinite negative => exact ⟨negative, rfl⟩
    | nan => simp [toInteger, wholePart] at h
    | finite s m e => simp [toInteger, wholePart_finite] at h
  | text s =>
    obtain bad | ⟨n, long⟩ := numeral_error h
    · cases bad
    · cases long
  | octets bytes =>
    obtain bad | ⟨n, long⟩ := numeral_error h
    · cases bad
    · cases long
  | _ => simp [toInteger] at h

end Value

namespace Property

/-! ## One property -/

/-- An integer that is not negative is read as it is. -/
theorem wholeNumber_integer {name : String} {default n : Int} (nonneg : 0 ≤ n) :
    wholeNumber name default (.integer n) = .ok n := by
  have : ¬ n < 0 := by omega
  simp [wholeNumber, isUnset, Value.toInteger, this]

theorem nonneg_of_wholeNumber {name : String} {default n : Int} {v : Value}
    (fallback : 0 ≤ default) (read : wholeNumber name default v = .ok n) : 0 ≤ n := by
  -- the default is not looked at again
  rcases wholeNumber_nonneg read with rfl | nonneg
  · exact fallback
  · exact nonneg

/-- A refusal that tells a value is a fault only for a value that cannot be written. -/
theorem refusal_eq_fault {v : Value} {error : String → ConfigError} {f : Fault}
    (own : ∀ shown f, error shown ≠ .fault f) (h : refusal v error = .fault f) :
    f = .longInteger ∧ v.isWritable = false := by
  unfold refusal at h
  split at h
  · exact absurd h (own _ _)
  · next unwritten =>
    cases h
    exact Value.written_eq_error_iff.mp unwritten

/-- The faults of reading a number: an infinite one, and an integer that is too long to be told. -/
theorem fault_of_wholeNumber {name : String} {default : Int} {v : Value} {f : Fault}
    (h : wholeNumber name default v = .error (.fault f)) :
    (f = .wholeOfInfinity ∧ ∃ negative, v = .real (.infinite negative)) ∨
      (f = .longInteger ∧ v.HasLongInteger) := by
  unfold wholeNumber at h
  split at h
  · simp at h
  · split at h
    · simp at h
    · split at h
      · next infinite =>
        cases h
        exact .inl ⟨rfl, Value.infinite_of_toInteger infinite⟩
      · -- the value itself is told
        obtain ⟨rfl, unwritable⟩ := refusal_eq_fault (by simp) (Except.error.inj h)
        exact .inr ⟨rfl, .inl unwritable⟩
      · next n stands =>
        split at h
        · -- the integer is told, and not the value that it was read from
          obtain ⟨rfl, unwritable⟩ := refusal_eq_fault (by simp) (Except.error.inj h)
          exact .inr ⟨rfl, .inr ⟨n, stands, unwritable⟩⟩
        · simp at h

/-- A required text is the trimmed form of a value, and there is something left of it. -/
theorem requiredText_eq_ok_iff {name s : String} {v : Value} :
    requiredText name v = .ok s ↔
      v.isNull = false ∧ ∃ told, v.told = .ok told ∧ Text.trim told = s ∧ s ≠ "" := by
  unfold requiredText
  cases null : v.isNull with
  | true => simp [Text.trim, Text.trimChars, Text.trimBy, Text.dropTail]
  | false =>
    cases told : v.told with
    | error f => simp
    | ok t =>
      by_cases blank : Text.trim t = ""
      · simp [blank]
      · simp [blank]
        rintro rfl
        exact blank

/-- The fault of reading a required text is an integer that is too long to be told. -/
theorem fault_of_requiredText {name : String} {v : Value} {f : Fault}
    (h : requiredText name v = .error (.fault f)) : f = .longInteger ∧ v.HasLongInteger := by
  unfold requiredText at h
  split at h
  · next untold =>
    cases h
    split at untold
    · simp at untold
    · obtain ⟨rfl, unwritable⟩ := Value.told_eq_error_iff.mp untold
      exact ⟨rfl, .inl unwritable⟩
  · dsimp only at h
    split at h <;> simp at h

/-- Where a text may be left out there are no faults. -/
theorem optionalText_ne_fault (name : String) (pathAllowed : Bool) (v : Value) (f : Fault) :
    optionalText name pathAllowed v ≠ .error (.fault f) := by
  unfold optionalText
  split
  · simp
  · simp
  · split <;> simp
  · simp

/-- A text that may be left out, and is there, is the trimmed form of a text or a path. -/
theorem optionalText_eq_ok {name s : String} {pathAllowed : Bool} {v : Value}
    (read : optionalText name pathAllowed v = .ok s) (nonempty : s ≠ "") :
    ∃ told, (v = .text told ∨ v = .path told) ∧ Text.trim told = s := by
  unfold optionalText at read
  split at read
  · exact absurd (Except.ok.inj read).symm nonempty
  · next told => exact ⟨told, .inl rfl, Except.ok.inj read⟩
  · next told =>
    split at read
    · exact ⟨told, .inr rfl, Except.ok.inj read⟩
    · simp at read
  · simp at read

end Property

namespace Options

/-! ## All properties -/

/-- The bags that give options, and the options they give. -/
theorem ofProperties_eq_ok_iff {properties : Fields} {options : Options} :
    ofProperties properties = .ok options ↔
      Property.requiredText Property.cloudFrontUrl (Fields.get properties Property.cloudFrontUrl) =
        .ok options.baseUrl ∧
      Property.requiredText Property.keyPairId (Fields.get properties Property.keyPairId) =
        .ok options.keyPairId ∧
      Property.wholeNumber Property.ttl Property.defaultTtlSeconds
        (Fields.get properties Property.ttl) = .ok options.ttlSeconds ∧
      Property.wholeNumber Property.minSize Property.defaultMinSizeKb
        (Fields.get properties Property.minSize) = .ok options.minSizeKb ∧
      keySourceOf properties = .ok options.keySource := by
  unfold ofProperties
  simp only [Except.bind_eq_ok_iff]
  constructor
  · rintro ⟨baseUrl, address, keyPairId, named, ttlSeconds, ttl, minSizeKb, size, keySource, source,
      made⟩
    cases made
    exact ⟨address, named, ttl, size, source⟩
  · rintro ⟨address, named, ttl, size, source⟩
    exact ⟨_, address, _, named, _, ttl, _, size, _, source, rfl⟩

/-- Two bags in which all but the address and the key is read alike. -/
structure ReadAlike (first second : Fields) : Prop where
  named : Property.requiredText Property.keyPairId (Fields.get second Property.keyPairId) =
    Property.requiredText Property.keyPairId (Fields.get first Property.keyPairId)
  ttl : Property.wholeNumber Property.ttl Property.defaultTtlSeconds
      (Fields.get second Property.ttl) =
    Property.wholeNumber Property.ttl Property.defaultTtlSeconds (Fields.get first Property.ttl)
  size : Property.wholeNumber Property.minSize Property.defaultMinSizeKb
      (Fields.get second Property.minSize) =
    Property.wholeNumber Property.minSize Property.defaultMinSizeKb
      (Fields.get first Property.minSize)

theorem ReadAlike.of_get {first second : Fields}
    (same : ∀ name ∈ [Property.keyPairId, Property.ttl, Property.minSize],
      Fields.get second name = Fields.get first name) : ReadAlike first second where
  named := by rw [same _ (by simp)]
  ttl := by rw [same _ (by simp)]
  size := by rw [same _ (by simp)]

/-- Bags in which all else is read alike are read to options that are the same but for the address
and the source of the key, and to the same refusals. -/
theorem ofProperties_related {first second : Fields} {addresses : String → String → Prop}
    {sources : KeySource → KeySource → Prop}
    (addressed : Except.Related addresses
      (Property.requiredText Property.cloudFrontUrl (Fields.get first Property.cloudFrontUrl))
      (Property.requiredText Property.cloudFrontUrl (Fields.get second Property.cloudFrontUrl)))
    (alike : ReadAlike first second)
    (keyed : Except.Related sources (keySourceOf first) (keySourceOf second)) :
    Except.Related (fun options other => ∃ address source, addresses options.baseUrl address ∧
        sources options.keySource source ∧
        other = { options with baseUrl := address, keySource := source })
      (ofProperties first) (ofProperties second) := by
  unfold ofProperties
  rw [alike.named, alike.ttl, alike.size]
  -- the row of either ends at the same reading
  refine addressed.bind fun _ address addresses => ?_
  refine (Except.Related.of_eq rfl).bind fun keyPairId _ same => ?_
  subst same
  refine (Except.Related.of_eq rfl).bind fun ttlSeconds _ same => ?_
  subst same
  refine (Except.Related.of_eq rfl).bind fun minSizeKb _ same => ?_
  subst same
  refine keyed.bind fun _ source sources => ?_
  exact .ok ⟨address, source, addresses, sources, rfl⟩

/-- The same where the second address and the second source of the key are functions of the
first. -/
theorem ofProperties_map {first second : Fields} {address : String → String}
    {source : KeySource → KeySource}
    (addressed : Property.requiredText Property.cloudFrontUrl
        (Fields.get second Property.cloudFrontUrl) =
      (Property.requiredText Property.cloudFrontUrl
        (Fields.get first Property.cloudFrontUrl)).map address)
    (alike : ReadAlike first second)
    (keyed : keySourceOf second = (keySourceOf first).map source) :
    ofProperties second = (ofProperties first).map fun options =>
      { options with
        baseUrl := address options.baseUrl
        keySource := source options.keySource } := by
  have related := ofProperties_related (Except.Related.eq_map_iff.mpr addressed) alike
    (Except.Related.eq_map_iff.mpr keyed)
  rw [← Except.Related.eq_map_iff]
  rcases related.elim with ⟨e, first, second⟩ | ⟨options, other, first, second, same⟩
  · rw [first, second]
    exact .error e
  · obtain ⟨_, _, rfl, rfl, rfl⟩ := same
    rw [first, second]
    exact .ok rfl

/-- The normal form of options. -/
structure IsNormal (options : Options) : Prop where
  trimmed : Text.trimChars options.baseUrl.toList = options.baseUrl.toList
  addressed : options.baseUrl ≠ ""
  named : options.keyPairId ≠ ""
  ttl_nonneg : 0 ≤ options.ttlSeconds
  size_nonneg : 0 ≤ options.minSizeKb

/-- Options that were read are in their normal form. -/
theorem isNormal_of_ofProperties {properties : Fields} {options : Options}
    (read : ofProperties properties = .ok options) : options.IsNormal := by
  obtain ⟨address, named, ttl, size, -⟩ := ofProperties_eq_ok_iff.mp read
  obtain ⟨-, told, -, trimmed, addressed⟩ := Property.requiredText_eq_ok_iff.mp address
  refine ⟨?_, addressed, Property.requiredText_ne_empty named,
    Property.nonneg_of_wholeNumber (by decide) ttl, Property.nonneg_of_wholeNumber (by decide) size⟩
  rw [← trimmed, Text.trim, String.toList_ofList, Text.trimChars_idem]

/-- The key is looked for in a file exactly when one is named, by a text or a path. -/
theorem file_of_keySourceOf {properties : Fields} {path : String}
    (read : keySourceOf properties = .ok (.file path)) :
    ∃ told, (Fields.get properties Property.privateKeyFile = .text told ∨
        Fields.get properties Property.privateKeyFile = .path told) ∧ Text.trim told = path := by
  unfold keySourceOf at read
  obtain ⟨file, named, rest⟩ := Except.bind_eq_ok_iff.mp read
  split at rest
  · obtain ⟨text, -, inline⟩ := Except.bind_eq_ok_iff.mp rest
    cases inline
  · next nonempty =>
    cases rest
    exact Property.optionalText_eq_ok named fun empty => nonempty (by rw [empty]; rfl)

/-- Finding the source of the key has no faults. -/
theorem keySourceOf_ne_fault (properties : Fields) (f : Fault) :
    keySourceOf properties ≠ .error (.fault f) := by
  intro fault
  unfold keySourceOf at fault
  rcases Except.bind_eq_error_iff.mp fault with named | ⟨file, -, rest⟩
  · exact Property.optionalText_ne_fault _ _ _ _ named
  · split at rest
    · rcases Except.bind_eq_error_iff.mp rest with given | ⟨text, -, inline⟩
      · exact Property.optionalText_ne_fault _ _ _ _ given
      · cases inline
    · cases rest

/-! ## Faults -/

/-- The faults that a bag of properties can end with, and the property to blame for each. -/
inductive IsFault (properties : Fields) : Fault → Prop where
  /-- a number is infinite -/
  | infinite {name : String} (number : name ∈ [Property.ttl, Property.minSize]) (negative : Bool)
      (given : Fields.get properties name = .real (.infinite negative)) :
      IsFault properties .wholeOfInfinity
  /-- the path of the key file has U+0000 -/
  | nulInPath (path : String)
      (given : Fields.get properties Property.privateKeyFile = .text path ∨
        Fields.get properties Property.privateKeyFile = .path path) (nul : '\x00' ∈ path.toList) :
      IsFault properties .nulInPath
  /-- an integer is too long for the text that is made of it -/
  | longInteger {name : String}
      (told : name ∈ [Property.cloudFrontUrl, Property.keyPairId, Property.ttl, Property.minSize])
      (long : (Fields.get properties name).HasLongInteger) : IsFault properties .longInteger

theorem isFault_of_wholeNumber {properties : Fields} {name : String} {default : Int} {f : Fault}
    (number : name ∈ [Property.ttl, Property.minSize])
    (h : Property.wholeNumber name default (Fields.get properties name) = .error (.fault f)) :
    IsFault properties f := by
  rcases Property.fault_of_wholeNumber h with ⟨rfl, negative, given⟩ | ⟨rfl, long⟩
  · exact .infinite number negative given
  · exact .longInteger (List.mem_cons_of_mem _ (List.mem_cons_of_mem _ number)) long

/-- The faults that reading can end with, and the properties to blame. -/
theorem isFault_of_ofProperties {properties : Fields} {f : Fault}
    (h : ofProperties properties = .error (.fault f)) : IsFault properties f := by
  unfold ofProperties at h
  -- the row ends at the first reading that fails, and each reading has faults of its own
  rcases Except.bind_eq_error_iff.mp h with address | ⟨baseUrl, -, h⟩
  · obtain ⟨rfl, long⟩ := Property.fault_of_requiredText address
    exact .longInteger (by simp) long
  rcases Except.bind_eq_error_iff.mp h with named | ⟨keyPairId, -, h⟩
  · obtain ⟨rfl, long⟩ := Property.fault_of_requiredText named
    exact .longInteger (by simp) long
  rcases Except.bind_eq_error_iff.mp h with ttl | ⟨ttlSeconds, -, h⟩
  · exact isFault_of_wholeNumber (by simp) ttl
  rcases Except.bind_eq_error_iff.mp h with size | ⟨minSizeKb, -, h⟩
  · exact isFault_of_wholeNumber (by simp) size
  rcases Except.bind_eq_error_iff.mp h with source | ⟨keySource, -, h⟩
  · exact absurd source (keySourceOf_ne_fault properties f)
  · cases h

/-- The fault of reading a key file is U+0000 in its path. -/
theorem fault_of_keyText_file {files : FileSystem} {path : String} {f : Fault}
    (h : keyText files (.file path) = .error (.fault f)) :
    f = .nulInPath ∧ '\x00' ∈ path.toList := by
  -- of the errors of a file only faults are handed on as they are
  simp only [keyText] at h
  split at h
  · simp at h
  · next unread =>
    cases h
    exact FileSystem.readText_fault unread
  · simp at h

/-- The fault of reading the text of the key is a key file with U+0000 in its path. -/
theorem isFault_of_keyText {files : FileSystem} {properties : Fields} {source : KeySource}
    {f : Fault} (found : keySourceOf properties = .ok source)
    (h : keyText files source = .error (.fault f)) : IsFault properties f := by
  cases source with
  | inline text => simp [keyText] at h
  | file path =>
    obtain ⟨rfl, nul⟩ := fault_of_keyText_file h
    obtain ⟨told, given, rfl⟩ := file_of_keySourceOf found
    refine .nulInPath told given ?_
    rw [Text.trim, String.toList_ofList] at nul
    exact Text.mem_of_mem_trimChars nul

end Options

end SignedLink
