import SignedLink.Proofs.Config.Signer
import SignedLink.Proofs.Key.Spelling
import SignedLink.Proofs.Text.Utf8
/-!
# SignedLink — where the key comes from

The text of a key may be in a file or in the bag itself. A file goes first,
whatever else is in the bag; its octets are decoded and its line ends unified,
and it is not trimmed. A text in the bag is trimmed and keeps its line ends.
Both end alike, since the key does not depend on these, and the refusals do not
either.

* `readText_encode`: the octets of a text are read as the text, up to its line ends.
* `ofProperties_of_keyFile`: a bag with a file has the outcome of a bag with its text.
-/

namespace SignedLink

variable {properties filed inline : Fields} {files : FileSystem} {path : String}
  {written : List Char} {text : String}

/-- The octets of a text are read as the text, up to its line ends. -/
theorem FileSystem.readText_encode (noNul : '\x00' ∉ path.toList)
    (contents : files.contents path = .ok (Text.Utf8.encode written)) :
    files.readText path = .ok (.ofList (Text.unifyNewlines written)) := by
  refine readText_eq_ok_iff.mpr ⟨noNul, _, contents, ?_⟩
  rw [textOfOctets, Text.Utf8.decode_encode]

namespace Options

/-! ## The source -/

/-- A bag names a file for the key, and this text is in the file. -/
structure HasKeyFile (properties : Fields) (files : FileSystem) (written : List Char) : Prop where
  named : ∃ told, (Fields.get properties Property.privateKeyFile = .text told ∨
      Fields.get properties Property.privateKeyFile = .path told) ∧
    Text.trim told ≠ "" ∧ '\x00' ∉ (Text.trim told).toList ∧
    files.contents (Text.trim told) = .ok (Text.Utf8.encode written)

/-- A bag names no file for the key, or a blank one, and it holds this text. -/
structure HasKeyText (properties : Fields) (text : String) : Prop where
  unnamed : Fields.get properties Property.privateKeyFile = .null ∨
    ∃ told, (Fields.get properties Property.privateKeyFile = .text told ∨
      Fields.get properties Property.privateKeyFile = .path told) ∧ Text.trim told = ""
  given : Fields.get properties Property.privateKey = .text text

/-- A file that is named is the source of the key, whatever else is there. -/
theorem HasKeyFile.keySourceOf (named : HasKeyFile properties files written) :
    ∃ path, keySourceOf properties = .ok (.file path) ∧
      keyText files (.file path) = .ok (.ofList (Text.unifyNewlines written)) := by
  obtain ⟨told, given, notEmpty, noNul, contents⟩ := named.named
  refine ⟨Text.trim told, ?_, ?_⟩
  · have read : Property.optionalText Property.privateKeyFile true
        (Fields.get properties Property.privateKeyFile) = .ok (Text.trim told) := by
      rcases given with text | path
      · rw [text]
        rfl
      · rw [path]
        rfl
    have nonempty : (Text.trim told).isEmpty = false := by simpa using notEmpty
    simp only [Options.keySourceOf, read, bind, Except.bind, nonempty, Bool.false_eq_true, if_false]
    rfl
  · simp only [keyText, FileSystem.readText_encode noNul contents]

theorem HasKeyText.keySourceOf (has : HasKeyText properties text) :
    keySourceOf properties = .ok (.inline (Text.trim text)) := by
  have read : Property.optionalText Property.privateKeyFile true
      (Fields.get properties Property.privateKeyFile) = .ok "" := by
    rcases has.unnamed with null | ⟨told, given, blank⟩
    · rw [null]
      rfl
    · rw [← blank]
      rcases given with text | path
      · rw [text]
        rfl
      · rw [path]
        rfl
  simp only [Options.keySourceOf, read, has.given, bind, Except.bind]
  rfl

end Options

namespace SignerConfiguration

/-! ## The outcome -/

/-- Options that differ in the source of the key have one outcome when the texts found there are
spelled alike. -/
theorem ofOptions_of_alike {options other : Options} {files others : FileSystem}
    {pem otherPem : String} (normal : options.IsNormal) (otherNormal : other.IsNormal)
    (same : ∀ key, other.configuration key = options.configuration key)
    (found : Options.keyText files options.keySource = .ok pem)
    (otherFound : Options.keyText others other.keySource = .ok otherPem)
    (alike : Key.Alike pem.toList otherPem.toList) :
    ofOptions files options = ofOptions others other := by
  rw [ofOptions_of_keyText normal found, ofOptions_of_keyText otherNormal otherFound,
    Key.load_normalize_of_alike alike]
  simp only [same, (Key.load_of_alike alike).2]

/-- The source of the key does not matter: a bag that names a file has the outcome of one that holds
the text of the file, in whatever spelling, and names no file. -/
theorem ofProperties_of_keyFile
    (same : ∀ name ∈ [Property.cloudFrontUrl, Property.keyPairId, Property.ttl, Property.minSize],
      Fields.get inline name = Fields.get filed name)
    (file : Options.HasKeyFile filed files written) (given : Options.HasKeyText inline text)
    (alike : Key.Alike written text.toList) (others : FileSystem) :
    ofProperties files filed = ofProperties others inline := by
  obtain ⟨path, fileSource, fileText⟩ := file.keySourceOf
  have read : Options.ofProperties inline = (Options.ofProperties filed).map fun options =>
      { options with keySource := .inline (Text.trim text) } := by
    refine @Options.ofProperties_map _ _ (fun address => address)
      (fun _ => .inline (Text.trim text)) ?_ ?_ ?_
    · rw [same _ (by simp)]
      cases Property.requiredText Property.cloudFrontUrl
        (Fields.get filed Property.cloudFrontUrl) <;> rfl
    · exact .of_get fun name mem => same name (List.mem_cons_of_mem _ mem)
    · rw [given.keySourceOf, fileSource]
      rfl
  cases found : Options.ofProperties filed with
  | error e =>
    rw [found] at read
    rw [ofProperties, ofProperties, found, read]
    rfl
  | ok options =>
    let other := { options with keySource := .inline (Text.trim text) }
    have otherFound : Options.ofProperties inline = .ok other := by
      rw [read, found]
      rfl
    obtain ⟨-, -, -, -, source⟩ := Options.ofProperties_eq_ok_iff.mp found
    rw [fileSource] at source
    rw [Except.ok.inj source] at fileText
    -- what is found is spelled like the text of the file, and like the one in the bag
    have unified := Key.respelled_unifyNewlines written
    have trimmed : Key.Respelled text.toList (Text.trim text).toList :=
      .surrounded (by rw [Text.trim, String.toList_ofList, Text.trimChars_idem])
    have spelled : Key.Alike (String.ofList (Text.unifyNewlines written)).toList
        (Text.trim text).toList := by
      rw [String.toList_ofList]
      exact unified.alike.trans (alike.trans trimmed.alike)
    have same := @ofOptions_of_alike options other files others _ _
      (Options.isNormal_of_ofProperties found) (Options.isNormal_of_ofProperties otherFound)
      (fun _ => rfl) fileText rfl spelled
    rw [ofProperties_eq_ofOptions found, ofProperties_eq_ofOptions otherFound, same]

/-! ## A file with the key -/

/-- A file with an empty line in front of the key of two Mersenne primes. -/
def spacedFiles : FileSystem where
  contents path :=
    if path = "key.pem" then .ok (Text.Utf8.encode ('\r' :: Options.mersennePem.toList))
    else .error .missing

/-- A bag that names this file, with something in the place of the text. -/
def spacedProperties : Fields :=
  [(Property.cloudFrontUrl, .text "https://files.example"), (Property.keyPairId, .text "K1"),
    (Property.ttl, .integer 60), (Property.minSize, .integer 0),
    (Property.privateKeyFile, .path " key.pem"), (Property.privateKey, .integer 5)]

/-- The configuration is that of the key itself. -/
theorem ofProperties_spacedProperties :
    ofProperties spacedFiles spacedProperties =
      .ok (Options.configuration ⟨"https://files.example", "K1", 60, 0,
        .inline (Text.trim Options.mersennePem)⟩ .mersenneKey) := by
  have file : Options.HasKeyFile spacedProperties spacedFiles
      ('\r' :: Options.mersennePem.toList) := by
    refine ⟨" key.pem", .inr rfl, by decide, by decide, ?_⟩
    have path : Text.trim " key.pem" = "key.pem" := by decide
    rw [path, spacedFiles]
    simp only [if_true]
  have given : Options.HasKeyText (Options.mersenneProperties 60) Options.mersennePem :=
    ⟨.inl rfl, rfl⟩
  have surrounded : Key.Respelled ('\r' :: Options.mersennePem.toList)
      Options.mersennePem.toList := by
    refine .surrounded ?_
    rw [Text.trimChars, Text.trimBy, List.dropWhile_cons_of_pos (by decide), ← Text.trimBy,
      ← Text.trimChars]
  have same : ∀ name ∈ [Property.cloudFrontUrl, Property.keyPairId, Property.ttl,
      Property.minSize], Fields.get (Options.mersenneProperties 60) name =
        Fields.get spacedProperties name := by
    simp only [List.forall_mem_cons]
    exact ⟨rfl, rfl, rfl, rfl, List.forall_mem_nil _⟩
  rw [ofProperties_of_keyFile same file given surrounded.alike .empty]
  exact ofProperties_mersenneProperties .empty (by decide)

end SignerConfiguration

end SignedLink
