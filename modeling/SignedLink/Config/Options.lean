import SignedLink.Files.Basic
import SignedLink.Key.Load
import SignedLink.Validation
import SignedLink.Value.Written
/-!
# SignedLink — options

A host configures signing by a bag of properties with values of any kind. The
options read from it are trimmed, numbers have defaults, and the key is named
by a file or given as a text. Every refusal names the property.

* `wholeNumber_nonneg`: a number option is never negative, its default apart.
* `addressChars_eq_nil_iff`: exactly the blank texts have no base address.
* `addressChars_slash`: a base address ends in exactly one slash.
-/

namespace SignedLink

/-- Why there is no configuration. -/
inductive ConfigError where
  /-- an option that is blank or not there -/
  | required (name : String)
  | booleanNumber (name : String)
  | notInteger (name shown : String)
  | negative (name : String) (n : Int)
  | notText (name typeName : String)
  /-- a key file that gives no text -/
  | unreadable (error : ReadError)
  | key (error : Key.LoadError)
  /-- options that do not make a configuration -/
  | invalid (errors : List FieldError)
  /-- an undefined operation, which is not an error of configuration -/
  | fault (f : Fault)

/-- The message of an error. -/
def ConfigError.message : ConfigError → String
  | .required name => name ++ " is required"
  | .booleanNumber name => name ++ " must be an integer, got a boolean"
  | .notInteger name shown => name ++ " must be an integer, got " ++ shown
  | .negative name n =>
    name ++ " must not be negative, got " ++ String.ofList (Text.decimal n)
  | .notText name typeName => name ++ " must be a string, got " ++ typeName
  | .unreadable error => error.message
  | .key error => error.message
  | .invalid _ => "Invalid signer configuration"
  | .fault f => f.message

namespace Property

/-- The names of the properties. -/
def cloudFrontUrl : String := "cloudFrontUrl"
def ttl : String := "ttl"
def minSize : String := "minSize"
def privateKeyFile : String := "privateKeyFile"
def privateKey : String := "privateKey"
def keyPairId : String := "keyPairId"

/-- The seconds that a link is valid when nothing is said. -/
def defaultTtlSeconds : Int := 60

/-- The least size in kilobytes when nothing is said. -/
def defaultMinSizeKb : Int := 100

/-! ## Reading one property -/

/-- The base address: trimmed, with exactly one slash at the end; blank stays empty. -/
def addressChars (cs : List Char) : List Char :=
  let trimmed := Text.trimChars cs
  if trimmed.isEmpty then [] else Text.dropTail (· == '/') trimmed ++ ['/']

/-- The base address of any value: what is not set has none, and what is no text is a fault. -/
def address : Value → Except Fault String
  | .text s => .ok (.ofList (addressChars s.toList))
  | .octets bytes =>
    if (bytes.map fun b => Char.ofNat b.toNat).all Text.isPlainSpace then .ok ""
    else .error .octetsForText
  | v => if v.isTruthy then .error (.notText v.typeName "strip") else .ok ""

/-- Null and blank texts leave a number at its default. -/
def isUnset : Value → Bool
  | .null => true
  | .text s => (Text.trimChars s.toList).isEmpty
  | _ => false

/-- The refusal that tells a value; a value that cannot be written is a fault instead. -/
def refusal (v : Value) (error : String → ConfigError) : ConfigError :=
  match v.written with
  | .ok shown => error shown
  | .error f => .fault f

/-- A number that is not negative, or the default. -/
def wholeNumber (name : String) (default : Int) (v : Value) : Except ConfigError Int :=
  if isUnset v then .ok default
  else
    match v with
    | .boolean _ => .error (.booleanNumber name)
    | v =>
      match v.toInteger with
      | .error .wholeOfInfinity => .error (.fault .wholeOfInfinity)
      | .error _ => .error (refusal v (.notInteger name))
      | .ok n =>
        if n < 0 then .error (refusal (.integer n) fun _ => .negative name n) else .ok n

/-- The trimmed form of any value but null; it must not be blank. -/
def requiredText (name : String) (v : Value) : Except ConfigError String :=
  match if v.isNull then .ok "" else v.told with
  | .error f => .error (.fault f)
  | .ok told =>
    let s := Text.trim told
    if s.isEmpty then .error (.required name) else .ok s

/-- A trimmed text, empty when null; where paths are allowed a path is a text too. -/
def optionalText (name : String) (pathAllowed : Bool) : Value → Except ConfigError String
  | .null => .ok ""
  | .text s => .ok (Text.trim s)
  | .path p =>
    if pathAllowed then .ok (Text.trim p)
    else .error (.notText name (Value.path p).typeName)
  | v => .error (.notText name v.typeName)

end Property

/-! ## Options -/

/-- Where the text of the key is. -/
inductive KeySource where
  | file (path : String)
  | inline (text : String)
deriving DecidableEq

/-- The options read from a bag of properties. -/
structure Options where
  baseUrl : String
  keyPairId : String
  ttlSeconds : Int
  minSizeKb : Int
  keySource : KeySource
deriving DecidableEq

namespace Options

/-- The source of the key: the file when one is named, else the text. -/
def keySourceOf (properties : Fields) : Except ConfigError KeySource := do
  let file ← Property.optionalText Property.privateKeyFile true
    (Fields.get properties Property.privateKeyFile)
  if file.isEmpty then
    let text ← Property.optionalText Property.privateKey false
      (Fields.get properties Property.privateKey)
    return .inline text
  else return .file file

/-- Reads the properties in a fixed order, up to the first refusal. -/
def ofProperties (properties : Fields) : Except ConfigError Options := do
  let baseUrl ← Property.requiredText Property.cloudFrontUrl
    (Fields.get properties Property.cloudFrontUrl)
  let keyPairId ← Property.requiredText Property.keyPairId
    (Fields.get properties Property.keyPairId)
  let ttlSeconds ← Property.wholeNumber Property.ttl Property.defaultTtlSeconds
    (Fields.get properties Property.ttl)
  let minSizeKb ← Property.wholeNumber Property.minSize Property.defaultMinSizeKb
    (Fields.get properties Property.minSize)
  let keySource ← keySourceOf properties
  return { baseUrl, keyPairId, ttlSeconds, minSizeKb, keySource }

/-- The text of the key. -/
def keyText (files : FileSystem) : KeySource → Except ConfigError String
  | .inline text => .ok text
  | .file path =>
    match files.readText path with
    | .ok text => .ok text
    | .error (.fault f) => .error (.fault f)
    | .error e => .error (.unreadable e)

end Options

/-! ## Elementary facts -/

namespace Property

/-- A number option is never negative, its default apart. -/
theorem wholeNumber_nonneg {name : String} {default n : Int} {v : Value}
    (h : wholeNumber name default v = .ok n) : n = default ∨ 0 ≤ n := by
  unfold wholeNumber at h
  split at h
  · exact .inl (by simpa using h.symm)
  · split at h
    · simp at h
    · split at h
      · simp at h
      · simp at h
      · split at h
        · simp at h
        · next nonneg =>
          cases h
          exact .inr (by omega)

/-- A required text is not empty. -/
theorem requiredText_ne_empty {name s : String} {v : Value} (h : requiredText name v = .ok s) :
    s ≠ "" := by
  unfold requiredText at h
  split at h
  · simp at h
  · next told _ =>
    dsimp only at h
    by_cases empty : (Text.trim told).isEmpty = true
    · simp [empty] at h
    · simp only [empty, Bool.false_eq_true, if_false, Except.ok.injEq] at h
      subst h
      intro nothing
      exact empty (by rw [nothing]; rfl)

/-- Exactly the blank texts have no base address. -/
theorem addressChars_eq_nil_iff {cs : List Char} :
    addressChars cs = [] ↔ Text.trimChars cs = [] := by
  unfold addressChars
  by_cases blank : Text.trimChars cs = []
  · simp [blank]
  · simp [blank]

/-- A base address ends in exactly one slash. -/
theorem addressChars_slash {cs : List Char} (h : Text.trimChars cs ≠ []) :
    ∃ body, addressChars cs = body ++ ['/'] ∧ body.getLast? ≠ some '/' := by
  refine ⟨Text.dropTail (· == '/') (Text.trimChars cs), by simp [addressChars, h], ?_⟩
  unfold Text.dropTail
  rw [List.getLast?_reverse]
  intro slash
  have := List.head?_dropWhile_not (· == '/') (Text.trimChars cs).reverse
  rw [slash] at this
  simp at this

/-- A base address does not begin with a blank. -/
theorem not_isBlank_head_addressChars {cs : List Char} :
    ∀ c ∈ (addressChars cs).head?, Text.isBlank c = false := by
  intro c mem
  unfold addressChars at mem
  by_cases blank : Text.trimChars cs = []
  · simp [blank] at mem
  · simp only [List.isEmpty_iff, blank, if_false] at mem
    cases body : Text.dropTail (· == '/') (Text.trimChars cs) with
    | nil =>
      rw [body] at mem
      have : c = '/' := by simpa using mem.symm
      rw [this]
      decide
    | cons d rest =>
      rw [body] at mem
      have same : c = d := by simpa using mem.symm
      subst same
      exact Text.not_isBlank_head_trimChars c
        (Text.head?_of_dropTail_eq_cons body)

/-- Whatever a base address was read from, it is that of some text. -/
theorem address_eq_addressChars {v : Value} {s : String} (h : address v = .ok s) :
    ∃ cs, s = .ofList (addressChars cs) := by
  unfold address at h
  split at h
  · exact ⟨_, by simpa using h.symm⟩
  · split at h
    · exact ⟨[], (Except.ok.inj h).symm.trans rfl⟩
    · simp at h
  · split at h
    · simp at h
    · exact ⟨[], (Except.ok.inj h).symm.trans rfl⟩

end Property

end SignedLink
