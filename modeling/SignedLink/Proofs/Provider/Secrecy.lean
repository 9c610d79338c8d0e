import Mathlib.Data.List.Forall2
import SignedLink.Proofs.Config.Exchange
import SignedLink.Proofs.Conversion.Gate
import SignedLink.Proofs.Rsa.Primality
import SignedLink.Provider.Session
/-!
# SignedLink — records tell nothing of the keys

Two runs of a provider are compared that are equal, step by step, but for the
keys: in the files and in the bags of activations, and in the configurations
that replace others, keys that can sign are exchanged for keys that can sign.
Then the two runs write the same records, at every level, and of the replies
only the addresses are different, and these only in the signature.

The relation between the two runs is kept by every step. What a provider holds
on one side and on the other is the same but for an exchanged key, and what a
conversion does with the key shows in the signature alone.

* `Action.SameButKeys`: steps that are the same but for the keys in them.
* `perform_sameButKeys`, `turns_sameButKeys`: one step on each side, and two runs.
* `records_eq_of_sameButKeys`: two runs write the same records, and the addresses differ where the
  keys never sign alike.
-/

namespace SignedLink

variable {exchange : Rsa.PrivateKey → Rsa.PrivateKey → Prop}

/-! ## Conversions -/

/-- Conversions that are the same but for the signature in the address, if there is one. -/
structure Conversion.SameButSignature (exchange : Rsa.PrivateKey → Rsa.PrivateKey → Prop)
    (conversion other : Conversion) : Prop where
  records : conversion.records = other.records
  uris : Option.Rel (Link.Resigned exchange) conversion.uri other.uri

namespace Conversion

theorem SameButSignature.of_miss {c : Conversion} (miss : c.uri = none) :
    SameButSignature exchange c c :=
  ⟨rfl, by rw [miss]; exact .none⟩

theorem sameButSignature_sign {config other : SignerConfiguration}
    (same : config.SameButKey exchange other) (now identity length : Value) :
    SameButSignature exchange (sign config now identity length)
      (sign other now identity length) := by
  -- the two configurations pass the same address, key pair and validity on
  rw [same.rest]
  rcases (Link.related_sign same.key identity config.baseUrl config.keyPairId
    (.integer config.ttlSeconds) now).elim with
    ⟨e, made, otherMade⟩ | ⟨link, another, made, otherMade, resigned⟩
  · simp only [sign, made, otherMade]
    exact .of_miss rfl
  · -- the record of an issued link tells its identity and length, and not the link
    simp only [sign, made, otherMade]
    exact ⟨rfl, .some resigned⟩

theorem sameButSignature_ofBlob {config other : SignerConfiguration}
    (same : config.SameButKey exchange other) (now : Value) (blob : Blob) :
    SameButSignature exchange (ofBlob config now blob) (ofBlob other now blob) := by
  have least : other.minimumSizeBytes = config.minimumSizeBytes := by rw [same.rest]
  unfold ofBlob
  rw [least]
  -- up to the gate the key plays no part
  split
  · exact .of_miss rfl
  · split
    · exact .of_miss rfl
    · split
      · exact .of_miss rfl
      · exact .of_miss rfl
      · exact sameButSignature_sign same ..

theorem sameButSignature_of {held other : Option SignerConfiguration}
    (same : Option.Rel (SignerConfiguration.SameButKey exchange) held other) (now : Value)
    (candidate : Candidate) :
    SameButSignature exchange (of held now candidate) (of other now candidate) := by
  cases same with
  | none => exact .of_miss rfl
  | some same =>
    match candidate with
    | .foreign => exact .of_miss rfl
    | .binary none => exact .of_miss rfl
    | .binary (some blob) => exact sameButSignature_ofBlob same now blob

end Conversion

/-! ## Steps -/

namespace Provider

/-- Providers that hold the same but for an exchanged key. -/
def SameButKey (exchange : Rsa.PrivateKey → Rsa.PrivateKey → Prop) (p other : Provider) : Prop :=
  Option.Rel (SignerConfiguration.SameButKey exchange) p.config other.config

/-- Actions that are the same but for the keys in them. -/
inductive Action.SameButKeys (exchange : Rsa.PrivateKey → Rsa.PrivateKey → Prop) :
    Action → Action → Prop where
  | activate {files others : FileSystem} {bag otherBag : Fields}
      (filed : files.SameButKeys exchange others)
      (same : Options.SameButKey exchange bag otherBag) :
      SameButKeys exchange (.activate files bag) (.activate others otherBag)
  | reconfigure {config other : SignerConfiguration} (same : config.SameButKey exchange other) :
      SameButKeys exchange (.reconfigure config) (.reconfigure other)
  | deactivate : SameButKeys exchange .deactivate .deactivate
  | close : SameButKeys exchange .close .close
  | convert (now : Value) (seconds : Binary64) (candidate : Candidate) :
      SameButKeys exchange (.convert now seconds candidate) (.convert now seconds candidate)

/-- Replies that are the same but for the signature in an address. -/
inductive Reply.SameButSignature (exchange : Rsa.PrivateKey → Rsa.PrivateKey → Prop) :
    Reply → Reply → Prop where
  | done : SameButSignature exchange .done .done
  | refused (error : ConfigError) : SameButSignature exchange (.refused error) (.refused error)
  | converted {uri other : Option String} (uris : Option.Rel (Link.Resigned exchange) uri other) :
      SameButSignature exchange (.converted uri) (.converted other)

/-- Turns that wrote the same records, with the same reply but for a signature and the same provider
but for its key. -/
structure Turn.SameButKeys (exchange : Rsa.PrivateKey → Rsa.PrivateKey → Prop)
    (turn other : Turn) : Prop where
  records : turn.records = other.records
  replies : turn.reply.SameButSignature exchange other.reply
  providers : turn.session.provider.SameButKey exchange other.session.provider

namespace Session

variable {s other : Session} {action another : Action} {actions others : List Action}

theorem told_eq {bag otherBag : Fields} (same : Options.SameButKey exchange bag otherBag) :
    toldProperties.map (propertyRecord otherBag) = toldProperties.map (propertyRecord bag) := by
  refine List.map_congr_left fun name mem => ?_
  -- the text of the key is the one property that is not told
  have known : name ≠ Property.privateKey := by
    rintro rfl
    exact absurd mem (by decide)
  rw [propertyRecord, same.rest name known, ← propertyRecord]

theorem perform_sameButKeys (held : s.provider.SameButKey exchange other.provider)
    (step : action.SameButKeys exchange another) :
    (s.perform action).SameButKeys exchange (other.perform another) := by
  cases step with
  | activate filed same =>
    -- either both are refused alike, or both hold a configuration from now on
    rcases (SignerConfiguration.related_ofProperties filed same).elim with
      ⟨e, made, otherMade⟩ | ⟨config, otherConfig, made, otherMade, configs⟩
    · simp only [perform, ofStep, Provider.activate, made, otherMade, told_eq same]
      exact ⟨rfl, .refused e, held⟩
    · have address : otherConfig.baseUrl = config.baseUrl := by rw [configs.rest]
      simp only [perform, ofStep, Provider.activate, made, otherMade, told_eq same, address]
      exact ⟨rfl, .done, .some configs⟩
  | reconfigure same => exact ⟨rfl, .done, .some same⟩
  | deactivate => exact ⟨rfl, .done, .none⟩
  | close => exact ⟨rfl, .done, .none⟩
  | convert now seconds candidate =>
    -- the provider stays as it is on both sides
    obtain ⟨records, uris⟩ := Conversion.sameButSignature_of held now candidate
    exact ⟨records, .converted uris, held⟩

/-! ## Runs -/

theorem turns_sameButKeys (held : s.provider.SameButKey exchange other.provider)
    (steps : List.Forall₂ (Action.SameButKeys exchange) actions others) :
    List.Forall₂ (Turn.SameButKeys exchange) (s.run actions) (other.run others) := by
  -- the relation between the providers is what carries the induction from turn to turn
  induction steps generalizing s other with
  | nil => exact .nil
  | cons step _ ih =>
    have turn := perform_sameButKeys held step
    exact .cons turn (ih turn.providers)

/-- What comes back in a run, step by step. -/
def replies (s : Session) (actions : List Action) : List Reply :=
  (s.run actions).map Turn.reply

/-- What is written in a run, step by step. -/
def records (s : Session) (actions : List Action) : List (List Logging.Record) :=
  (s.run actions).map Turn.records

theorem replies_sameButSignature (held : s.provider.SameButKey exchange other.provider)
    (steps : List.Forall₂ (Action.SameButKeys exchange) actions others) :
    List.Forall₂ (Reply.SameButSignature exchange) (s.replies actions) (other.replies others) := by
  rw [replies, replies, List.forall₂_map_left_iff, List.forall₂_map_right_iff]
  exact (turns_sameButKeys held steps).imp fun _ _ turn => turn.replies

theorem records_eq (held : s.provider.SameButKey exchange other.provider)
    (steps : List.Forall₂ (Action.SameButKeys exchange) actions others) :
    s.records actions = other.records others := by
  rw [records, records, ← List.forall₂_eq_eq_eq, List.forall₂_map_left_iff,
    List.forall₂_map_right_iff]
  exact (turns_sameButKeys held steps).imp fun _ _ turn => turn.records

/-- Two runs that are equal but for keys that can sign write the same records, each with its level,
its message and the failure told with it. The replies are the same but for the signatures in
addresses; and where the keys never sign alike, the addresses are different. -/
theorem records_eq_of_sameButKeys (held : s.provider.SameButKey exchange other.provider)
    (steps : List.Forall₂ (Action.SameButKeys exchange) actions others) :
    s.records actions = other.records others ∧
    List.Forall₂ (Reply.SameButSignature exchange) (s.replies actions) (other.replies others) ∧
    ((∀ key otherKey, Rsa.IsExchange exchange key otherKey →
        ∀ message, Rsa.sign? key message ≠ Rsa.sign? otherKey message) →
      ∀ (i : Nat) (url otherUrl : String),
        (s.replies actions)[i]? = some (.converted (some url)) →
        (other.replies others)[i]? = some (.converted (some otherUrl)) → url ≠ otherUrl) := by
  have replies := replies_sameButSignature held steps
  refine ⟨records_eq held steps, replies, ?_⟩
  intro apart i url otherUrl replied otherReplied
  obtain ⟨bound, given⟩ := List.getElem?_eq_some_iff.mp replied
  obtain ⟨otherBound, otherGiven⟩ := List.getElem?_eq_some_iff.mp otherReplied
  have reply := replies.get bound otherBound
  rw [List.get_eq_getElem, List.get_eq_getElem, given, otherGiven] at reply
  cases reply with
  | converted uris => exact (Option.rel_some_some.mp uris).ne apart

/-! ## Two keys -/

def keyFiles (pem : String) : FileSystem where
  contents path :=
    if path = "key.pem" then .ok (Text.Utf8.encode pem.toList) else .error .missing

def keylessProperties : Fields :=
  [(Property.cloudFrontUrl, .text "https://files.example"), (Property.keyPairId, .text "K1")]

def keyConfig (key : Rsa.PrivateKey) : SignerConfiguration :=
  ⟨"https://files.example/", 60, 0, "K1", .rsa key⟩

/-- Steps with a key in all places where one can be. -/
def keyActions (key : Rsa.PrivateKey) : List Action :=
  [.activate (keyFiles (Key.pem key))
      (keylessProperties.put Property.privateKeyFile (.text "key.pem")),
    .activate .empty (keylessProperties.put Property.privateKey (.text (Key.pem key))),
    .reconfigure (keyConfig key),
    .convert (.integer 0) .zero (BlobInfo.toCandidate ⟨some 1, some "abcd"⟩),
    .close]

theorem sameButKeys_keyActions {key otherKey : Rsa.PrivateKey}
    (pair : Rsa.IsExchange exchange key otherKey) (loads : Key.ofText? (Key.pem key) = some key)
    (otherLoads : Key.ofText? (Key.pem otherKey) = some otherKey) :
    List.Forall₂ (Action.SameButKeys exchange) (keyActions key) (keyActions otherKey) := by
  have texts : Exchanged exchange Key.ofText? (Key.pem key) (Key.pem otherKey) :=
    .keys loads otherLoads pair
  have filed : (keyFiles (Key.pem key)).SameButKeys exchange (keyFiles (Key.pem otherKey)) := by
    intro path
    unfold keyFiles
    dsimp only
    -- one path has the key, and at all others there is nothing on either side
    split
    · exact texts.map (fun pem => Except.ok (Text.Utf8.encode pem.toList)) Key.ofContents?_encode
    · exact .same nofun
  have empty : FileSystem.SameButKeys exchange .empty .empty := fun _ => .same nofun
  refine .cons (.activate filed ⟨fun _ _ => rfl, .same nofun⟩) ?_
  refine .cons (.activate empty (.put texts _)) ?_
  refine .cons (.reconfigure ⟨rfl, .keys rfl rfl pair⟩) ?_
  exact .cons (.convert _ _ _) (.cons .close .nil)

theorem replies_keyActions {key : Rsa.PrivateKey} (enough : Rsa.leastSize ≤ key.size) :
    ∃ url, ((start inactive).replies (keyActions key))[3]? =
      some (.converted (some url)) := by
  obtain ⟨link, signature, signed, -⟩ := Link.exists_issued "abcd" "https://files.example/" "K1"
    key 60 (by decide) enough (.integer 0) (by decide)
  have threshold : HasThreshold (some (keyConfig key)) := by
    rintro _ ⟨⟩
    exact Int.le_refl 0
  have passed : Conversion.Passes (keyConfig key) (BlobInfo.toBlob ⟨some 1, some "abcd"⟩) 1
      "abcd" := ⟨rfl, Int.zero_lt_one, rfl⟩
  obtain ⟨-, issued⟩ := Conversion.of_issues threshold (.signed rfl passed signed)
  -- whatever the activations did, the configuration was replaced before the conversion
  exact ⟨link.url, congrArg (some ∘ Reply.converted) issued⟩

/-- Two keys of Mersenne primes, in a file, in a text and in a configuration. -/
theorem records_eq_mersenneKey :
    (start inactive).records (keyActions .mersenneKey) =
        (start inactive).records (keyActions .shorterKey) ∧
      ∃ url otherUrl,
        ((start inactive).replies (keyActions .mersenneKey))[3]? = some (.converted (some url)) ∧
        ((start inactive).replies (keyActions .shorterKey))[3]? =
          some (.converted (some otherUrl)) ∧ url ≠ otherUrl := by
  have enough : Rsa.leastSize ≤ Rsa.PrivateKey.mersenneKey.size := by
    rw [Rsa.PrivateKey.size_mersenneKey]
    decide
  have otherEnough : Rsa.leastSize ≤ Rsa.PrivateKey.shorterKey.size := by
    rw [Rsa.PrivateKey.size_shorterKey]
    decide
  have pair : Rsa.IsExchange (fun key other => key.size ≠ other.size) .mersenneKey .shorterKey := by
    refine ⟨?_, enough, otherEnough⟩
    rw [Rsa.PrivateKey.size_mersenneKey, Rsa.PrivateKey.size_shorterKey]
    decide
  have steps := sameButKeys_keyActions pair
    (Key.ofText?_pem Rsa.PrivateKey.mersenneKey_isAcceptable (by decide +kernel))
    (Key.ofText?_pem Rsa.PrivateKey.shorterKey_isAcceptable (by decide +kernel))
  obtain ⟨records, -, differ⟩ := @records_eq_of_sameButKeys _ (start inactive) (start inactive)
    _ _ .none steps
  obtain ⟨url, replied⟩ := replies_keyActions enough
  obtain ⟨otherUrl, otherReplied⟩ := replies_keyActions otherEnough
  refine ⟨records, url, otherUrl, replied, otherReplied, ?_⟩
  have apart (key other : Rsa.PrivateKey)
      (pair : Rsa.IsExchange (fun key other => key.size ≠ other.size) key other) :=
    Rsa.sign?_ne_of_size_ne pair.signs pair.allowed
  exact differ apart 3 url otherUrl replied otherReplied

end Session

end Provider

end SignedLink
