import SignedLink.Key.Armour
import SignedLink.Key.Structure
/-!
# SignedLink — loading keys

From armoured text to an RSA key, with the reason where there is none. A
missing marker is a matter of configuration; everything after the markers is a
matter of the key.

* `loadChars_eq_markers_iff`: the markers are blamed exactly when there is no body.
* `load_normalize_of_blank`: a blank text has no markers.
-/

namespace SignedLink.Key

/-- Why a text gives no RSA key. -/
inductive LoadError where
  /-- a marker is missing or they are out of order -/
  | markers
  | emptyBody
  | badBase64 (flaw : Base64.Flaw)
  /-- no known structure, or numbers that do not fit together -/
  | unreadable
  | notRsa (kind : OtherKind)
deriving DecidableEq

/-- Whether the text, and not the key in it, is to blame. -/
def LoadError.isConfiguration : LoadError → Bool
  | .markers => true
  | _ => false

/-- The message of an error. What is wrong inside an unreadable structure is not told. -/
def LoadError.message : LoadError → String
  | .markers =>
    "Private key is not correctly encoded, need a PEM encoded key with " ++
      String.ofList beginMarker ++ " headers to indicate PKCS8 encoding."
  | .emptyBody => "Private key body is empty"
  | .badBase64 flaw => "Private key body is not valid base64: " ++ flaw.words
  | .unreadable => "Private key is not a readable PKCS8 structure"
  | .notRsa kind => "Private key must be RSA, got " ++ kind.name

/-- The key of a body without blanks. -/
def loadBody (body : List Char) : Except LoadError Rsa.PrivateKey :=
  if body.isEmpty then .error .emptyBody
  else
    match Base64.decode body with
    | .error flaw => .error (.badBase64 flaw)
    | .ok octets =>
      match decode octets with
      | none => .error .unreadable
      | some (.other kind) => .error (.notRsa kind)
      | some (.rsa key) => .ok key

/-- The key of an armoured text. -/
def loadChars (cs : List Char) : Except LoadError Rsa.PrivateKey :=
  match body? cs with
  | none => .error .markers
  | some body => loadBody body

/-- The key of an armoured text. -/
def load (pem : String) : Except LoadError Rsa.PrivateKey :=
  loadChars pem.toList

/-! ## Elementary facts -/

theorem loadBody_ne_markers (body : List Char) : loadBody body ≠ .error .markers := by
  intro h
  unfold loadBody at h
  repeat' split at h
  all_goals cases h

/-- The markers are blamed exactly when there is no body. -/
theorem loadChars_eq_markers_iff {cs : List Char} :
    loadChars cs = .error .markers ↔ body? cs = none := by
  unfold loadChars
  constructor
  · intro h
    split at h
    · assumption
    · exact absurd h (loadBody_ne_markers _)
  · intro h
    rw [h]

/-- There are no markers in a blank text. -/
theorem load_normalize_of_blank {pem : String} (blank : Text.trimChars pem.toList = []) :
    load (normalize (some pem)) = .error .markers := by
  simp only [load, normalize, normalizeChars, Option.getD_some, String.toList_ofList, blank]
  rfl

end SignedLink.Key
