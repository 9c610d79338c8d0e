import SignedLink.Text.Newline
import SignedLink.Text.Utf8
import SignedLink.Value.Fault
/-!
# SignedLink — files

A file system answers every path with the octets of a file or with the reason
why there are none. Key files are read as text: strict UTF-8, then one kind of
line end.

* `readText_eq_ok_iff`: a text is read exactly when there are well-formed octets at a path without
  U+0000.
-/

namespace SignedLink

/-- Why a path gives no octets. -/
inductive FileError where
  | missing
  | notDirectory
  | isDirectory
  | nameTooLong
  | denied
deriving DecidableEq

/-- The system's number and words for an error. -/
def FileError.words : FileError → String
  | .missing => "[Errno 2] No such file or directory"
  | .notDirectory => "[Errno 20] Not a directory"
  | .isDirectory => "[Errno 21] Is a directory"
  | .nameTooLong => "[Errno 36] File name too long"
  | .denied => "[Errno 13] Permission denied"

/-- The message of an error at a path. -/
def FileError.message (e : FileError) (path : String) : String :=
  e.words ++ ": " ++ (Value.text path).shown

/-- What stands at each path. -/
structure FileSystem where
  contents : String → Except FileError (List UInt8)
  /-- the names in the directory at a path -/
  names : String → List String := fun _ => []

/-- A file system with nothing in it. -/
def FileSystem.empty : FileSystem where
  contents _ := .error .missing

/-- Why a path gives no text. -/
inductive ReadError where
  | file (path : String) (error : FileError)
  | malformed (path : String) (error : Text.Utf8.Malformed)
  /-- a path that cannot be looked up at all -/
  | fault (f : Fault)
deriving DecidableEq

/-- The cause of an error, without the path for which the text was wanted. -/
def ReadError.cause : ReadError → String
  | .file path error => error.message path
  | .malformed _ error => error.message
  | .fault f => f.message

/-- The message of an error. -/
def ReadError.message : ReadError → String
  | .fault f => f.message
  | e@(.file path _) | e@(.malformed path _) =>
    "Unable to read private key file " ++ (Value.text path).shown ++ ": " ++ e.cause

/-- The text of octets: strict UTF-8, with line feeds as the only line ends. -/
def textOfOctets (octets : List UInt8) : Except Text.Utf8.Malformed String :=
  match Text.Utf8.decode octets with
  | .ok cs => .ok (.ofList (Text.unifyNewlines cs))
  | .error e => .error e

/-- The text of the file at a path. -/
def FileSystem.readText (files : FileSystem) (path : String) : Except ReadError String :=
  if path.toList.contains '\x00' then .error (.fault .nulInPath)
  else
    match files.contents path with
    | .error e => .error (.file path e)
    | .ok octets =>
      match textOfOctets octets with
      | .error e => .error (.malformed path e)
      | .ok s => .ok s

/-! ## Elementary facts -/

/-- A text is read exactly when there are well-formed octets at a path without U+0000. -/
theorem FileSystem.readText_eq_ok_iff {files : FileSystem} {path s : String} :
    files.readText path = .ok s ↔
      '\x00' ∉ path.toList ∧ ∃ octets, files.contents path = .ok octets ∧
        textOfOctets octets = .ok s := by
  unfold readText
  by_cases nul : '\x00' ∈ path.toList
  · simp [nul]
  · have free : path.toList.contains '\x00' = false := by simpa using nul
    rw [free]
    cases found : files.contents path with
    | error e => simp
    | ok octets =>
      cases read : textOfOctets octets with
      | error e => simp [read]
      | ok t => simp [nul, read]

/-- Only a path with U+0000 cannot be looked up. -/
theorem FileSystem.readText_fault {files : FileSystem} {path : String} {f : Fault}
    (h : files.readText path = .error (.fault f)) : f = .nulInPath ∧ '\x00' ∈ path.toList := by
  unfold readText at h
  split at h
  · next nul => exact ⟨by simpa using h.symm, by simpa using nul⟩
  · split at h
    · simp at h
    · split at h <;> simp at h

end SignedLink
