import SignedLink.Config.Search
import SignedLink.Files.Basic
import SignedLink.Text.Blank
/-!
# SignedLink — settings in files of their own

A directory of secrets holds a file for each setting, named like the setting;
the text of the file, trimmed, is its value. Of several directories the last
counts that has such a file. A directory that is not there is passed over, but
a file in its place is an error.
-/

namespace SignedLink.Settings.Secrets

/-- The text of the file for a setting in a directory; what is no file has none. -/
def textIn? (search : Search) (files : FileSystem) (setting directory : String) :
    Except ReadError (Option String) :=
  let key := search.key (search.lead ++ setting)
  match (files.names directory).find? fun name => search.key name == key with
  | none => .ok none
  | some name =>
    match files.readText (directory ++ "/" ++ name) with
    | .ok text => .ok (some (Text.trim text))
    | .error (.file ..) => .ok none
    | .error e => .error e

/-- The text for a setting in the first of some directories that has one. -/
def text? (search : Search) (files : FileSystem) (setting : String) :
    List String → Except ReadError (Option String)
  | [] => .ok none
  | directory :: rest =>
    match textIn? search files setting directory with
    | .ok none => text? search files setting rest
    | found => found

/-- The texts for settings in some directories, the first of which counts most. -/
def texts (search : Search) (files : FileSystem) (directories : List String) :
    List String → Except Fault (List (String × String))
  | [] => .ok []
  | setting :: rest =>
    match text? search files setting directories, texts search files directories rest with
    | .ok found, .ok more => .ok ((found.map fun text => (setting, text)).toList ++ more)
    | .ok _, .error f => .error f
    | .error _, _ => .error (.unreadSetting setting secretsSource)

/-- Whether a directory is there. -/
def isThere (files : FileSystem) (directory : String) : Except Fault Bool :=
  match files.contents directory with
  | .ok _ => .error .secretsInFile
  | .error .isDirectory => .ok true
  | .error .nameTooLong => .error (.longPath directory)
  | .error _ => .ok false

/-- The directories that are there, the last one first. -/
def directories (files : FileSystem) : List String → Except Fault (List String)
  | [] => .ok []
  | directory :: rest =>
    match isThere files directory, directories files rest with
    | .error f, _ => .error f
    | .ok _, .error f => .error f
    | .ok there, .ok more => .ok (more ++ if there then [directory] else [])

/-- The paths, unless one of them is none. -/
def paths : List (Except Fault String) → Except Fault (List String)
  | [] => .ok []
  | .error f :: _ => .error f
  | .ok path :: rest => (paths rest).map (path :: ·)

/-- The settings that have a file of their own. -/
def ofSearch (search : Search) (files : FileSystem) : Except Fault (List (String × String)) :=
  match paths search.secrets with
  | .error f => .error f
  | .ok named =>
    match directories files named with
    | .error f => .error f
    | .ok there => texts search files there names

end SignedLink.Settings.Secrets
