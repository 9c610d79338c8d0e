import SignedLink.Config.EnvFile
import SignedLink.Config.Environment
import SignedLink.Config.Secrets
/-!
# SignedLink — where settings come from

A setting is taken from the first of four places that has it: the values given
in the program, the environment, the settings files, and the files that each
hold one setting.
-/

namespace SignedLink.Settings

/-- What a place binds, in order; a name may be bound to nothing. -/
abbrev Bindings := List (String × Option String)

/-- The value of a setting in a place: the last that counts under its name. -/
def Search.bound? (search : Search) (setting : String) (bindings : Bindings) : Option Value :=
  let name := search.key (search.lead ++ setting)
  let counts (b : String × Option String) :=
    search.key b.1 == name && !(search.skipsEmpty && b.2 == some "")
  match bindings.reverse.find? counts with
  | some (_, some s) => some (if search.nullWord == some s then .null else .text s)
  | _ => none

/-- Where settings come from. -/
structure Sources where
  search : Search
  given : Fields
  /-- the places outside the program, the first of which counts most -/
  places : List Bindings
  /-- the settings that have a file of their own -/
  secrets : List (String × String)

/-- The value of a setting from the first source that has it. -/
def Sources.find? (sources : Sources) (setting : String) : Option Value :=
  match sources.search.given? sources.given setting with
  | some v => some v
  | none =>
    match sources.places.findSome? (sources.search.bound? setting) with
    | some v => some v
    | none => (sources.secrets.lookup setting).map .text

/-- The text of a settings file, if it is there. -/
def fileText? (search : Search) (files : FileSystem) (path : String) :
    Except Fault (Option (List Char)) :=
  match files.contents path with
  | .error .nameTooLong => .error (.longPath path)
  | .error _ => .ok none
  | .ok octets =>
    match search.encoding with
    | .error f => .error f
    | .ok encoding =>
      match encoding.decode octets with
      | .error e => .error (.undecodable e)
      | .ok cs => .ok (some (Text.unifyNewlines cs))

/-- What the settings files bind; a file that is not there binds nothing. -/
def fileBindings (search : Search) (environment : Environment) (files : FileSystem) :
    List (Except Fault String) → Except Fault Bindings
  | [] => .ok []
  | .error f :: _ => .error f
  | .ok path :: rest =>
    match fileText? search files path with
    | .error f => .error f
    | .ok text =>
      match fileBindings search environment files rest with
      | .error f => .error f
      | .ok more =>
        let bindings := (text.map (EnvFile.read environment)).getD []
        .ok (bindings.map (fun b => (b.1, Search.text? b.2)) ++ more)

/-- The sources with the settings files read. -/
def Sources.load (given : Fields) (environment : Environment) (files : FileSystem) :
    Except Fault Sources :=
  match Search.ofGiven given with
  | .error f => .error f
  | .ok search =>
    match fileBindings search environment files search.files, Secrets.ofSearch search files with
    | .error f, _ => .error f
    | .ok _, .error f => .error f
    | .ok bound, .ok secrets =>
      .ok ⟨search, given, [environment.map fun v => (v.1, some v.2), bound], secrets⟩

end SignedLink.Settings
