import Std.Time.DateTime.Timestamp
import SignedLink.CommandLine.Run
/-!
# SignedLink — the program

Signs one link from the command line: takes the arguments, the environment, the
key file and the time from the host, and writes what the run says.
-/

namespace SignedLink.CommandLine

/-- The variables that a run looks at. -/
def variableNames : List String :=
  ["CLOUDFRONT_URL", "CLOUDFRONT_PRIVATE_KEY_FILE", "CLOUDFRONT_KEY_PAIR_ID",
    "CLOUDFRONT_TTL_SECONDS"]

/-- The variables that the host has set. -/
def hostEnvironment : IO Environment :=
  variableNames.filterMapM fun name => do
    return (← IO.getEnv name).map fun value => (name, value)

/-- Why the host does not give a file. A directory is found out when it is read, which no longer
tells its name; what is in the way of a path is found out before. -/
def hostError : IO.Error → FileError
  | .inappropriateType none .. => .isDirectory
  | .inappropriateType .. => .notDirectory
  | .permissionDenied .. => .denied
  | .invalidArgument .. => .nameTooLong
  | _ => .missing

/-- The file at a path, as all that there is to read. -/
def hostFile (path : String) : IO FileSystem := do
  match ← (IO.FS.readBinFile path).toBaseIO with
  | .ok octets => return { contents := fun _ => .ok octets.toList }
  | .error e => return { contents := fun _ => .error (hostError e) }

/-- Runs on the host. -/
def runOnHost (arguments : List String) : IO UInt32 := do
  let environment ← hostEnvironment
  let files ←
    match keyFile? arguments environment with
    | some path => hostFile path
    | none => pure { contents := fun _ => .error .missing }
  let now := (← Std.Time.Timestamp.now).toSecondsSinceUnixEpoch.val
  match run arguments environment files (.integer now) with
  | .error f =>
    IO.eprintln f.message
    return 1
  | .ok result =>
    IO.print result.out
    IO.eprint result.err
    return result.exitCode.toUInt32

end SignedLink.CommandLine

def main (arguments : List String) : IO UInt32 :=
  SignedLink.CommandLine.runOnHost arguments
