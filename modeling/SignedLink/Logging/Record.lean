import SignedLink.Signing.Link
import SignedLink.Text.Hex
/-!
# SignedLink — log records

A record carries the name of the logger it was written to, a level, and a
message. A message is put together only when the record is delivered, so a
record may hold a message that cannot be put together.
-/

namespace SignedLink

/-- Why a conversion failed. -/
inductive ConversionFailure where
  /-- an answer of the store, or what was done with it -/
  | fault (f : Fault)
  | signing (error : SigningError)
deriving DecidableEq

/-- The message of a failure. -/
def ConversionFailure.message : ConversionFailure → String
  | .fault f => f.message
  | .signing error => error.message

namespace Logging

/-- The level of a record; the greater, the more important. -/
structure Level where
  number : Int
deriving DecidableEq

namespace Level

def debug : Level := ⟨10⟩
def info : Level := ⟨20⟩
def warning : Level := ⟨30⟩
def error : Level := ⟨40⟩
def critical : Level := ⟨50⟩

/-- The name of a level; levels between the named ones are called by their number. -/
def name (level : Level) : String :=
  if level = debug then "DEBUG"
  else if level = info then "INFO"
  else if level = warning then "WARNING"
  else if level = error then "ERROR"
  else if level = critical then "CRITICAL"
  else "Level " ++ String.ofList (Text.decimal level.number)

end Level

/-- A log record. -/
structure Record where
  logger : String
  level : Level
  message : Except Fault String
  /-- the failure that is told with the record -/
  failure : Option ConversionFailure

/-- The logger of the service. -/
def serviceLogger : String := "cdnredirect"

/-- The logger of the provider, two steps below that of the service. -/
def providerLogger : String := "cdnredirect.services.uri_provider"

/-- A record with a message and nothing else. -/
def Record.of (logger : String) (level : Level) (message : String) : Record :=
  ⟨logger, level, .ok message, none⟩

end Logging

end SignedLink
