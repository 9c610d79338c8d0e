import SignedLink.Config.Environment
import SignedLink.Files.Path
import SignedLink.Logging.PathPattern
import SignedLink.Logging.Record
import SignedLink.Logging.Rotation
import SignedLink.Text.UpperCase
/-!
# SignedLink — routing of log records

Loggers form a tree by the points in their names: above a logger stands the
nearest one that is known. A record that is written to a logger is looked at
there: if its level is below that of the logger, or of the nearest logger above
with a level of its own, it is dropped. Otherwise it goes to the handlers of the
logger and then of the loggers above, up to one that does not pass records on. A
handler that forwards hands the record to every sink, and a sink writes it if
its own level allows.

A configuration, read from the environment, replaces all sinks and the handlers
of the loggers of the service; what else is known of the tree stays. The path of
a log file is a pattern for the time of the configuration.
-/

namespace SignedLink.Logging

/-! ## Sinks -/

/-- Where a sink writes to. -/
inductive Outlet where
  | console
  | file (path : String)
deriving DecidableEq

/-- The form in which a sink writes. -/
inductive Form where
  | pretty
  | json
deriving DecidableEq

/-- A sink. -/
structure Sink where
  outlet : Outlet
  level : Level
  form : Form
  /-- whether there is a moment at which its outlet is replaced; else nothing can be written -/
  isOpen : Bool
deriving DecidableEq

/-- An entry as a sink gets it. -/
structure Delivery where
  sink : Sink
  entry : Entry

/-- The entry after a sink has written it. -/
def Sink.after (sink : Sink) (e : Entry) : Entry :=
  match sink.form with
  | .pretty => e
  | .json => e.afterJson

/-- An entry goes to one sink after the other. -/
def broadcast (level : Level) : List Sink → Entry → List Delivery
  | [], _ => []
  | sink :: rest, e =>
    if sink.level.number ≤ level.number then
      (if sink.isOpen then [⟨sink, e⟩] else []) ++ broadcast level rest (sink.after e)
    else broadcast level rest e

/-! ## The tree of loggers -/

/-- What is known of a logger. -/
structure Logger where
  /-- its own level, if it has one -/
  level : Option Level
  /-- how many of its handlers forward to the sinks -/
  forwards : Nat
  /-- whether records go on to the loggers above -/
  passesOn : Bool
deriving DecidableEq

/-- A logger that nothing has been set at. -/
def Logger.plain : Logger := ⟨none, 0, true⟩

/-- The names that can stand above a name, nearest first, from the name in reverse. A point that
stands directly before another is no end of a name, and neither is one at the start. -/
def namesAbove : List Char → List (List Char)
  | [] => []
  | [_] => []
  | c :: d :: rest =>
    if c == '.' then (d :: rest).reverse :: namesAbove rest
    else namesAbove (d :: rest)

/-- Where records go: the sinks and the loggers. -/
structure Routing where
  sinks : List Sink
  loggers : List (String × Logger)

namespace Routing

/-- Nothing has been set up. -/
def fresh : Routing := ⟨[], []⟩

/-- The level of the whole tree. -/
def rootLevel : Level := .warning

/-- The nearest known logger above a name, with its own name. -/
def above? (s : Routing) (name : String) : Option (String × Logger) :=
  (namesAbove name.toList.reverse).findSome? fun above =>
    (s.loggers.lookup (.ofList above)).map fun logger => (.ofList above, logger)

/-- The known loggers above a name, nearest first, up to so many. -/
def chainAbove (s : Routing) : Nat → String → List Logger
  | 0, _ => []
  | n + 1, name =>
    match s.above? name with
    | none => []
    | some (above, logger) => logger :: s.chainAbove n above

/-- What is known of a logger and those above it, nearest first. Names grow shorter on the way
up. -/
def chain (s : Routing) (name : String) : List Logger :=
  (s.loggers.lookup name).toList ++ s.chainAbove name.length name

/-- The routing in which a logger is known. -/
def know (s : Routing) (name : String) : Routing :=
  if (s.loggers.lookup name).isSome then s
  else { s with loggers := s.loggers ++ [(name, .plain)] }

/-- The level that counts at a logger. -/
def levelAt (s : Routing) (name : String) : Level :=
  ((s.chain name).findSome? (·.level)).getD rootLevel

/-- How often a record is forwarded on its way up. -/
def forwardsAlong : List Logger → Nat
  | [] => 0
  | logger :: above => logger.forwards + (if logger.passesOn then forwardsAlong above else 0)

/-- Whether a record of a level passes at a logger. -/
def passes (s : Routing) (name : String) (level : Level) : Bool :=
  decide (0 < level.number) && decide ((s.levelAt name).number ≤ level.number)

/-- What the sinks get of a record. Its message is put together at the first handler that
forwards it, and it is not if there is none. -/
def deliveries (s : Routing) (origin : Origin) (r : Record) : Except Fault (List Delivery) :=
  let count := forwardsAlong (s.chain r.logger)
  if !s.passes r.logger r.level || count == 0 then .ok []
  else
    match r.message with
    | .error f => .error f
    | .ok message =>
      .ok ((List.replicate count (⟨origin, r.level.name, message, []⟩ : Entry)).flatMap
        (broadcast r.level s.sinks))

/-- What the sinks get of records in order, up to the first that cannot be put together. -/
def deliverAll (s : Routing) (origin : Origin) : List Record → Except Fault (List Delivery)
  | [] => .ok []
  | r :: rest =>
    match s.deliveries origin r with
    | .error f => .error f
    | .ok first => (s.deliverAll origin rest).map (first ++ ·)

end Routing

/-! ## Configuration -/

/-- What the environment asks for. -/
structure Plan where
  /-- the name of the least level -/
  level : String
  form : Form
  /-- whether failures are told in full -/
  debug : Bool
  toFile : Bool
  directory : String
  file : String
  rotation : String

namespace Plan

/-- The plan of an environment. -/
def ofEnvironment (environment : Environment) : Plan where
  level := Text.upper (environment.getD "LOG_LEVEL" "INFO")
  form := if environment.isOn "LOG_JSON" then .json else .pretty
  debug := environment.isOn "APP_DEBUG"
  toFile := environment.isOn "LOG_TO_FILE"
  directory := environment.getD "LOG_DIR" "logs"
  file := environment.getD "LOG_FILE" "app.log"
  rotation := environment.getD "LOG_ROTATION" "10 MB"

/-- The pattern of the path of the log file. A file that is named from the root is not looked for
in the directory. -/
def pathPattern (p : Plan) : List Char :=
  let directory := p.directory.toList
  let file := p.file.toList
  if (Path.root file).isEmpty then
    Path.ofNames (Path.root directory) (Path.names directory ++ Path.names file)
  else Path.ofNames (Path.root file) (Path.names file)

/-- One name further along a path of names in reverse; `..` goes back where it can. -/
def stepName (rooted : Bool) (path : List (List Char)) (name : List Char) : List (List Char) :=
  if name == ['.', '.'] then
    match path with
    | last :: before => if last == ['.', '.'] then name :: path else before
    | [] => if rooted then [] else [name]
  else name :: path

/-- A path in its shortest form. -/
def shortest (cs : List Char) : List Char :=
  let root := Path.root cs
  Path.ofNames root ((Path.names cs).foldl (stepName (!root.isEmpty)) []).reverse

/-- The path of the log file at a time. -/
def path? (p : Plan) (now : Stamp) : Except PathFlaw String :=
  (PathPattern.filled now p.pathPattern).map fun cs => .ofList (shortest cs)

/-- The most octets of a name. -/
def nameLimit : Nat := 255

/-- The most octets of a path. -/
def pathLimit : Nat := 4095

/-- The path of a directory that cannot be made because of its length, if there is one: the whole
path when it is too long itself, or when nothing has to be made before a name that is; else the path
up to that name. -/
def longDirectory? (directory : List Char) : Option (List Char) :=
  let names := Path.names directory
  let whole := Path.ofNames (Path.root directory) names
  let short := names.takeWhile fun name => (Text.Utf8.encode name).length ≤ nameLimit
  if pathLimit < (Text.Utf8.encode whole).length then some whole
  else if short.length == names.length then none
  else if short.all (· == ['.', '.']) then some whole
  else some (Path.ofNames (Path.root directory) (names.take (short.length + 1)))

/-- The sinks of a plan, from a level on: the console, and the log file if there is one. -/
def sinks (p : Plan) (level : Level) (file : Option (String × Bool)) : List Sink :=
  ⟨.console, level, p.form, true⟩ ::
    (file.map fun (path, isOpen) => ⟨.file path, level, p.form, isOpen⟩).toList

end Plan

/-- The levels that sinks know by name. -/
def sinkLevels : List (String × Level) :=
  [("TRACE", ⟨5⟩), ("DEBUG", .debug), ("INFO", .info), ("SUCCESS", ⟨25⟩), ("WARNING", .warning),
    ("ERROR", .error), ("CRITICAL", .critical)]

/-- The levels that loggers know by name. -/
def loggerLevels : List (String × Level) :=
  [("CRITICAL", .critical), ("FATAL", .critical), ("ERROR", .error), ("WARN", .warning),
    ("WARNING", .warning), ("INFO", .info), ("DEBUG", .debug), ("NOTSET", ⟨0⟩)]

/-- The loggers of the service and of its host, whose records go to the sinks. -/
def intercepted : List String :=
  ["uvicorn", "uvicorn.error", "fastapi", "cdnredirect"]

/-- The path of the log file of a plan, and whether it can be written to. The path is read, then the
rotation rule, and then the path is filled in. -/
def Plan.logFile (p : Plan) (now : Stamp) : Except Fault (String × Bool) :=
  match longDirectory? p.directory.toList, PathPattern.flaw? p.pathPattern with
  | some path, _ => .error (.longPath (.ofList path))
  | none, some flaw => .error (.badPath flaw)
  | none, none =>
    match Rotation.ofText p.rotation, p.path? now with
    | .error flaw, _ => .error (.badRotation flaw)
    | .ok _, .error flaw => .error (.badPath flaw)
    | .ok rotation, .ok path =>
      .ok (path, rotation.isReached (now.seconds * 1000000 + now.micros))

/-- The log file of a plan that asks for one. -/
def Plan.logFile? (p : Plan) (now : Stamp) : Except Fault (Option (String × Bool)) :=
  if p.toFile then (p.logFile now).map some else .ok none

/-- The level of a plan and its log file. What it asks for and cannot be had is, in this order: a
level that the sinks do not know, a log file, and a level that only the sinks know. -/
def Plan.demands (p : Plan) (now : Stamp) : Except Fault (Level × Option (String × Bool)) :=
  match sinkLevels.lookup p.level with
  | none => .error (.unknownSinkLevel p.level)
  | some level =>
    match p.logFile? now with
    | .error f => .error f
    | .ok file =>
      if (loggerLevels.lookup p.level).isSome then .ok (level, file)
      else .error (.unknownLoggerLevel p.level)

/-- An intercepted logger: it forwards once and passes nothing on. -/
def Logger.intercepting (level : Level) : Logger :=
  ⟨some level, 1, false⟩

namespace Routing

/-- Sets a logger. -/
def setLogger (name : String) (logger : Logger) (loggers : List (String × Logger)) :
    List (String × Logger) :=
  (name, logger) :: loggers.filter fun known => known.1 != name

/-- The routing after a plan. -/
def apply (s : Routing) (p : Plan) (level : Level) (file : Option (String × Bool)) : Routing where
  sinks := p.sinks level file
  loggers := intercepted.foldr (fun name => setLogger name (.intercepting level)) s.loggers

/-- The routing configured from an environment at a time. -/
def configure (s : Routing) (environment : Environment) (now : Stamp) : Except Fault Routing :=
  let plan := Plan.ofEnvironment environment
  (plan.demands now).map fun (level, file) => s.apply plan level file

end Routing

end SignedLink.Logging
