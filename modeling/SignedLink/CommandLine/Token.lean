import SignedLink.Text.Digit
import SignedLink.Text.Quoted
import SignedLink.Text.Search
/-!
# SignedLink — arguments of the command line

Each argument is an operand, an option or the separator `--`, after which all
are operands. An option may be shortened as long as no other begins like that,
and may carry its value after `=`. What begins with a hyphen and is no option
is an operand when it is a hyphen alone, a negative number, or has a space.
-/

namespace SignedLink.CommandLine

/-- The options. -/
inductive Flag where
  | help
  | url
  | keyFile
  | keyPairId
  | ttl
deriving DecidableEq

/-- The name of an option in messages. -/
def Flag.shown : Flag → String
  | .help => "-h/--help"
  | .url => "--url"
  | .keyFile => "--key-file"
  | .keyPairId => "--key-pair-id"
  | .ttl => "--ttl"

/-- The names of the options, in the order in which they are told. -/
def flagNames : List (List Char × Flag) :=
  [("-h".toList, .help), ("--help".toList, .help), ("--url".toList, .url),
    ("--key-file".toList, .keyFile), ("--key-pair-id".toList, .keyPairId), ("--ttl".toList, .ttl)]

/-- Why arguments cannot be used. -/
inductive UsageError where
  | ambiguous (argument : String) (names : List String)
  | noValue (flag : Flag)
  /-- a value for an option that takes none -/
  | ignoredValue (flag : Flag) (value : String)
  | invalidNumber (value : String)
  | noIdentity
  | unrecognized (arguments : List String)
deriving DecidableEq

/-- The message of an error. -/
def UsageError.message : UsageError → String
  | .ambiguous argument names =>
    "ambiguous option: " ++ argument ++ " could match " ++ ", ".intercalate names
  | .noValue flag => "argument " ++ flag.shown ++ ": expected one argument"
  | .ignoredValue flag value =>
    "argument " ++ flag.shown ++ ": ignored explicit argument " ++
      String.ofList (Text.quoted value.toList)
  | .invalidNumber value =>
    "argument --ttl: invalid int value: " ++ String.ofList (Text.quoted value.toList)
  | .noIdentity => "the following arguments are required: content_identity"
  | .unrecognized arguments => "unrecognized arguments: " ++ " ".intercalate arguments

/-- The value that an option carries in its own argument. -/
inductive CarriedValue where
  /-- behind a name of one letter, with or without an equals sign between them -/
  | behindLetter (text : List Char)
  /-- behind a longer name and an equals sign -/
  | behindWord (text : List Char)
deriving DecidableEq

/-- What an argument is. -/
inductive Token where
  | operand (text : List Char)
  | separator
  | option (flag : Flag) (value : Option CarriedValue)
  | unknownOption (text : List Char)
deriving DecidableEq

/-! ## One argument -/

/-- The parts before and after the first `=`. -/
def splitValue (cs : List Char) : List Char × Option CarriedValue :=
  match Text.splitFirst? ['='] cs with
  | some (name, value) =>
    (name, some (if "--".toList.isPrefixOf name then .behindWord value else .behindLetter value))
  | none => (cs, none)

/-- Whether the characters are a minus and decimal digits with at most one point, which digits
follow. A line feed at the end is of no account. -/
def isNegativeNumber (cs : List Char) : Bool :=
  match if cs.getLast? == some '\n' then cs.dropLast else cs with
  | '-' :: body =>
    let isDigit (c : Char) := (Text.digitValue? c).isSome
    let whole := body.takeWhile isDigit
    match body.drop whole.length with
    | [] => !whole.isEmpty
    | '.' :: places => !places.isEmpty && places.all isDigit
    | _ => false
  | _ => false

/-- The option that stands under exactly this name. -/
def named? (name : List Char) (value : Option CarriedValue) : Option Token :=
  (flagNames.lookup name).map fun flag => .option flag value

/-- A way to read an argument as an option: the full name, the option and its value. -/
abbrev Candidate := List Char × Flag × Option CarriedValue

/-- The ways to read an argument with one hyphen: a short name with its value behind it. -/
def shortCandidates (cs : List Char) : List Candidate :=
  flagNames.filterMap fun (name, flag) =>
    if name == cs.take 2 then some (name, flag, some (.behindLetter (cs.drop 2)))
    else if cs.isPrefixOf name then some (name, flag, none)
    else none

/-- The ways to read an argument with two hyphens: the names that begin like it. -/
def longCandidates (cs : List Char) : List Candidate :=
  let (start, value) := splitValue cs
  flagNames.filterMap fun (name, flag) =>
    if start.isPrefixOf name then some (name, flag, value) else none

/-- An argument that begins with a hyphen and is no option. -/
def otherToken (cs : List Char) : Token :=
  if isNegativeNumber cs || cs.contains ' ' then .operand cs else .unknownOption cs

/-- An argument that may be a shortened option. -/
def shortened (cs : List Char) : Except UsageError Token :=
  let candidates :=
    if (cs.drop 1).head? == some '-' then longCandidates cs else shortCandidates cs
  match candidates with
  | [] => .ok (otherToken cs)
  | [(_, flag, value)] => .ok (.option flag value)
  | several => .error (.ambiguous (.ofList cs) (several.map fun c => .ofList c.1))

/-- What an argument before the separator is. -/
def token (cs : List Char) : Except UsageError Token :=
  if cs.head? != some '-' then .ok (.operand cs)
  else
    match named? cs none with
    | some t => .ok t
    | none =>
      if cs.length == 1 then .ok (.operand cs)
      else
        let (name, value) := splitValue cs
        match if value.isSome then named? name value else none with
        | some t => .ok t
        | none => shortened cs

/-! ## All arguments -/

/-- What the arguments are. -/
def tokens : List (List Char) → Except UsageError (List Token)
  | [] => .ok []
  | cs :: rest =>
    if cs == "--".toList then .ok (.separator :: rest.map .operand)
    else
      match token cs with
      | .error e => .error e
      | .ok t =>
        match tokens rest with
        | .error e => .error e
        | .ok ts => .ok (t :: ts)

end SignedLink.CommandLine
