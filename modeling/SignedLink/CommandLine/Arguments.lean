import SignedLink.CommandLine.Token
import SignedLink.Value.Numeral
/-!
# SignedLink — what the command line asks for

The first operand is the content identity, and each option may be given more
than once, the last time counting. Arguments are taken in order, so of several
mistakes the first is told, except that names that are not clear come first
and missing or surplus arguments last.
-/

namespace SignedLink.CommandLine

/-- The seconds that were asked for. -/
inductive Seconds where
  | number (n : Int)
  /-- the option was given with the separator in the place of its value -/
  | nothing
deriving DecidableEq

/-- The value that stands for the seconds. -/
def Seconds.toValue : Seconds → Value
  | .number n => .integer n
  | .nothing => .list []

/-- What was asked for. -/
structure Arguments where
  identity : String
  url : Option String
  keyFile : Option String
  keyPairId : Option String
  ttl : Option Seconds
deriving DecidableEq

/-- What ends the reading of arguments early. -/
inductive Stop where
  | help
  | usage (error : UsageError)
deriving DecidableEq

/-- The arguments taken so far. -/
structure Taken where
  identity : Option String
  url : Option String
  keyFile : Option String
  keyPairId : Option String
  ttl : Option Seconds
  /-- what could not be used -/
  surplus : List String

namespace Taken

def nothing : Taken :=
  ⟨none, none, none, none, none, []⟩

/-- Keeps an argument that could not be used. -/
def addSurplus (taken : Taken) (cs : List Char) : Taken :=
  { taken with surplus := taken.surplus ++ [.ofList cs] }

/-- Keeps the value of an option. -/
def setValue (taken : Taken) (flag : Flag) (cs : List Char) : Except Stop Taken :=
  let value := String.ofList cs
  match flag with
  | .help => .error .help
  | .url => .ok { taken with url := some value }
  | .keyFile => .ok { taken with keyFile := some value }
  | .keyPairId => .ok { taken with keyPairId := some value }
  | .ttl =>
    match (Value.text value).toInteger with
    | .ok n => .ok { taken with ttl := some (.number n) }
    | .error _ => .error (.usage (.invalidNumber value))

/-- What letters behind the help letter lead to. Each of them is an option of one letter, so that
only the help letter again asks for help. -/
def helpLetters : List Char → Stop
  | ['h'] => .help
  | 'h' :: more => helpLetters more
  | letters => .usage (.ignoredValue .help (.ofList letters))

/-- What a value on the help option leads to. -/
def helpValue : CarriedValue → Stop
  | .behindLetter letters => helpLetters letters
  | .behindWord text => .usage (.ignoredValue .help (.ofList text))

/-- Keeps an option without any value, as the separator in the place of a value leaves it. -/
def setNothing (taken : Taken) : Flag → Taken
  | .help => taken
  | .url => { taken with url := some "" }
  | .keyFile => { taken with keyFile := some "" }
  | .keyPairId => { taken with keyPairId := some "" }
  | .ttl => { taken with ttl := some .nothing }

/-- Keeps an option with the value that it carries. -/
def setCarried (taken : Taken) (flag : Flag) (value : CarriedValue) : Except Stop Taken :=
  if flag = .help then .error (helpValue value)
  else
    match value with
    | .behindLetter text | .behindWord text =>
      if text = "--".toList then .ok (taken.setNothing flag) else taken.setValue flag text

/-- Takes the arguments in order. -/
def take (taken : Taken) : List Token → Except Stop Taken
  | [] => .ok taken
  | .unknownOption cs :: rest => (taken.addSurplus cs).take rest
  | .option flag (some value) :: rest =>
    match taken.setCarried flag value with
    | .error stop => .error stop
    | .ok taken => taken.take rest
  | .option .help none :: _ => .error .help
  | .option flag none :: .operand value :: rest =>
    match taken.setValue flag value with
    | .error stop => .error stop
    | .ok taken => taken.take rest
  | .option flag none :: _ => .error (.usage (.noValue flag))
  | .separator :: .operand cs :: rest =>
    if taken.identity.isNone then { taken with identity := some (.ofList cs) }.take rest
    else ((taken.addSurplus "--".toList).addSurplus cs).take rest
  | .separator :: rest => (taken.addSurplus "--".toList).take rest
  | .operand cs :: .separator :: rest =>
    if taken.identity.isNone then { taken with identity := some (.ofList cs) }.take rest
    else ((taken.addSurplus cs).addSurplus "--".toList).take rest
  | .operand cs :: rest =>
    if taken.identity.isNone then { taken with identity := some (.ofList cs) }.take rest
    else (taken.addSurplus cs).take rest

end Taken

namespace Arguments

/-- What the tokens ask for. -/
def ofTokens (ts : List Token) : Except Stop Arguments :=
  match Taken.nothing.take ts with
  | .error stop => .error stop
  | .ok taken =>
    match taken.identity with
    | none => .error (.usage .noIdentity)
    | some identity =>
      if taken.surplus.isEmpty then
        .ok { identity, url := taken.url, keyFile := taken.keyFile, keyPairId := taken.keyPairId,
              ttl := taken.ttl }
      else .error (.usage (.unrecognized taken.surplus))

/-- What the arguments ask for. -/
def parse (arguments : List String) : Except Stop Arguments :=
  match tokens (arguments.map String.toList) with
  | .error e => .error (.usage e)
  | .ok ts => ofTokens ts

end Arguments

end SignedLink.CommandLine
