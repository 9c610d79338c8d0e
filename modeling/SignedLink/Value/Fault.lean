import SignedLink.Text.Charset
import SignedLink.Text.Encoding
import SignedLink.Value.Shown
/-!
# SignedLink — undefined operations on values

An operation that a value does not support, or whose result does not exist,
has a `Fault`. Faults are no errors of configuration or signing: where they
are not caught they reach the host as they are.
-/

namespace SignedLink

/-- Why a message template cannot be filled in. -/
inductive TemplateFlaw where
  | missingArgument
  | surplusArguments
  /-- the template ends inside a placeholder -/
  | unclosed
  /-- the template ends inside the name of a placeholder -/
  | unclosedName
  /-- a placeholder has a name, but the arguments have none -/
  | unnamedArguments
  | noArgument (name : String)
  | unknownConversion (conversion : Char) (index : Nat)
  /-- a value that is no number -/
  | notReal (conversion : Char) (typeName : String)
  /-- a value that is no whole number -/
  | notWhole (conversion : Char) (typeName : String)
  /-- a value that is no number, where places are asked for -/
  | notDecimal (typeName : String)
  /-- a whole number beyond the range of the numbers with places -/
  | tooLarge
  | notCharacter
  | beyondCharacters
  | widthNotWhole
  /-- a width or a number of places among the arguments beyond what is counted with -/
  | widthBeyondRange
  | placesBeyondRange
  /-- a width or a number of places in the template beyond what is counted with -/
  | widthTooBig
  | placesTooBig
  /-- more digits than a whole number is written with -/
  | placesTooMany
  /-- a text too long to be held -/
  | textTooLong
deriving DecidableEq

/-- The message of a flaw. -/
def TemplateFlaw.message : TemplateFlaw → String
  | .missingArgument => "not enough arguments for format string"
  | .surplusArguments => "not all arguments converted during string formatting"
  | .unclosed => "incomplete format"
  | .unclosedName => "incomplete format key"
  | .unnamedArguments => "format requires a mapping"
  | .noArgument name => (Value.text name).shown
  | .unknownConversion conversion index =>
    let shown := if 31 ≤ conversion.toNat ∧ conversion.toNat ≤ 126 then conversion else '?'
    "unsupported format character '" ++ shown.toString ++ "' (0x" ++
      String.ofList (Text.hex conversion.toNat) ++ ") at index " ++ toString index
  | .notReal conversion typeName =>
    "%" ++ conversion.toString ++ " format: a real number is required, not " ++ typeName
  | .notWhole conversion typeName =>
    "%" ++ conversion.toString ++ " format: an integer is required, not " ++ typeName
  | .notDecimal typeName => "must be real number, not " ++ typeName
  | .tooLarge => "int too large to convert to float"
  | .notCharacter => "%c requires int or char"
  | .beyondCharacters => "%c arg not in range(0x110000)"
  | .widthNotWhole => "* wants int"
  | .widthBeyondRange => "Python int too large to convert to C ssize_t"
  | .placesBeyondRange => "Python int too large to convert to C int"
  | .widthTooBig => "width too big"
  | .placesTooBig => "precision too big"
  | .placesTooMany => "precision too large"
  | .textTooLong => ""

/-- Why a rotation rule cannot be read. -/
inductive RotationFlaw where
  /-- a rule of no known form -/
  | unknownForm (rule : String)
  /-- the amount of a size -/
  | badSize (amount : String)
  /-- the amount of a duration -/
  | badDuration (amount : String)
  /-- the unit of a duration -/
  | badUnit (unit : String)
  | badDay (day : String)
  | badTime (time : String)
  /-- a duration that is no number -/
  | durationNotNumber
  | durationInfinite
  /-- more days than are counted with -/
  | durationTooLong
  /-- more days than a duration may have -/
  | durationOutOfRange (days : Int)
deriving DecidableEq

/-- The message of a flaw. -/
def RotationFlaw.message : RotationFlaw → String
  | .unknownForm rule => "Cannot parse rotation from: '" ++ rule ++ "'"
  | .badSize amount => "Invalid float value while parsing size: '" ++ amount ++ "'"
  | .badDuration amount => "Invalid float value while parsing duration: '" ++ amount ++ "'"
  | .badUnit unit => "Invalid unit value while parsing duration: '" ++ unit ++ "'"
  | .badDay day => "Invalid day while parsing daytime: '" ++ day ++ "'"
  | .badTime time => "Invalid time while parsing daytime: '" ++ time ++ "'"
  | .durationNotNumber => "cannot convert float NaN to integer"
  | .durationInfinite => "cannot convert float infinity to integer"
  | .durationTooLong => "Python int too large to convert to C int"
  | .durationOutOfRange days =>
    "days=" ++ String.ofList (Text.decimal days) ++ "; must have magnitude <= 999999999"

/-- Why a path with places for the time cannot be read or filled in. -/
inductive PathFlaw where
  /-- a closing brace that closes nothing -/
  | loneClose
  /-- an opening brace at the end -/
  | loneOpen
  /-- an opening brace in the name of a place -/
  | openInName
  /-- a place that is not closed -/
  | unclosed
  /-- a place that is not closed behind a pattern -/
  | unclosedPattern
  | missingConversion
  /-- something else than a pattern behind a conversion -/
  | afterConversion
  | unknownConversion (conversion : Char)
  /-- a place with a number or nothing for a name -/
  | unnamed
  | tooManyDigits
  | unknownName (name : String)
  | noAttribute (name : String)
  | noItems
  /-- a part of a value without a name -/
  | emptyPart
  /-- places inside a pattern that is itself inside a pattern -/
  | tooNested
  /-- a fraction of a second beyond millionths -/
  | tooFine
deriving DecidableEq

/-- The message of a flaw. -/
def PathFlaw.message : PathFlaw → String
  | .loneClose => "Single '\x7d' encountered in format string"
  | .loneOpen => "Single '\x7b' encountered in format string"
  | .openInName => "unexpected '\x7b' in field name"
  | .unclosed => "expected '\x7d' before end of string"
  | .unclosedPattern => "unmatched '\x7b' in format spec"
  | .missingConversion => "end of string while looking for conversion specifier"
  | .afterConversion => "expected ':' after conversion specifier"
  | .unknownConversion conversion =>
    "Unknown conversion specifier " ++
      (if 32 < conversion.toNat ∧ conversion.toNat < 127 then conversion.toString
      else "\\x" ++ String.ofList (Text.hex conversion.toNat))
  | .unnamed => "Format string contains positional fields"
  | .tooManyDigits => "Too many decimal digits in format string"
  | .unknownName name => (Value.text name).shown
  | .noAttribute name => "'FileDateFormatter' object has no attribute '" ++ name ++ "'"
  | .noItems => "'FileDateFormatter' object is not subscriptable"
  | .emptyPart => "Empty attribute in format string"
  | .tooNested => "Max string recursion exceeded"
  | .tooFine =>
    "Invalid time format: the provided format string contains more than six successive 'S' " ++
      "characters. This may be due to an attempt to use nanosecond precision, which is not " ++
      "supported."

/-- Why an operation on a value, a path, a time or a level is undefined. -/
inductive Fault where
  /-- a text or octet string that spells no integer, as far as it is shown -/
  | badNumeral (excerpt : String)
  /-- a numeral with more digits than are read -/
  | longNumeral (digits : Nat)
  /-- an integer with more digits than are written -/
  | longInteger
  /-- the integer part of what is no number -/
  | wholeOfNan
  /-- the integer part of an infinity -/
  | wholeOfInfinity
  /-- a kind of value that is no number -/
  | notNumeric (typeName : String)
  /-- a kind of value without a length -/
  | noLength (typeName : String)
  /-- a record cannot be cut -/
  | uncuttable
  /-- a list or octet string cannot be joined with a text -/
  | unjoinableList
  | unjoinableOctets
  /-- a kind of value that is not ordered among the integers -/
  | unordered (typeName : String)
  /-- a kind of value that has no text operations -/
  | notText (typeName operation : String)
  /-- a kind of value without a field -/
  | noField (typeName name : String)
  /-- octets where a text operation needs a text -/
  | octetsForText
  /-- a date outside the years 1 to 9999 -/
  | yearOutOfRange (year : Int)
  /-- a date whose year has no machine representation -/
  | dateTooLarge
  /-- a time outside the range of 64 bits -/
  | timeOutOfRange
  /-- octets that are no text -/
  | undecodable (error : Text.Undecodable)
  /-- a text with characters that the encoding of its output lacks -/
  | unencodable (error : Text.Unencodable)
  /-- an encoding that is not known -/
  | unknownEncoding (name : String)
  /-- a kind of value that names no encoding -/
  | notEncoding (typeName : String)
  /-- a path with U+0000 -/
  | nulInPath
  /-- a level that the sinks do not know -/
  | unknownSinkLevel (name : String)
  /-- a level that the loggers do not know -/
  | unknownLoggerLevel (name : String)
  /-- a rotation rule that cannot be read -/
  | badRotation (flaw : RotationFlaw)
  /-- a path for a log file that cannot be read or filled in -/
  | badPath (flaw : PathFlaw)
  /-- a path that is too long, or with a name that is -/
  | longPath (path : String)
  /-- a kind of value that names no path -/
  | notPath (typeName : String)
  /-- octets where a path is needed -/
  | octetsForPath
  /-- a kind of value without items -/
  | notIterable (typeName : String)
  /-- a setting that cannot be looked up in a source -/
  | unreadSetting (setting source : String)
  /-- a directory of secrets that is a file -/
  | secretsInFile
  /-- a message template that cannot be filled in -/
  | badTemplate (flaw : TemplateFlaw)
  /-- the fields of an object are no record -/
  | fieldsNotRecord (typeName : String)
  /-- the class of an object is no class -/
  | classNotClass (typeName : String)
  /-- a value under a name that is not known -/
  | unexpectedArgument (maker name : String)
  /-- names without a value; there is at least one -/
  | missingArguments (maker : String) (names : List String)
  /-- a part of an object that cannot be replaced -/
  | unwritable (name typeName : String)
  /-- a part of an object that is worked out when it is asked for -/
  | noSetter (name typeName : String)
  /-- a failure that came with its own text -/
  | reported (text : String)
deriving DecidableEq

namespace Fault

/-- The most digits a numeral may have. -/
def numeralLimit : Nat := 4300

/-- Names in quotes, the last two joined by a word. -/
def enumerated : List String → String
  | [] => ""
  | [name] => "'" ++ name ++ "'"
  | [first, last] => "'" ++ first ++ "' and '" ++ last ++ "'"
  | name :: rest => "'" ++ name ++ "', " ++ enumerated rest

/-- The message of a fault. -/
def message : Fault → String
  | .badNumeral excerpt => "invalid literal for int() with base 10: " ++ excerpt
  | .longNumeral digits =>
    "Exceeds the limit (" ++ toString numeralLimit ++ " digits) for integer string conversion: " ++
      "value has " ++ toString digits ++
      " digits; use sys.set_int_max_str_digits() to increase the limit"
  | .longInteger =>
    "Exceeds the limit (" ++ toString numeralLimit ++ " digits) for integer string conversion; " ++
      "use sys.set_int_max_str_digits() to increase the limit"
  | .wholeOfNan => "cannot convert float NaN to integer"
  | .wholeOfInfinity => "cannot convert float infinity to integer"
  | .notNumeric typeName =>
    "int() argument must be a string, a bytes-like object or a real number, not '" ++ typeName ++
      "'"
  | .noLength typeName => "object of type '" ++ typeName ++ "' has no len()"
  | .uncuttable => "unhashable type: 'slice'"
  | .unjoinableList => "can only concatenate list (not \"str\") to list"
  | .unjoinableOctets => "can't concat str to bytes"
  | .unordered typeName =>
    "'<' not supported between instances of '" ++ typeName ++ "' and 'int'"
  | .notText typeName name | .noField typeName name =>
    "'" ++ typeName ++ "' object has no attribute '" ++ name ++ "'"
  | .octetsForText => "a bytes-like object is required, not 'str'"
  | .yearOutOfRange year => "year " ++ String.ofList (Text.decimal year) ++ " is out of range"
  | .dateTooLarge => "[Errno 75] Value too large for defined data type"
  | .timeOutOfRange => "timestamp out of range for platform time_t"
  | .undecodable error => error.message
  | .unencodable error => error.message
  | .unknownEncoding name => "unknown encoding: " ++ name
  | .notEncoding typeName => "open() argument 'encoding' must be str or None, not " ++ typeName
  | .nulInPath => "embedded null byte"
  | .unknownSinkLevel name => "Level '" ++ name ++ "' does not exist"
  | .unknownLoggerLevel name => "Unknown level: " ++ (Value.text name).shown
  | .badRotation flaw => flaw.message
  | .badPath flaw => flaw.message
  | .longPath path => "[Errno 36] File name too long: " ++ (Value.text path).shown
  | .notPath typeName => "expected str, bytes or os.PathLike object, not " ++ typeName
  | .octetsForPath =>
    "argument should be a str object or an os.PathLike object returning str, not <class 'bytes'>"
  | .notIterable typeName => "'" ++ typeName ++ "' object is not iterable"
  | .unreadSetting setting source =>
    "error getting value for field \"" ++ setting ++ "\" from source \"" ++ source ++ "\""
  | .secretsInFile => "secrets_dir must reference a directory, not a file"
  | .badTemplate flaw => flaw.message
  | .fieldsNotRecord typeName =>
    "__dict__ must be set to a dictionary, not a '" ++ typeName ++ "'"
  | .classNotClass typeName => "__class__ must be set to a class, not '" ++ typeName ++ "' object"
  | .unexpectedArgument maker name =>
    maker ++ " got an unexpected keyword argument '" ++ name ++ "'"
  | .missingArguments maker names =>
    maker ++ " missing " ++ toString names.length ++ " required keyword-only argument" ++
      (if names.length = 1 then "" else "s") ++ ": " ++ enumerated names
  | .unwritable name typeName =>
    "attribute '" ++ name ++ "' of '" ++ typeName ++ "' objects is not writable"
  | .noSetter name typeName =>
    "property '" ++ name ++ "' of '" ++ typeName ++ "' object has no setter"
  | .reported text => text

end Fault

end SignedLink
