import SignedLink.Text.Blank
import SignedLink.Text.Search
import SignedLink.Value.Basic
/-!
# SignedLink — settings files

A settings file has one binding a line, `NAME=value` or `export NAME=value`,
between blank lines and comments. A value may stand in quotes, where it can
hold line ends and escapes; without quotes it goes up to the end of the line
or to a `#` after a blank. A name without `=` is bound to nothing. A line that
cannot be read is skipped. In values, `$` with a name in braces stands for the
value of that name, bound earlier or in the environment.

Line ends are line feeds. Reading goes on with an allowance as long as the
text, of which each line takes at least one character.
-/

namespace SignedLink.EnvFile

/-- A blank that does not end a line. -/
def isInline (c : Char) : Bool :=
  Text.isBlank c && c != '\n' && c != '\r'

/-- The rest after the line end. -/
def afterLine (cs : List Char) : List Char :=
  (cs.dropWhile (· != '\n')).drop 1

/-! ## Names -/

/-- A name and the rest; a comment has no name. -/
def name? : List Char → Option (Option (List Char) × List Char)
  | '#' :: rest => some (none, '#' :: rest)
  | '\x27' :: rest =>
    let name := rest.takeWhile (· != '\x27')
    if name.isEmpty || name.length == rest.length then none
    else some (some name, rest.drop (name.length + 1))
  | cs =>
    let name := cs.takeWhile fun c => c != '=' && c != '#' && !Text.isBlank c
    if name.isEmpty then none else some (some name, cs.drop name.length)

/-- The rest after the word `export` and a blank, when they stand there. -/
def afterExport (cs : List Char) : List Char :=
  if "export".toList.isPrefixOf cs then
    let rest := cs.drop 6
    if (rest.head?.map isInline).getD false then rest.dropWhile isInline else cs
  else cs

/-! ## Values -/

/-- The position of the first quote that closes, which is one without a backslash of its own: a
backslash takes the character behind it along. -/
def closingQuote? (quote : Char) (pos : Nat) : List Char → Option Nat
  | [] => none
  | '\\' :: _ :: rest => closingQuote? quote (pos + 2) rest
  | c :: rest => if c == quote then some pos else closingQuote? quote (pos + 1) rest

/-- What a letter after a backslash stands for between double quotes. -/
def escapes : List (Char × Char) :=
  [('a', Char.ofNat 7), ('b', Char.ofNat 8), ('f', Char.ofNat 12), ('n', '\n'), ('r', '\r'),
    ('t', '\t'), ('v', Char.ofNat 11), ('\\', '\\'), ('\x27', '\x27'), ('\x22', '\x22')]

/-- Between single quotes only a backslash and a single quote are escaped. -/
def plainEscapes : List (Char × Char) :=
  [('\\', '\\'), ('\x27', '\x27')]

/-- Resolves escapes; other backslashes stand for themselves. -/
def unescape (table : List (Char × Char)) : List Char → List Char
  | '\\' :: c :: rest =>
    match table.lookup c with
    | some d => d :: unescape table rest
    | none => '\\' :: unescape table (c :: rest)
  | c :: rest => c :: unescape table rest
  | [] => []

/-- What stands before a comment, which is a `#` after blanks. -/
def beforeComment : List Char → List Char
  | [] => []
  | c :: rest =>
    if Text.isBlank c && (rest.dropWhile Text.isBlank).head? == some '#' then []
    else c :: beforeComment rest

/-- A value in quotes, and the rest. -/
def quotedValue? (quote : Char) (table : List (Char × Char)) (cs : List Char) :
    Option (List Char × List Char) :=
  (closingQuote? quote 0 cs).map fun close =>
    (unescape table (cs.take close), cs.drop (close + 1))

/-- A value, and the rest. Blanks before a value without quotes are part of the text in which a
comment is looked for. -/
def value? (cs : List Char) : Option (List Char × List Char) :=
  match cs.dropWhile isInline with
  | '\x27' :: rest => quotedValue? '\x27' plainEscapes rest
  | '\x22' :: rest => quotedValue? '\x22' escapes rest
  | _ =>
    let line := cs.takeWhile (· != '\n')
    some (Text.trimBy Text.isBlank (beforeComment line), cs.drop line.length)

/-! ## Lines -/

/-- A bound name; without a value it is bound to nothing. -/
abbrev Binding := List Char × Option (List Char)

/-- The rest after an optional comment and the line end, if nothing else stands there. -/
def lineEnd? (cs : List Char) : Option (List Char) :=
  let comment := cs.dropWhile isInline
  let rest := if comment.head? == some '#' then comment.dropWhile (· != '\n') else cs
  match rest.dropWhile isInline with
  | [] => some []
  | '\n' :: next => some next
  | _ => none

/-- Ends a line: its binding is kept only when the line ends here. -/
def finish (name : Option (List Char)) (value : Option (List Char)) (cs : List Char) :
    Option Binding × List Char :=
  match lineEnd? cs with
  | some next => (name.map fun n => (n, value), next)
  | none => (none, afterLine cs)

/-- One line: its binding, if there is one, and the rest. -/
def line (cs : List Char) : Option Binding × List Char :=
  let start := afterExport cs
  match name? start with
  | none => (none, afterLine start)
  | some (name, rest) =>
    match rest.dropWhile isInline with
    | '=' :: more =>
      match value? more with
      | none => (none, afterLine more)
      | some (value, rest) => finish name (some value) rest
    | rest => finish name none rest

/-- The bindings in order. -/
def bindingsFrom : (allowance : Nat) → List Char → List Binding
  | 0, _ => []
  | allowance + 1, cs =>
    let start := cs.dropWhile Text.isBlank
    if start.isEmpty then []
    else
      let (binding, rest) := line start
      binding.toList ++ bindingsFrom allowance rest

/-- The text without a mark of the order of octets at its front. -/
def afterMark : List Char → List Char
  | '\uFEFF' :: rest => rest
  | cs => cs

/-- The bindings in order. -/
def bindings (cs : List Char) : List Binding :=
  bindingsFrom cs.length (afterMark cs)

/-! ## References -/

/-- A reference after its opening brace: the name, the default after `:-`, and the rest. -/
def reference? (cs : List Char) : Option (List Char × List Char × List Char) :=
  let name := cs.takeWhile fun c => c != '\x7d' && c != ':'
  match cs.drop name.length with
  | '\x7d' :: rest => some (name, [], rest)
  | ':' :: '-' :: more =>
    let default := more.takeWhile (· != '\x7d')
    if default.length == more.length then none
    else some (name, default, more.drop (default.length + 1))
  | _ => none

/-- What a name stands for: an earlier binding, else the environment, else the default. -/
def resolve (environment : List (String × String)) (bound : Fields) (name default : List Char) :
    List Char :=
  match bound.find? (.ofList name) with
  | some (.text s) => s.toList
  | some _ => []
  | none => ((environment.lookup (.ofList name)).map String.toList).getD default

/-- The value with its references resolved, from left to right. -/
def expandFrom (environment : List (String × String)) (bound : Fields) :
    (allowance : Nat) → List Char → List Char
  | 0, cs => cs
  | _ + 1, [] => []
  | allowance + 1, '$' :: '\x7b' :: rest =>
    match reference? rest with
    | some (name, default, rest) =>
      resolve environment bound name default ++ expandFrom environment bound allowance rest
    | none => '$' :: expandFrom environment bound allowance ('\x7b' :: rest)
  | allowance + 1, c :: rest => c :: expandFrom environment bound allowance rest

/-- The value with its references resolved. -/
def expand (environment : List (String × String)) (bound : Fields) (cs : List Char) : List Char :=
  expandFrom environment bound cs.length cs

/-- Adds a binding to the earlier ones. -/
def bind (environment : List (String × String)) (bound : Fields) (binding : Binding) : Fields :=
  bound.put (.ofList binding.1)
    (match binding.2 with
    | some value => .text (.ofList (expand environment bound value))
    | none => .null)

/-- What a settings file binds; null stands for nothing. -/
def read (environment : List (String × String)) (cs : List Char) : Fields :=
  (bindings cs).foldl (bind environment) []

end SignedLink.EnvFile
