import SignedLink.Logging.TimePattern
import SignedLink.Text.Digit
/-!
# SignedLink — paths with places for the time

The path of a log file may hold places in braces. The name of a place has to be
`time`; a conversion may follow it behind an exclamation mark, and a pattern for
the time behind a colon. A pattern may hold places of its own, but the patterns
of these may not. A brace that is written twice stands for itself once.

A text is read up to its first flaw, and what stands before the flaw is filled
in first, so that of two flaws the one further to the left is told. A path for
a file is read to its end before anything is filled in.
-/

namespace SignedLink.Logging.PathPattern

/-- A place for the time. -/
structure Place where
  name : List Char
  conversion : Option Char
  pattern : List Char
deriving DecidableEq

/-- A part of a path. -/
inductive Part where
  | character (c : Char)
  | place (p : Place)
deriving DecidableEq

/-! ## Reading -/

/-- The name of a place, the character that ends it, and the rest. Within square brackets nothing
ends a name. -/
def nameOf : (bracketed : Bool) → List Char → Except PathFlaw (List Char × Char × List Char)
  | _, [] => .error .unclosed
  | true, c :: rest =>
    (nameOf (c != ']') rest).map fun (name, stop, rest) => (c :: name, stop, rest)
  | false, c :: rest =>
    if c == '\x7b' then .error .openInName
    else if c == '\x7d' || c == ':' || c == '!' then .ok ([], c, rest)
    else (nameOf (c == '[') rest).map fun (name, stop, rest) => (c :: name, stop, rest)

/-- A pattern up to the brace that closes its place, and the rest; inside of so many braces. -/
def patternOf : (depth : Nat) → List Char → Except PathFlaw (List Char × List Char)
  | _, [] => .error .unclosedPattern
  | depth, c :: rest =>
    if c == '\x7d' then
      match depth with
      | 0 => .ok ([], rest)
      | depth + 1 => (patternOf depth rest).map fun (pattern, rest) => (c :: pattern, rest)
    else
      (patternOf (if c == '\x7b' then depth + 1 else depth) rest).map fun (pattern, rest) =>
        (c :: pattern, rest)

/-- A place from behind its opening brace on, and the rest. -/
def placeOf (cs : List Char) : Except PathFlaw (Place × List Char) :=
  match nameOf false cs with
  | .error flaw => .error flaw
  | .ok (name, stop, rest) =>
    let patterned (conversion : Option Char) (rest : List Char) :=
      (patternOf 0 rest).map fun (pattern, rest) => (⟨name, conversion, pattern⟩, rest)
    if stop == '\x7d' then .ok (⟨name, none, []⟩, rest)
    else if stop == ':' then patterned none rest
    else
      match rest with
      | [] => .error .missingConversion
      | [_] => .error .unclosedPattern
      | c :: next :: rest =>
        if next == '\x7d' then .ok (⟨name, some c, []⟩, rest)
        else if next == ':' then patterned (some c) rest
        else .error .afterConversion

/-- The part that a character begins, and the rest. -/
def partOf (c : Char) (rest : List Char) : Except PathFlaw (Part × List Char) :=
  if c == '\x7d' then
    match rest with
    | '\x7d' :: rest => .ok (.character c, rest)
    | _ => .error .loneClose
  else if c == '\x7b' then
    match rest with
    | [] => .error .loneOpen
    | '\x7b' :: rest => .ok (.character c, rest)
    | rest => (placeOf rest).map fun (place, rest) => (.place place, rest)
  else .ok (.character c, rest)

/-- The parts of a path and the flaw that ends them, if there is one. -/
def readFrom : (allowance : Nat) → List Char → List Part × Option PathFlaw
  | 0, _ | _, [] => ([], none)
  | allowance + 1, c :: rest =>
    match partOf c rest with
    | .error flaw => ([], some flaw)
    | .ok (part, rest) =>
      let (parts, flaw) := readFrom allowance rest
      (part :: parts, flaw)

/-- The parts of a path up to its first flaw, and the flaw. -/
def read (path : List Char) : List Part × Option PathFlaw :=
  readFrom path.length path

/-- What is wrong with a path before it is filled in, if anything. -/
def flaw? (path : List Char) : Option PathFlaw :=
  (read path).2

/-! ## Filling in -/

/-- The greatest number of a place or of an item. -/
def numberLimit : Nat := 2 ^ (63 : Nat) - 1

/-- Whether a name is a number; none if it begins with a number beyond the limit. -/
def isNumber? (name : List Char) : Option Bool :=
  let digits := name.takeWhile fun c => (Text.digitValue? c).isSome
  let number := digits.foldl (fun n c => 10 * n + (Text.digitValue? c).getD 0) 0
  if numberLimit < number then none
  else some (!name.isEmpty && digits.length == name.length)

/-- What is wrong with the way from the time to a part of it; a time has no parts. -/
def accessFlaw? : List Char → Option PathFlaw
  | [] => none
  | '[' :: rest =>
    let item := rest.takeWhile (· != ']')
    if (isNumber? item).isNone then some .tooManyDigits
    else if item.isEmpty then some .emptyPart
    else some .noItems
  | _ :: rest =>
    let part := rest.takeWhile fun c => c != '.' && c != '['
    if part.isEmpty then some .emptyPart else some (.noAttribute (.ofList part))

/-- What is wrong with the name of a place. -/
def nameFlaw? (name : List Char) : Option PathFlaw :=
  let first := name.takeWhile fun c => c != '.' && c != '['
  match isNumber? first with
  | none => some .tooManyDigits
  | some isNumber =>
    if isNumber || first.isEmpty then some .unnamed
    else if first != "time".toList then some (.unknownName (.ofList first))
    else accessFlaw? (name.drop first.length)

/-- What is wrong with a conversion: it has to show the time in its usual form. -/
def conversionFlaw? : Option Char → Option PathFlaw
  | none => none
  | some c => if c == 'r' || c == 's' || c == 'a' then none else some (.unknownConversion c)

/-- The pattern of the time in a path for which none is given. -/
def usual : List Char := "%Y-%m-%d_%H-%M-%S_%f".toList

/-- What is written in a place, where `fill` fills in the places of its pattern. -/
def Place.filled (fill : List Char → Except PathFlaw (List Char)) (t : Stamp) (p : Place) :
    Except PathFlaw (List Char) :=
  match (nameFlaw? p.name).or (conversionFlaw? p.conversion) with
  | some flaw => .error flaw
  | none =>
    match if p.pattern.contains '\x7b' then fill p.pattern else .ok p.pattern with
    | .error flaw => .error flaw
    | .ok pattern =>
      if pattern.isEmpty || p.conversion.isSome then TimePattern.text? usual t
      else TimePattern.text? pattern t

/-- The parts one after the other, each place filled in. -/
def filledParts (place : Place → Except PathFlaw (List Char)) :
    List Part → Except PathFlaw (List Char)
  | [] => .ok []
  | .character c :: rest => (filledParts place rest).map (c :: ·)
  | .place p :: rest =>
    match place p with
    | .error flaw => .error flaw
    | .ok text => (filledParts place rest).map (text ++ ·)

/-- A text with its places filled in, and the places in their patterns, so deep at most. -/
def filledWithin : (depth : Nat) → Stamp → List Char → Except PathFlaw (List Char)
  | 0, _, _ => .error .tooNested
  | depth + 1, t, cs =>
    let (parts, flaw) := read cs
    match filledParts (Place.filled (filledWithin depth t) t) parts, flaw with
    | .error flaw, _ => .error flaw
    | .ok _, some flaw => .error flaw
    | .ok text, none => .ok text

/-- A path with its places filled in. -/
def filled (t : Stamp) (path : List Char) : Except PathFlaw (List Char) :=
  filledWithin 2 t path

end SignedLink.Logging.PathPattern
