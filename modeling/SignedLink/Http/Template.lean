import SignedLink.Text.Digit
import SignedLink.Text.Hex
/-!
# SignedLink — path templates

A template is a path in which braces hold names. Each name stands for a piece
of a path, of a kind that may follow it after a colon: a segment, anything, a
whole or a decimal number, or a universal identifier. Braces that hold no name
stand for themselves. Pieces are taken as long as the rest of the template
allows it, and a line feed at the very end of a path is of no account.
-/

namespace SignedLink.Http

/-- What a name in a template stands for. -/
inductive PieceKind where
  /-- characters up to the next slash -/
  | segment
  /-- characters up to the end of the line -/
  | line
  | whole
  | decimal
  | universal
deriving DecidableEq

namespace PieceKind

/-- The names of the kinds. -/
def words : List (List Char × PieceKind) :=
  [("str".toList, .segment), ("path".toList, .line), ("int".toList, .whole),
    ("float".toList, .decimal), ("uuid".toList, .universal)]

/-- The lengths from the greatest to the least. -/
def down (least greatest : Nat) : List Nat :=
  (List.range (greatest + 1 - least)).reverse.map (· + least)

/-- How many characters a row of groups of hexadecimal digits takes, with a hyphen between groups
or none. -/
def groupsLength? : List Nat → List Char → Option Nat
  | [], _ => some 0
  | size :: sizes, cs =>
    let digits := cs.take size
    if digits.length == size && digits.all (fun c => (Text.hexValue? c).isSome) then
      let rest := cs.drop size
      let hyphen := if !sizes.isEmpty && rest.head? == some '-' then 1 else 0
      (groupsLength? sizes (rest.drop hyphen)).map (size + hyphen + ·)
    else none

/-- The lengths of the pieces of a kind at the front of a text, from the greatest to the least. -/
def lengths (kind : PieceKind) (cs : List Char) : List Nat :=
  match kind with
  | .segment => down 1 (cs.takeWhile (· != '/')).length
  | .line => down 0 (cs.takeWhile (· != '\n')).length
  | .whole => down 1 (cs.takeWhile Text.isAsciiDigit).length
  | .decimal =>
    let digits := (cs.takeWhile Text.isAsciiDigit).length
    let places :=
      match cs.drop digits with
      | '.' :: rest => (rest.takeWhile Text.isAsciiDigit).length
      | _ => 0
    if digits == 0 then [] else down (digits + 2) (digits + 1 + places) ++ down 1 digits
  | .universal => (groupsLength? [8, 4, 4, 4, 12] cs).toList

end PieceKind

/-- A part of a template. -/
inductive Piece where
  | literal (c : Char)
  | named (name : List Char) (kind : PieceKind)
deriving DecidableEq

/-- A path with names in it. -/
abbrev Template := List Piece

/-- The pieces of a path that the names of a template stand for. -/
abbrev Bindings := List (List Char × List Char)

namespace Template

/-- A template without names. -/
def literal (cs : List Char) : Template :=
  cs.map .literal

/-! ## Reading -/

/-- Why a path is no template. -/
inductive Flaw where
  | unknownKind (word : List Char)
  /-- names that occur more than once -/
  | repeated (names : List (List Char)) (path : List Char)
deriving DecidableEq

/-- The message of a flaw. -/
def Flaw.message : Flaw → String
  | .unknownKind word => "Unknown path convertor '" ++ String.ofList word ++ "'"
  | .repeated names path =>
    "Duplicated param name" ++ (if 1 < names.length then "s " else " ") ++
      ", ".intercalate (names.map String.ofList) ++ " at path " ++ String.ofList path

/-- A word of letters, digits and underscores that begins with no digit, and the rest. -/
def word? (cs : List Char) : Option (List Char × List Char) :=
  let word := cs.takeWhile fun c => c.isAlphanum || c == '_'
  match word with
  | [] => none
  | c :: _ => if Text.isAsciiDigit c then none else some (word, cs.drop word.length)

/-- What braces hold after the first of them: a name, the word for its kind if there is one, and
the rest after the second brace. -/
def braces? (cs : List Char) : Option (List Char × Option (List Char) × List Char) :=
  match word? cs with
  | none => none
  | some (name, '\x7d' :: rest) => some (name, none, rest)
  | some (name, ':' :: more) =>
    match word? more with
    | some (kind, '\x7d' :: rest) => some (name, some kind, rest)
    | _ => none
  | _ => none

/-- The pieces of a path. -/
def piecesFrom : (allowance : Nat) → List Char → Except Flaw Template
  | 0, _ | _, [] => .ok []
  | allowance + 1, c :: rest =>
    match if c == '\x7b' then braces? rest else none with
    | none => (piecesFrom allowance rest).map (.literal c :: ·)
    | some (name, word, rest) =>
      match PieceKind.words.lookup (word.getD "str".toList) with
      | none => .error (.unknownKind (word.getD []))
      | some kind => (piecesFrom allowance rest).map (.named name kind :: ·)

/-- The names of a template. -/
def names (template : Template) : List (List Char) :=
  template.filterMap fun piece =>
    match piece with
    | .literal _ => none
    | .named name _ => some name

/-- The names that occur more than once, in their order. -/
def repeated (names : List (List Char)) : List (List Char) :=
  (names.eraseDups.filter fun name => 1 < names.count name).mergeSort fun a b => !decide (b < a)

/-- The template that a path is. -/
def ofPath (path : List Char) : Except Flaw Template :=
  match piecesFrom path.length path with
  | .error flaw => .error flaw
  | .ok template =>
    match repeated template.names with
    | [] => .ok template
    | several => .error (.repeated several path)

/-! ## Showing and matching -/

/-- The template with the names alone in the braces. -/
def shown (template : Template) : List Char :=
  template.flatMap fun piece =>
    match piece with
    | .literal c => [c]
    | .named name _ => '\x7b' :: (name ++ ['\x7d'])

/-- What stands in braces in a text, each on one line. -/
def inBraces : (allowance : Nat) → List Char → List (List Char)
  | 0, _ | _, [] => []
  | allowance + 1, c :: rest =>
    let name := rest.takeWhile fun d => d != '\x7d' && d != '\n'
    match if c == '\x7b' then rest.drop name.length else [] with
    | '\x7d' :: more => name :: inBraces allowance more
    | _ => inBraces allowance rest

/-- The names that the shown form of the template appears to have. A brace that stands for itself
can hide one of them. -/
def shownNames (template : Template) : List (List Char) :=
  inBraces template.shown.length template.shown

/-- The pieces of a path that the names stand for, if the path is one of the template. -/
def match? : Template → List Char → Option Bindings
  | [], cs => if cs.isEmpty || cs == ['\n'] then some [] else none
  | .literal c :: rest, cs =>
    match cs with
    | d :: more => if c == d then match? rest more else none
    | [] => none
  | .named name kind :: rest, cs =>
    (kind.lengths cs).findSome? fun n =>
      (match? rest (cs.drop n)).map ((name, cs.take n) :: ·)

end Template

end SignedLink.Http
