/-!
# SignedLink — paths

A path is the names along it, from a root or from the working directory on.
Empty names and `.` mean the place that has been reached already, so they can
be left out; `..` cannot, since it depends on what stands there.
-/

namespace SignedLink.Path

/-- The root that a path is named from, if it is: one slash, or the two of a path that begins with
exactly two. -/
def root (cs : List Char) : List Char :=
  match (cs.takeWhile (· == '/')).length with
  | 0 => []
  | 2 => ['/', '/']
  | _ => ['/']

/-- Whether a name means the place that has been reached already. -/
def isIdle (name : List Char) : Bool :=
  name.isEmpty || name == ['.']

/-- The names along a path that lead to another place. -/
def names (cs : List Char) : List (List Char) :=
  (cs.splitOn '/').filter fun name => !isIdle name

/-- The path of names from a root on. -/
def ofNames (root : List Char) (names : List (List Char)) : List Char :=
  root ++ (names.intersperse ['/']).flatten

/-- A path with nothing in it that can be left out. -/
def tidy (path : String) : String :=
  let cs := path.toList
  if (root cs).isEmpty && (names cs).isEmpty then "." else .ofList (ofNames (root cs) (names cs))

end SignedLink.Path
