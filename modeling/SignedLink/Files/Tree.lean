import SignedLink.Files.Basic
/-!
# SignedLink — a tree of files

A working directory as the list of what it holds. A path is looked up by
walking through its names from the working directory: empty names and `.` stay
where they are, `..` goes up, and every other name is looked for in the
directory reached so far. Nothing is known above the working directory but
that there are directories.
-/

namespace SignedLink

/-- What stands at a place of the tree. -/
inductive FileTree.Entry where
  | file (octets : List UInt8)
  | directory

/-- A working directory: the places in it, as names from the directory down, and what stands
there. -/
structure FileTree where
  entries : List (List (List Char) × FileTree.Entry)

namespace FileTree

/-- The most octets of a name. -/
def nameLimit : Nat := 255

/-- The least number of octets of a path that is too long. -/
def pathLimit : Nat := 4096

/-- The names of a path, empty ones included. -/
def names (path : String) : List (List Char) :=
  path.toList.splitOn '/'

/-- The tree of paths and what stands there. -/
def ofList (entries : List (String × Entry)) : FileTree :=
  ⟨entries.map fun (path, entry) =>
    ((names path).filter (fun n => !n.isEmpty && n != ['.']), entry)⟩

/-- Where a walk has come to. -/
inductive Place where
  /-- a directory above the working directory, or the root -/
  | outside
  /-- the names from the working directory down -/
  | inside (names : List (List Char))

/-- What stands at a place inside; the directories on the way to an entry are there too. -/
def entryAt? (tree : FileTree) (spot : List (List Char)) : Option Entry :=
  if spot.isEmpty then some .directory
  else
    match tree.entries.lookup spot with
    | some entry => some entry
    | none => if tree.entries.any (fun e => spot.isPrefixOf e.1) then some .directory else none

/-- Whether a place is a directory, and what is wrong if not. -/
def requireDirectory (tree : FileTree) : Place → Except FileError Unit
  | .outside => .ok ()
  | .inside spot =>
    match tree.entryAt? spot with
    | some .directory => .ok ()
    | some (.file _) => .error .notDirectory
    | none => .error .missing

/-- One name further. -/
def step (tree : FileTree) (place : Place) (name : List Char) : Except FileError Place :=
  match tree.requireDirectory place with
  | .error e => .error e
  | .ok () =>
    if name.isEmpty || name == ['.'] then .ok place
    else if name == ['.', '.'] then
      match place with
      | .outside => .ok .outside
      | .inside spot => .ok (if spot.isEmpty then .outside else .inside spot.dropLast)
    else if nameLimit < (Text.Utf8.encode name).length then .error .nameTooLong
    else
      match place with
      | .outside => .error .missing
      | .inside spot =>
        match tree.entryAt? (spot ++ [name]) with
        | some _ => .ok (.inside (spot ++ [name]))
        | none => .error .missing

/-- The walk through names. -/
def walk (tree : FileTree) : Place → List (List Char) → Except FileError Place
  | place, [] => .ok place
  | place, name :: rest =>
    match tree.step place name with
    | .error e => .error e
    | .ok next => tree.walk next rest

/-- The place that a path leads to. -/
def place (tree : FileTree) (path : String) : Except FileError Place :=
  if path.isEmpty then .error .missing
  else if pathLimit ≤ (Text.Utf8.encode path.toList).length then .error .nameTooLong
  else tree.walk (if path.toList.head? == some '/' then .outside else .inside []) (names path)

/-- The octets at a path. -/
def contents (tree : FileTree) (path : String) : Except FileError (List UInt8) :=
  match tree.place path with
  | .error e => .error e
  | .ok .outside => .error .isDirectory
  | .ok (.inside spot) =>
    match tree.entryAt? spot with
    | some (.file octets) => .ok octets
    | some .directory => .error .isDirectory
    | none => .error .missing

/-- The name by which an entry stands in a directory, if it is in it or further down. -/
def nameBelow? (spot entry : List (List Char)) : Option String :=
  if spot.isPrefixOf entry then (entry.drop spot.length).head?.map String.ofList else none

/-- The names in the directory at a path. -/
def listing (tree : FileTree) (path : String) : List String :=
  match tree.place path with
  | .ok (.inside spot) => (tree.entries.filterMap fun e => nameBelow? spot e.1).eraseDups
  | _ => []

/-- The file system that a tree is. -/
def toFileSystem (tree : FileTree) : FileSystem :=
  ⟨tree.contents, tree.listing⟩

end FileTree

end SignedLink
