import SignedLink.Text.Percent
/-!
# SignedLink — request targets

A target is a path, and after the first `?` a query. The path is percent
decoded as a whole, so an encoded slash separates like a plain one. A query is
a list of names with values, in which `+` stands for a space; of values under
one name the last counts.
-/

namespace SignedLink.Http

/-- A target taken apart. -/
structure Target where
  /-- the path, decoded -/
  path : List Char
  /-- the query as it was received -/
  query : List Char
deriving DecidableEq

namespace Target

/-- The parts before and after the first `?`. -/
def split (cs : List Char) : List Char × List Char :=
  (cs.takeWhile (· != '?'), (cs.dropWhile (· != '?')).drop 1)

def ofString (s : String) : Target :=
  ⟨Text.Percent.decode (split s.toList).1, (split s.toList).2⟩

/-- The octets of a query, each taken as one character. -/
def octetChars (cs : List Char) : List Char :=
  (Text.Utf8.encode cs).map fun b => Char.ofNat b.toNat

/-- One name or value of a query. -/
def decodeComponent (cs : List Char) : String :=
  .ofList (Text.Percent.decode (cs.map fun c => if c == '+' then ' ' else c))

/-- One pair of a query; without `=` the value is empty. -/
def pair (cs : List Char) : String × String :=
  (decodeComponent (cs.takeWhile (· != '=')), decodeComponent ((cs.dropWhile (· != '=')).drop 1))

/-- The pairs of a query; empty ones are left out. -/
def parameters (target : Target) : List (String × String) :=
  (((octetChars target.query).splitOn '&').filter fun p => !p.isEmpty).map pair

/-- The last value under a name. -/
def parameter? (target : Target) (name : String) : Option String :=
  target.parameters.reverse.lookup name

end Target

end SignedLink.Http
