/-!
# SignedLink — the environment

The variables that a process is started with. A variable that is there counts,
even when it is empty.
-/

namespace SignedLink

/-- The variables of the environment, in order. -/
abbrev Environment := List (String × String)

namespace Environment

/-- The value of a variable, or another text when it is not there. -/
def getD (environment : Environment) (name absent : String) : String :=
  (environment.lookup name).getD absent

/-- Whether a variable switches something on: it is `1`, `true` or `yes` in whatever case. -/
def isOn (environment : Environment) (name : String) : Bool :=
  ["1", "true", "yes"].contains
    (String.ofList ((environment.getD name "0").toList.map Char.toLower))

end Environment

end SignedLink
