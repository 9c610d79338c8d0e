/-!
# SignedLink — powers

Powers with a whole exponent are those of the core library, whatever further
instances are in scope, so that a definition means the same wherever it is
read.
-/

namespace SignedLink

/-- Powers by the core library's own definition, before any other instance. -/
instance (priority := high) wholePower {α : Type} [NatPow α] : Pow α Nat :=
  instPowNat

end SignedLink
