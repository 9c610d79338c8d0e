import SignedLink.Calendar
import SignedLink.Json.Writer
import SignedLink.Value.Fault
/-!
# SignedLink — canned policies

What gets signed is a policy: one statement that allows one resource up to one
moment. Its text is compact ASCII JSON. The moment passes through the
calendar, which has the years 1 to 9999.

* `expiry_eq`: a time that is comes out as it went in.
-/

namespace SignedLink.Policy

/-- The earliest second of the calendar. -/
def earliest : Int := -62135596800

/-- The latest second of the calendar. -/
def latest : Int := 253402300799

/-- Whether the integer is a signed 64-bit word. -/
def fitsWord64 (n : Int) : Bool :=
  decide (-(2 ^ (63 : Nat)) ≤ n) && decide (n < 2 ^ (63 : Nat))

/-- Whether the integer is a signed 32-bit word. -/
def fitsWord32 (n : Int) : Bool :=
  decide (-(2 ^ (31 : Nat)) ≤ n) && decide (n < 2 ^ (31 : Nat))

/-- The integer as a signed 32-bit word. -/
def word32 (n : Int) : Int :=
  n.bmod (2 ^ (32 : Nat))

/-- The moment of an expiry time. The machine's calendar counts years from 1900 in 32 bits, and
the year of a refusal is shown in 32 bits. -/
def moment (expiresAt : Int) : Except Fault Moment :=
  if !fitsWord64 expiresAt then .error .timeOutOfRange
  else
    let m := Moment.ofSeconds expiresAt
    if !fitsWord32 (m.year - 1900) then .error .dateTooLarge
    else if 1 ≤ m.year ∧ m.year ≤ 9999 then .ok m
    else .error (.yearOutOfRange (word32 m.year))

/-- The expiry time after it has passed through the calendar. -/
def expiry (expiresAt : Int) : Except Fault Int :=
  (moment expiresAt).map Moment.toSeconds

/-- The policy that allows a resource up to a time. -/
def document (resource : String) (expiresAt : Int) : Value :=
  .record [("Statement", .list [.record [
    ("Resource", .text resource),
    ("Condition", .record [("DateLessThan", .record [("AWS:EpochTime", .integer expiresAt)])])]])]

/-- The text of the policy. -/
def text (resource : String) (expiresAt : Int) : List Char :=
  Json.Style.signed.write (document resource expiresAt)

/-- The text of the policy for an expiry time. -/
def canned (resource : String) (expiresAt : Int) : Except Fault String :=
  (expiry expiresAt).map fun t => .ofList (text resource t)

/-! ## Elementary facts -/

/-- A time that is in the calendar comes out as it went in. -/
theorem expiry_eq {expiresAt t : Int} (h : expiry expiresAt = .ok t) : t = expiresAt := by
  unfold expiry moment at h
  split at h
  · simp [Except.map] at h
  · dsimp only at h
    split at h
    · simp [Except.map] at h
    · split at h
      · simp only [Except.map, Except.ok.injEq, Moment.toSeconds_ofSeconds] at h
        exact h.symm
      · simp [Except.map] at h

end SignedLink.Policy
