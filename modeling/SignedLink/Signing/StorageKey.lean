import SignedLink.Value.Fault
/-!
# SignedLink — storage keys

A binary is stored under a key made from its content identity: the first four
characters, a hyphen, and the rest. Shorter identities have no key.

* `insertHyphen_injective`: different identities have different keys.
* `ofText?_eq_none_iff`: exactly the identities below four characters have none.
-/

namespace SignedLink

/-- Why an identity has no storage key. -/
inductive IdentityError where
  /-- absent, or shorter than four characters -/
  | tooShort
  /-- no text at all -/
  | fault (f : Fault)
deriving DecidableEq

/-- The message of an error. -/
def IdentityError.message : IdentityError → String
  | .tooShort => "Content identity must be at least 4 characters"
  | .fault f => f.message

namespace StorageKey

/-- The number of characters before the hyphen. -/
def headLength : Nat := 4

/-- The characters with a hyphen after the head. -/
def insertHyphen (cs : List Char) : List Char :=
  cs.take headLength ++ '-' :: cs.drop headLength

/-- The storage key of an identity. -/
def ofText? (identity : String) : Option String :=
  if identity.toList.length < headLength then none
  else some (.ofList (insertHyphen identity.toList))

/-- The storage key of whatever a blob gives as its identity. -/
def ofValue : Value → Except IdentityError String
  | .null => .error .tooShort
  | .text s =>
    match ofText? s with
    | some key => .ok key
    | none => .error .tooShort
  | .octets bytes =>
    .error (if bytes.length < headLength then .tooShort else .fault .unjoinableOctets)
  | .list items =>
    .error (if items.length < headLength then .tooShort else .fault .unjoinableList)
  | .record fields =>
    .error (if fields.length < headLength then .tooShort else .fault .uncuttable)
  | v => .error (.fault (.noLength v.typeName))

/-! ## Elementary facts -/

/-- Exactly the identities below four characters have no key. -/
theorem ofText?_eq_none_iff {identity : String} :
    ofText? identity = none ↔ identity.toList.length < 4 := by
  unfold ofText? headLength
  split <;> simp_all

/-- The hyphen stands at a fixed place, so identities with a key can be read off it. -/
theorem insertHyphen_injective {a b : List Char} (ha : headLength ≤ a.length)
    (hb : headLength ≤ b.length) (h : insertHyphen a = insertHyphen b) : a = b := by
  have lengths : (a.take headLength).length = (b.take headLength).length := by
    simp [List.length_take, ha, hb]
  obtain ⟨heads, tails⟩ := List.append_inj h lengths
  rw [← List.take_append_drop headLength a, ← List.take_append_drop headLength b, heads,
    (List.cons.inj tails).2]

/-- Different identities have different keys. -/
theorem ofText?_injective {a b key : String} (ha : ofText? a = some key)
    (hb : ofText? b = some key) : a = b := by
  unfold ofText? at ha hb
  split at ha
  · simp at ha
  · split at hb
    · simp at hb
    · have keys := Option.some.inj (ha.trans hb.symm)
      have lists := congrArg String.toList keys
      simp only [String.toList_ofList] at lists
      have equal := insertHyphen_injective (by omega) (by omega) lists
      rw [← String.ofList_toList (s := a), ← String.ofList_toList (s := b), equal]

end StorageKey

end SignedLink
