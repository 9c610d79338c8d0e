import SignedLink.Number.Binary64
/-!
# SignedLink — host values

The embedding host hands over options, lengths and identities as values of any
kind: a property bag maps names to such values, and a structured document is
one. `Value` is that type. A record keeps its fields in the order in which
they were first written.

* `Fields.find?_put_self`, `Fields.find?_put_of_ne`: what is found after a field was written.
* `Fields.put_append`: where a field is written.
* `Value.isTruthy`: which values count as set.
-/

namespace SignedLink

/-- A value from the host or from a structured document. -/
inductive Value where
  | null
  | boolean (b : Bool)
  | integer (n : Int)
  | real (x : Binary64)
  | text (s : String)
  | octets (bytes : List UInt8)
  /-- a file path that is not a text -/
  | path (p : String)
  | list (items : List Value)
  | record (fields : List (String × Value))

/-- Named values in the order in which the names first occurred. -/
abbrev Fields := List (String × Value)

namespace Fields

/-- The value under a name, if the name occurs. -/
def find? (fields : Fields) (name : String) : Option Value :=
  fields.lookup name

/-- The value under a name; a missing name stands for null. -/
def get (fields : Fields) (name : String) : Value :=
  (fields.find? name).getD .null

/-- Writes a field: in place when the name occurs, else at the end. -/
def put (fields : Fields) (name : String) (value : Value) : Fields :=
  match fields with
  | [] => [(name, value)]
  | (k, v) :: rest => if name == k then (k, value) :: rest else (k, v) :: put rest name value

theorem find?_put_self (fields : Fields) (name : String) (value : Value) :
    (fields.put name value).find? name = some value := by
  induction fields with
  | nil => simp [put, find?]
  | cons field rest ih =>
    obtain ⟨k, v⟩ := field
    unfold put
    by_cases h : name = k
    · simp [h, find?]
    · have hb : (name == k) = false := by simpa using h
      simp only [hb, find?, List.lookup_cons, Bool.false_eq_true, if_false]
      exact ih

theorem find?_put_of_ne (fields : Fields) {name other : String} (value : Value)
    (different : other ≠ name) : (fields.put name value).find? other = fields.find? other := by
  induction fields with
  | nil =>
    have : (other == name) = false := by simpa using different
    simp [put, find?, List.lookup_cons, this]
  | cons field rest ih =>
    obtain ⟨k, v⟩ := field
    unfold put
    by_cases h : name = k
    · have hb : (other == k) = false := by simpa [h] using h ▸ different
      simp [h, find?, List.lookup_cons, hb]
    · have hb : (name == k) = false := by simpa using h
      simp only [hb, find?, List.lookup_cons, Bool.false_eq_true, if_false]
      cases other == k
      · exact ih
      · rfl

theorem mem_put (fields : Fields) (name : String) (v : Value) : (name, v) ∈ fields.put name v := by
  induction fields with
  | nil => exact List.mem_singleton_self _
  | cons field rest ih =>
    unfold put
    split
    · next same =>
      rw [beq_iff_eq] at same
      subst same
      exact List.mem_cons_self
    · exact List.mem_cons_of_mem _ ih

/-- A field of another name is written behind. -/
theorem put_append {fields : Fields} {name : String} (new : name ∉ fields.map (·.1))
    (rest : Fields) (v : Value) : put (fields ++ rest) name v = fields ++ rest.put name v := by
  induction fields with
  | nil => rfl
  | cons field fields ih =>
    rw [List.map_cons, List.mem_cons, not_or] at new
    rw [List.cons_append, put, if_neg (by simpa using new.1), ih new.2, List.cons_append]

/-- Fields that are chosen by their names may be written before or after the choice. -/
theorem filter_put (keep : String → Bool) {name : String} (kept : keep name = true)
    (fields : Fields) (v : Value) : (fields.put name v).filter (fun field => keep field.1) =
      put (fields.filter fun field => keep field.1) name v := by
  induction fields with
  | nil => simp [put, kept]
  | cons field rest ih =>
    obtain ⟨k, w⟩ := field
    rw [put]
    by_cases same : name = k
    · subst same
      simp only [beq_self_eq_true, if_true, List.filter_cons, kept, put]
    · have other : ¬ (name == k) = true := by simpa using same
      rw [if_neg other]
      cases keeps : keep k with
      | false => simp only [List.filter_cons, keeps, Bool.false_eq_true, if_false, ih]
      | true => simp only [List.filter_cons, keeps, if_true, put, if_neg other, ih]

end Fields

namespace Value

/-- The name under which a kind of value appears in messages. -/
def typeName : Value → String
  | .null => "NoneType"
  | .boolean _ => "bool"
  | .integer _ => "int"
  | .real _ => "float"
  | .text _ => "str"
  | .octets _ => "bytes"
  | .path _ => "PathLike"
  | .list _ => "list"
  | .record _ => "dict"

/-- Null, false, zeros and empty values count as not set. -/
def isTruthy : Value → Bool
  | .null => false
  | .boolean b => b
  | .integer n => n != 0
  | .real x => !x.isZero
  | .text s => s != ""
  | .octets bytes => !bytes.isEmpty
  | .path _ => true
  | .list items => !items.isEmpty
  | .record fields => !fields.isEmpty

def isNull : Value → Bool
  | .null => true
  | _ => false

/-- The fields of a record. -/
def fields? : Value → Option Fields
  | .record fields => some fields
  | _ => none

/-- A text or null. -/
def ofText? : Option String → Value
  | some s => .text s
  | none => .null

/-- An integer or null. -/
def ofInt? : Option Int → Value
  | some n => .integer n
  | none => .null

end Value

end SignedLink
