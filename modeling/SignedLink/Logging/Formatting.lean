import SignedLink.Logging.PathPattern
import SignedLink.Value.Written
/-!
# SignedLink — formatting log lines

A sink gets its line in two steps. The form gives a template and may bind
further fields to the entry; then the places of the template are filled in from
the entry as it is now. What is filled in is not looked at again, so braces and
markup in it stand for themselves.

The JSON form binds the whole line and asks for it in its template. It cannot
be had when a field holds an integer that cannot be written; then nothing is
bound.

* `fill?_jsonTemplate`: the template of the JSON form is filled in with the line that was bound.
* `formatted_succ`: every formatting starts from what the one before has left.
-/

namespace SignedLink.Logging.Entry

/-! ## Templates -/

/-- The item in square brackets behind the word for the bound fields. -/
def itemOf? (name : List Char) : Option (List Char) :=
  let word := "extra[".toList
  let item := (name.drop word.length).dropLast
  if word.isPrefixOf name && name.getLast? == some ']' && !item.contains ']' then some item
  else none

/-- What stands in a place of a template: the message, or a bound field. Conversions and patterns
are not asked for by any form. -/
def placed? (e : Entry) (place : PathPattern.Place) : Option (List Char) :=
  if place.conversion.isSome || !place.pattern.isEmpty then none
  else if place.name == "message".toList then some e.message.toList
  else
    match itemOf? place.name with
    | some item => (e.extra.find? (.ofList item)).map (·.plain.toList)
    | none => none

def part? (e : Entry) : PathPattern.Part → Option (List Char)
  | .character c => some [c]
  | .place place => e.placed? place

/-- A template with its places filled in. -/
def fill? (e : Entry) (template : String) : Option String :=
  match PathPattern.read template.toList with
  | (parts, none) => (parts.mapM e.part?).map fun texts => .ofList texts.flatten
  | (_, some _) => none

/-! ## The JSON form -/

/-- The template of the JSON form, and the entry with the line bound to it. -/
def formatJson (e : Entry) : Except Fault (String × Entry) :=
  if (Value.record e.payload).isWritable then .ok (jsonTemplate, e.afterJson)
  else .error .longInteger

/-- What is written of the entry in the JSON form. -/
def writeJson (e : Entry) : Except Fault (Option String) :=
  match e.formatJson with
  | .ok (template, after) => .ok (after.fill? template)
  | .error f => .error f

/-- The entry after so many formattings; one that fails changes nothing. -/
def formatted (e : Entry) : Nat → Entry
  | 0 => e
  | n + 1 =>
    match (e.formatted n).formatJson with
    | .ok (_, after) => after
    | .error _ => e.formatted n

/-! ## Elementary facts -/

/-- The template of the JSON form is filled in with the line that was bound. -/
theorem fill?_jsonTemplate (e : Entry) : e.afterJson.fill? jsonTemplate = some e.jsonLine := by
  have parts : PathPattern.read jsonTemplate.toList =
      ([.place ⟨"extra[_json]".toList, none, []⟩, .character '\n'], none) := by
    decide +kernel
  have item : itemOf? "extra[_json]".toList = some lineField.toList := by decide +kernel
  have placed : e.afterJson.placed? ⟨"extra[_json]".toList, none, []⟩ = some e.json.toList := by
    rw [placed?, if_neg (by decide), if_neg (by decide)]
    simp only [item, String.ofList_toList, extra_afterJson]
    rfl
  have texts : [.place ⟨"extra[_json]".toList, none, []⟩, .character '\n'].mapM e.afterJson.part? =
      some [e.json.toList, ['\n']] := by
    rw [List.mapM_cons, part?, placed]
    rfl
  simp only [fill?, parts, texts, Option.map_some, Option.some.injEq]
  rw [← String.toList_inj]
  simp [jsonLine]

theorem writeJson_of_isWritable {e : Entry}
    (writable : (Value.record e.payload).isWritable = true) :
    e.writeJson = .ok (some e.jsonLine) := by
  rw [writeJson, formatJson, if_pos writable]
  exact congrArg _ e.fill?_jsonTemplate

theorem writeJson_of_not_isWritable {e : Entry}
    (unwritable : (Value.record e.payload).isWritable = false) :
    e.writeJson = .error .longInteger := by
  rw [writeJson, formatJson, unwritable, if_neg (by decide)]

/-- Every formatting starts from what the one before has left. -/
theorem formatted_succ (e : Entry) (n : Nat) : e.formatted (n + 1) =
    if (Value.record (e.formatted n).payload).isWritable then (e.formatted n).afterJson
    else e.formatted n := by
  rw [formatted, formatJson]
  cases (Value.record (e.formatted n).payload).isWritable <;> rfl

end SignedLink.Logging.Entry
