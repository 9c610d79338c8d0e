import Mathlib.Order.Monotone.Basic
import SignedLink.Logging.Routing
import SignedLink.Proofs.Json.Writable
import SignedLink.Proofs.Logging.Lines
/-!
# SignedLink — entries that are written again

A JSON line is kept with the entry it was made from, as a bound field, and bound
fields are written. So an entry that is written a second time is written with
its first line inside, and so on: every line is longer than the one before it.
This is what happens when there are several sinks of the JSON form, as all of
them get the same entry.

* `payload_afterJson`: what is written the next time.
* `broadcast_json`: the sinks get one formatting after the other.
* `formattings_differ`: no two lines of an entry are the same.
-/

namespace SignedLink

/-! ## The length of what is written -/

namespace Json

theorem length_lt_string (asciiOnly : Bool) (cs : List Char) :
    cs.length < (string asciiOnly cs).length := by
  have each (c : Char) : 1 ≤ (escape asciiOnly c).length := by
    unfold escape scalarEscape unitEscape
    repeat' split
    all_goals simp
  have whole : cs.length ≤ (cs.flatMap (escape asciiOnly)).length := by
    induction cs with
    | nil => simp
    | cons c cs ih =>
      have := each c
      rw [List.flatMap_cons, List.length_append, List.length_cons]
      omega
  rw [string, List.length_cons, List.length_append]
  omega

theorem length_write_le (style : Style) {fields : Fields} {name : String} {v : Value}
    (mem : (name, v) ∈ fields) : (style.write v).length ≤ (style.writeFields fields).length := by
  induction fields with
  | nil => cases mem
  | cons field rest ih =>
    obtain ⟨k, w⟩ := field
    simp only [Style.writeFields, List.length_append]
    rcases List.mem_cons.mp mem with same | later
    · cases same
      omega
    · have := ih later
      omega

end Json

namespace Logging.Entry

/-- What is written the next time: the same fields, with the line before among them. -/
theorem payload_afterJson (e : Entry) :
    e.afterJson.payload = e.payload.put lineField (.text e.json) := by
  have bound : lineField ∉ e.ownFields.map (·.1) := by
    rw [names_ownFields]
    decide
  have kept : (!ownNames.contains lineField) = true := by decide
  rw [payload, payload, Fields.put_append bound,
    ← Fields.filter_put (fun name => !ownNames.contains name) kept]
  rfl

/-- A line holds the whole line before. -/
theorem length_json_lt (e : Entry) : e.json.length < e.afterJson.json.length := by
  have inner := Json.length_write_le .logged (Fields.mem_put e.payload lineField (.text e.json))
  have outer := Json.length_lt_string Json.Style.logged.asciiOnly e.json.toList
  rw [Json.Style.write] at inner
  have whole : e.afterJson.json.toList =
      '\x7b' :: (Json.Style.logged.writeFields (e.payload.put lineField (.text e.json)) ++
        ['\x7d']) := by
    rw [json, Json.Style.text, String.toList_ofList, Json.Style.write, payload_afterJson]
  rw [← String.length_toList, ← String.length_toList, whole, List.length_cons, List.length_append]
  omega

/-! ## One formatting after the other -/

variable {e : Entry}

theorem haveWritable_put {fields : Fields} {v : Value} (name : String)
    (before : Value.haveWritable fields = true) (writable : v.isWritable = true) :
    Value.haveWritable (fields.put name v) = true := by
  induction fields with
  | nil => simp [Fields.put, Value.haveWritable, writable]
  | cons field rest ih =>
    simp only [Value.haveWritable, Bool.and_eq_true] at before
    rw [Fields.put]
    split
    · simp [Value.haveWritable, writable, before.2]
    · simp [Value.haveWritable, before.1, ih before.2]

theorem isWritable_afterJson (writable : (Value.record e.payload).isWritable = true) :
    (Value.record e.afterJson.payload).isWritable = true := by
  rw [payload_afterJson]
  exact haveWritable_put lineField writable rfl

theorem isWritable_formatted (writable : (Value.record e.payload).isWritable = true) (n : Nat) :
    (Value.record (e.formatted n).payload).isWritable = true := by
  induction n with
  | zero => exact writable
  | succ n ih =>
    rw [formatted_succ, if_pos ih]
    exact isWritable_afterJson ih

theorem formatted_succ_of_isWritable (writable : (Value.record e.payload).isWritable = true)
    (n : Nat) : e.formatted (n + 1) = (e.formatted n).afterJson := by
  rw [formatted_succ, if_pos (isWritable_formatted writable n)]

theorem formatted_of_not_isWritable (unwritable : (Value.record e.payload).isWritable = false)
    (n : Nat) : e.formatted n = e := by
  induction n with
  | zero => rfl
  | succ n ih => rw [formatted_succ, ih, unwritable, if_neg (by decide)]

/-- No two formattings of an entry give the same line. -/
theorem jsonLine_formatted_inj (writable : (Value.record e.payload).isWritable = true) {n m : Nat} :
    (e.formatted n).jsonLine = (e.formatted m).jsonLine ↔ n = m := by
  have increasing : StrictMono fun n => (e.formatted n).json.length := by
    refine strictMono_nat_of_lt_succ fun n => ?_
    rw [formatted_succ_of_isWritable writable]
    exact length_json_lt _
  constructor
  · intro same
    have := congrArg String.length same
    simp only [jsonLine, String.length_append] at this
    exact increasing.injective (Nat.add_right_cancel this)
  · rintro rfl
    rfl

/-- Sinks of the JSON form get the entry as it is after the sinks before them. -/
theorem broadcast_json (level : Level) {sinks : List Sink}
    (each : ∀ sink ∈ sinks, sink.form = .json ∧ sink.isOpen = true ∧
      sink.level.number ≤ level.number)
    (writable : (Value.record e.payload).isWritable = true) :
    (broadcast level sinks e).map (·.entry) = (List.range sinks.length).map e.formatted := by
  suffices ∀ n, (broadcast level sinks (e.formatted n)).map (·.entry) =
      (List.range' n sinks.length).map e.formatted by
    rw [List.range_eq_range', ← this 0]
    rfl
  induction sinks with
  | nil => intro n; rfl
  | cons sink sinks ih =>
    intro n
    obtain ⟨form, opened, admitted⟩ := each sink List.mem_cons_self
    have later := ih (fun other mem => each other (List.mem_cons_of_mem sink mem)) (n + 1)
    have after : sink.after (e.formatted n) = e.formatted (n + 1) := by
      rw [Sink.after, form, formatted_succ_of_isWritable writable]
    rw [broadcast, if_pos admitted, if_pos opened, after, List.length_cons, List.range'_succ,
      List.map_append, later]
    rfl

/-- What an entry is written as, time after time. The first line has the entry's own fields and the
bound ones. Every later line has the one before it as a field, so no two of them are the same, and
of several sinks of the JSON form every one gets a different line. An entry that cannot be written
stays as it is. -/
theorem formattings_differ (e : Entry) :
    (e.IsShort →
      (e.formatted 0).payload = e.ownFields ++ e.extra.filter (fun field => field.1 ∉ ownNames) ∧
      (∀ n, (e.formatted (n + 1)).payload =
        (e.formatted n).payload.put lineField (.text (e.formatted n).json)) ∧
      (∀ n, (e.formatted n).writeJson = .ok (some (e.formatted n).jsonLine)) ∧
      (∀ n m, (e.formatted n).jsonLine = (e.formatted m).jsonLine ↔ n = m) ∧
      ∀ (level : Level) (sinks : List Sink), (∀ sink ∈ sinks, sink.form = .json ∧
          sink.isOpen = true ∧ sink.level.number ≤ level.number) →
        (broadcast level sinks e).map (·.entry) = (List.range sinks.length).map e.formatted) ∧
    (¬ e.IsShort →
      ∀ n, e.formatted n = e ∧ (e.formatted n).writeJson = .error .longInteger) := by
  constructor
  · intro short
    have writable := isWritable_payload.mpr short
    refine ⟨?_, fun n => ?_, fun n => ?_, fun n m => jsonLine_formatted_inj writable,
      fun level sinks each => broadcast_json level each writable⟩
    · simp [formatted, payload]
    · rw [formatted_succ_of_isWritable writable, payload_afterJson]
    · exact writeJson_of_isWritable (isWritable_formatted writable n)
  · intro long n
    have unwritable := Bool.eq_false_iff.mpr (mt isWritable_payload.mp long)
    rw [formatted_of_not_isWritable unwritable n]
    exact ⟨rfl, writeJson_of_not_isWritable unwritable⟩

/-! ### A plain entry -/

/-- A message with nothing bound to it. -/
def plain : Entry :=
  ⟨⟨⟨0, 0, 0⟩, some "service", "run", 1⟩, "WARNING", "ready", []⟩

/-- The console and a file get different lines. -/
theorem formattings_differ_plain :
    let sinks : List Sink := [⟨.console, .info, .json, true⟩, ⟨.file "app.log", .info, .json, true⟩]
    let long : Entry :=
      { plain with origin := { plain.origin with line := (10 ^ Fault.numeralLimit : Nat) } }
    (broadcast .warning sinks plain).map (·.entry) = [plain, plain.formatted 1] ∧
      plain.writeJson ≠ (plain.formatted 1).writeJson ∧
      long.writeJson = .error .longInteger := by
  intro sinks long
  have short : plain.IsShort := isWritable_payload.mp (by decide +kernel)
  have tooLong : ¬ long.IsShort := not_isShort_of_line (Int.natAbs_natCast _).ge
  obtain ⟨-, -, written, differ, broadcast⟩ := (formattings_differ plain).1 short
  refine ⟨broadcast .warning sinks (by decide), ?_, ((formattings_differ long).2 tooLong 0).2⟩
  rw [written 1, show plain.writeJson = _ from written 0]
  intro same
  cases (differ 0 1).mp (Option.some.inj (Except.ok.inj same))

/-- The second line of a message to which nothing is bound has a field more than the first. -/
theorem names_formatted_plain :
    (plain.formatted 0).payload.map (·.1) = ownNames ∧
      (plain.formatted 1).payload.map (·.1) = ownNames ++ ["_json"] ∧
      (plain.formatted 0).jsonLine ≠ (plain.formatted 1).jsonLine := by
  have writable : (Value.record plain.payload).isWritable = true := by decide +kernel
  refine ⟨by decide +kernel, by decide +kernel, ?_⟩
  rw [Ne, jsonLine_formatted_inj writable]
  decide

end Logging.Entry

end SignedLink
