import SignedLink.Logging.Formatting
import SignedLink.Proofs.Json.Characters
import SignedLink.Proofs.Json.RoundTrip
/-!
# SignedLink — a line of JSON says what the entry says

An entry is written as one line, and whoever reads the line gets the entry
back: its own fields as they are, and every bound field of another name with
the value that was bound. What a message holds does not matter. Quotes,
backslashes and control characters are escaped, and braces and markup are put
in last and not looked at again.

Only integers can get in the way, as they are neither written nor read with
more digits than a numeral may have. The time is told with a year of as many
digits as it has, which are not always four.

* `Value.IsPlain`: the values that JSON has a form for.
* `IsShort`: the entries that can be written.
* `writeJson_faithful`: an entry is written as a line that is read back as its fields.
-/

namespace SignedLink

/-- Values that JSON has a form for: no record in them has a name twice. -/
inductive Value.IsPlain : Value → Prop
  | null : IsPlain .null
  | boolean (b : Bool) : IsPlain (.boolean b)
  | integer (n : Int) : IsPlain (.integer n)
  | text (s : String) : IsPlain (.text s)
  | list {items : List Value} (each : ∀ v ∈ items, IsPlain v) : IsPlain (.list items)
  | record {fields : Fields} (each : ∀ field ∈ fields, IsPlain field.2)
      (distinct : (fields.map (·.1)).Nodup) : IsPlain (.record fields)

theorem Json.separating_logged : Json.Style.logged.Separating :=
  have blank : ∀ c ∈ [' '], Json.isSpace c = true := List.forall_mem_singleton.mpr rfl
  ⟨⟨[' '], rfl, blank⟩, ⟨[' '], rfl, blank⟩⟩

/-! ## How deep a value is -/

/-- What holds of each from some depth on holds of all from some depth on. -/
theorem exists_common_depth {α : Type} {p : Nat → α → Prop} (items : List α)
    (each : ∀ x ∈ items, ∃ depth, ∀ deeper ≥ depth, p deeper x) :
    ∃ depth, ∀ deeper ≥ depth, ∀ x ∈ items, p deeper x := by
  induction items with
  | nil => exact ⟨0, fun _ _ x mem => absurd mem List.not_mem_nil⟩
  | cons x items ih =>
    obtain ⟨first, holds⟩ := each x List.mem_cons_self
    obtain ⟨later, all⟩ := ih fun y mem => each y (List.mem_cons_of_mem x mem)
    refine ⟨max first later, fun deeper enough => ?_⟩
    rw [List.forall_mem_cons]
    exact ⟨holds deeper (by omega), all deeper (by omega)⟩

namespace Value

theorem isWritable_of_mem {items : List Value} (whole : areWritable items = true) :
    ∀ v ∈ items, v.isWritable = true := by
  induction items with
  | nil => simp
  | cons v items ih =>
    rw [areWritable, Bool.and_eq_true] at whole
    exact List.forall_mem_cons.mpr ⟨whole.1, ih whole.2⟩

theorem haveWritable_iff {fields : Fields} :
    haveWritable fields = true ↔ ∀ field ∈ fields, field.2.isWritable = true := by
  induction fields with
  | nil => simp [haveWritable]
  | cons field fields ih =>
    rw [haveWritable, Bool.and_eq_true, ih, List.forall_mem_cons]

/-- A value that can be written can be read wherever there is room enough. -/
theorem IsPlain.exists_readable {v : Value} (plain : v.IsPlain) (writable : v.isWritable = true) :
    ∃ depth, ∀ deeper ≥ depth, Json.Readable deeper v := by
  induction plain with
  | null => exact ⟨0, fun _ _ => .null⟩
  | boolean b => exact ⟨0, fun _ _ => .boolean b⟩
  | integer n =>
    rw [isWritable, decide_eq_true_eq] at writable
    exact ⟨0, fun _ _ => .integer writable⟩
  | text s => exact ⟨0, fun _ _ => .text s⟩
  | @list items each ih =>
    obtain ⟨depth, all⟩ := exists_common_depth items fun v mem =>
      ih v mem (isWritable_of_mem writable v mem)
    refine ⟨depth + 1, fun deeper enough => ?_⟩
    obtain ⟨less, rfl⟩ : ∃ less, deeper = less + 1 := ⟨deeper - 1, by omega⟩
    exact .list (all less (by omega))
  | @record fields each distinct ih =>
    obtain ⟨depth, all⟩ := exists_common_depth fields fun field mem =>
      ih field mem (haveWritable_iff.mp writable field mem)
    refine ⟨depth + 1, fun deeper enough => ?_⟩
    obtain ⟨less, rfl⟩ : ∃ less, deeper = less + 1 := ⟨deeper - 1, by omega⟩
    exact .record (all less (by omega)) distinct

end Value

namespace Logging.Entry

variable {e : Entry}

/-! ## The fields of a line -/

theorem mem_payload {field : String × Value} :
    field ∈ e.payload ↔ field ∈ e.ownFields ∨ field ∈ e.extra ∧ field.1 ∉ ownNames := by
  simp [payload]

theorem nodup_payload (distinct : (e.extra.map (·.1)).Nodup) : (e.payload.map (·.1)).Nodup := by
  rw [payload, List.map_append, names_ownFields]
  refine List.nodup_append.mpr ⟨by decide, ?_, ?_⟩
  · exact distinct.sublist (List.filter_sublist.map _)
  · rintro name own other mem rfl
    obtain ⟨field, mem, rfl⟩ := List.mem_map.mp mem
    simp [own] at mem

/-- A bound field is written if the entry has no field of its own under the name. -/
theorem find?_payload_of_not_mem {name : String} (other : name ∉ ownNames) :
    e.payload.find? name = e.extra.find? name := by
  have own : e.ownFields.lookup name = none := by
    rw [List.lookup_eq_none_iff]
    intro field mem
    have named : field.1 ∈ ownNames := names_ownFields e ▸ List.mem_map_of_mem mem
    exact bne_iff_ne.mpr fun same => other (same ▸ named)
  -- the fields that are dropped all have other names
  have kept (fields : Fields) :
      (fields.filter fun field => !ownNames.contains field.1).lookup name = fields.lookup name := by
    induction fields with
    | nil => rfl
    | cons field fields ih =>
      obtain ⟨k, v⟩ := field
      rw [List.filter_cons, List.lookup_cons]
      by_cases same : name = k
      · subst same
        rw [if_pos (by simpa using other), List.lookup_cons, beq_self_eq_true]
      · rw [beq_eq_false_iff_ne.mpr same]
        split
        · rw [List.lookup_cons, beq_eq_false_iff_ne.mpr same, ih]
        · exact ih
  rw [Fields.find?, payload, List.lookup_append, own, kept]
  rfl

/-- Whether no integer that is written has too many digits. -/
def IsShort (e : Entry) : Prop :=
  (Value.integer e.origin.line).isWritable = true ∧
    ∀ field ∈ e.extra, field.1 ∉ ownNames → field.2.isWritable = true

theorem isWritable_payload : (Value.record e.payload).isWritable = true ↔ e.IsShort := by
  rw [Value.isWritable, payload, Value.haveWritable_iff, List.forall_mem_append]
  refine and_congr ?_ ?_
  · -- of the entry's own fields only the line number is an integer
    have name : (Value.ofText? e.origin.name).isWritable = true := by
      cases e.origin.name <;> rfl
    simp [ownFields, Value.isWritable, name]
  · simp

/-- A line number with too many digits keeps an entry from being written. -/
theorem not_isShort_of_line (long : 10 ^ Fault.numeralLimit ≤ e.origin.line.natAbs) :
    ¬ e.IsShort := by
  rintro ⟨line, -⟩
  exact Nat.not_lt.mpr long (Value.isWritable_integer_iff.mp line)

theorem readable_own (short : (Value.integer e.origin.line).isWritable = true) (depth : Nat) :
    ∀ field ∈ e.ownFields, Json.Readable depth field.2 := by
  have name : Json.Readable depth (Value.ofText? e.origin.name) := by
    cases e.origin.name with
    | none => exact .null
    | some s => exact .text s
  rw [Value.isWritable, decide_eq_true_eq] at short
  simp only [ownFields, List.forall_mem_cons, List.not_mem_nil, false_implies, implies_true,
    and_true]
  exact ⟨.real (Binary64.isProper_ofRatio _ _ (by decide)), .text _, .text _, name, .text _,
    .integer short, .text _⟩

theorem exists_readable_payload (distinct : (e.extra.map (·.1)).Nodup)
    (each : ∀ field ∈ e.extra, field.2.IsPlain) (short : e.IsShort) :
    ∃ depth, ∀ deeper ≥ depth, Json.Readable deeper (.record e.payload) := by
  obtain ⟨depth, all⟩ := exists_common_depth (p := fun depth (field : String × Value) =>
    Json.Readable depth field.2) e.payload fun field mem => by
      rcases mem_payload.mp mem with own | ⟨bound, other⟩
      · exact ⟨0, fun deeper _ => readable_own short.1 deeper field own⟩
      · exact (each field bound).exists_readable (short.2 field bound other)
  -- the record is one level deeper than what stands in its fields
  refine ⟨depth + 1, fun deeper enough => ?_⟩
  obtain ⟨less, rfl⟩ : ∃ less, deeper = less + 1 := ⟨deeper - 1, by omega⟩
  exact .record (all less (by omega)) (nodup_payload distinct)

/-! ## The line -/

/-- The JSON text of an entry is one line. -/
theorem noBreak_json {c : Char} (mem : c ∈ e.json.toList) : c ≠ '\n' ∧ c ≠ '\r' := by
  rw [json, Json.Style.text, String.toList_ofList] at mem
  have comma : ∀ c ∈ Json.Style.logged.comma, 32 ≤ c.toNat := by simp [Json.Style.logged]
  have colon : ∀ c ∈ Json.Style.logged.colon, 32 ≤ c.toNat := by simp [Json.Style.logged]
  have visible := Json.le_of_mem_write comma colon mem
  constructor <;> rintro rfl <;> exact absurd visible (by decide)

/-- An entry is written as one line that is read back as its own fields and the bound ones. -/
theorem writeJson_faithful (e : Entry) (distinct : (e.extra.map (·.1)).Nodup)
    (each : ∀ field ∈ e.extra, field.2.IsPlain) :
    (e.IsShort → ∃ body depth, e.writeJson = .ok (some (body ++ "\n")) ∧
      (∀ c ∈ body.toList, c ≠ '\n' ∧ c ≠ '\r') ∧
      ∀ deeper ≥ depth, ∃ fields : Fields,
        Json.readWithin deeper (body ++ "\n").toList = .ok (.record fields) ∧
        (fields.map (·.1)).Nodup ∧
        fields.find? "ts" = some (.real e.origin.time.number) ∧
        fields.find? "time" = some (.text (.ofList e.origin.time.fullText)) ∧
        fields.find? "level" = some (.text e.level) ∧
        fields.find? "logger" = some (.ofText? e.origin.name) ∧
        fields.find? "func" = some (.text e.origin.function) ∧
        fields.find? "line" = some (.integer e.origin.line) ∧
        fields.find? "message" = some (.text e.message) ∧
        ∀ name ∉ ownNames, fields.find? name = e.extra.find? name) ∧
    (¬ e.IsShort → e.writeJson = .error .longInteger) := by
  refine ⟨fun short => ?_, fun long => ?_⟩
  case refine_2 =>
    exact writeJson_of_not_isWritable (Bool.eq_false_iff.mpr (mt isWritable_payload.mp long))
  obtain ⟨depth, readable⟩ := exists_readable_payload distinct each short
  refine ⟨e.json, depth, writeJson_of_isWritable (isWritable_payload.mpr short),
    fun c => noBreak_json, fun deeper enough => ?_⟩
  refine ⟨e.payload, ?_, nodup_payload distinct, find?_payload rfl, find?_payload rfl,
    find?_payload rfl, find?_payload rfl, find?_payload rfl, find?_payload rfl, find?_payload rfl,
    fun name => find?_payload_of_not_mem⟩
  rw [String.toList_append, json, Json.Style.text, String.toList_ofList]
  exact Json.readWithin_write Json.separating_logged (readable deeper enough) ['\n']
    (List.forall_mem_singleton.mpr rfl)

/-! ### An entry with marks of all kinds -/

/-- A message of quotes, braces, markup and line breaks, with bound fields one of which has the name
of an own one. -/
def marked : Entry where
  origin := ⟨⟨1700000000, 123456, 19800⟩, none, "\x3clambda\x3e", 7⟩
  level := "INFO"
  message := "\x22a\\\x22 \x7bextra[_json]\x7d \x3cred\x3e\r\n\u2028"
  extra := [("message", .text "other"), ("tags", .list [.integer (-3), .null, .text "\x7d\n"]),
    ("nested", .record [("message", .boolean true)])]

theorem writeJson_faithful_marked :
    let long : Entry :=
      { marked with origin := { marked.origin with line := (10 ^ Fault.numeralLimit : Nat) } }
    (∃ line depth, ∃ fields : Fields, marked.writeJson = .ok (some line) ∧
      Json.readWithin depth line.toList = .ok (.record fields) ∧
      fields.find? "message" = some (.text marked.message) ∧
      fields.find? "tags" = marked.extra.find? "tags") ∧
    long.writeJson = .error .longInteger := by
  intro long
  have distinct : (marked.extra.map (·.1)).Nodup := by decide
  have each : ∀ field ∈ marked.extra, field.2.IsPlain := by
    simp only [marked, List.forall_mem_cons, List.not_mem_nil, false_implies, implies_true,
      and_true]
    refine ⟨.text _, .list ?_, .record ?_ (by decide)⟩
    · simp only [List.forall_mem_cons, List.not_mem_nil, false_implies, implies_true, and_true]
      exact ⟨.integer _, .null, .text _⟩
    · rw [List.forall_mem_singleton]
      exact .boolean true
  have short : marked.IsShort := isWritable_payload.mp (by decide +kernel)
  obtain ⟨body, depth, written, -, read⟩ := (writeJson_faithful marked distinct each).1 short
  obtain ⟨fields, whole, -, -, -, -, -, -, -, message, others⟩ := read depth (Nat.le_refl _)
  have tooLong : ¬ long.IsShort := not_isShort_of_line (Int.natAbs_natCast _).ge
  exact ⟨⟨_, depth, fields, written, whole, message, others "tags" (by decide)⟩,
    (writeJson_faithful long distinct each).2 tooLong⟩

/-- An entry with a bound integer of one digit too many. -/
def counted : Entry :=
  { marked with extra := [("count", .integer (10 ^ Fault.numeralLimit : Nat))] }

/-- An entry of the first moment of the calendar. -/
def early : Entry :=
  { marked with origin := { marked.origin with time := ⟨-62135596800, 0, 0⟩ } }

/-- There is no line for the one, and in the line of the other the year has a single digit. -/
theorem writeJson_counted :
    ((counted.extra.map (·.1)).Nodup ∧ (∀ field ∈ counted.extra, field.2.IsPlain) ∧
      counted.writeJson = .error .longInteger) ∧
    early.writeJson = .ok (some (early.json ++ "\n")) ∧
      early.payload.find? "time" = some (.text "1-01-01T00:00:00.000000+0000") := by
  have year : String.ofList early.origin.time.fullText = "1-01-01T00:00:00.000000+0000" := by
    decide +kernel
  refine ⟨⟨List.nodup_singleton _, List.forall_mem_singleton.mpr (.integer _), ?_⟩,
    writeJson_of_isWritable (by decide +kernel), year ▸ find?_payload rfl⟩
  have named : ("count", Value.integer (10 ^ Fault.numeralLimit : Nat)) ∈ counted.extra :=
    List.mem_singleton.mpr rfl
  refine writeJson_of_not_isWritable (Bool.eq_false_iff.mpr fun writable => ?_)
  have short := (isWritable_payload.mp writable).2 _ named (by decide)
  rw [Value.isWritable_integer_iff, Int.natAbs_natCast] at short
  exact Nat.lt_irrefl _ short

end Logging.Entry

end SignedLink
