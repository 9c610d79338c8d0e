import SignedLink.Proofs.Json.Numbers
/-!
# SignedLink — written JSON is read back

A value that has a JSON form of its own is written, in any style with the usual
separators, as a text that is read back as the same value. The reader's
allowance is never used up on such a text: twice the length of what is still to
be read is enough at every call.

* `Readable`: the values that have a JSON form of their own, and how deep they are.
* `Style.Separating`: the styles whose separators are those of JSON.
* `readBack`: a written value is read back in front of what cannot go on with a number.
* `read_write`: a written value is read back, spaces after it do not matter.
-/

namespace SignedLink.Json

/-- Values of a nesting no deeper than `depth` that JSON can write without loss. -/
inductive Readable : (depth : Nat) → Value → Prop
  | null {depth : Nat} : Readable depth .null
  | boolean {depth : Nat} (b : Bool) : Readable depth (.boolean b)
  /-- An integer with no more digits than a reader takes. -/
  | integer {depth : Nat} {n : Int}
      (short : (Nat.toDigits 10 n.natAbs).length ≤ Fault.numeralLimit) : Readable depth (.integer n)
  | real {depth : Nat} {x : Binary64} (proper : x.IsProper) : Readable depth (.real x)
  | text {depth : Nat} (s : String) : Readable depth (.text s)
  | list {depth : Nat} {items : List Value} (each : ∀ v ∈ items, Readable depth v) :
      Readable (depth + 1) (.list items)
  /-- A record in which no name occurs twice. -/
  | record {depth : Nat} {fields : Fields} (each : ∀ field ∈ fields, Readable depth field.2)
      (distinct : (fields.map (·.1)).Nodup) : Readable (depth + 1) (.record fields)

/-- Separators with nothing but spaces around them. -/
structure Style.Separating (style : Style) : Prop where
  comma : ∃ spaces, style.comma = ',' :: spaces ∧ ∀ c ∈ spaces, isSpace c = true
  colon : ∃ spaces, style.colon = ':' :: spaces ∧ ∀ c ∈ spaces, isSpace c = true

theorem separating_signed : Style.signed.Separating :=
  ⟨⟨[], rfl, by simp⟩, ⟨[], rfl, by simp⟩⟩

/-! ## Spaces -/

/-- The text does not begin with a space. -/
def Solid (text : List Char) : Prop :=
  ∀ c ∈ text.head?, isSpace c = false

theorem skipSpace_append (spaces : List Char) {text : List Char}
    (blank : ∀ c ∈ spaces, isSpace c = true) (solid : Solid text) (pos : Nat) :
    skipSpace pos (spaces ++ text) = (pos + spaces.length, text) := by
  induction spaces generalizing pos with
  | nil =>
    cases text with
    | nil => rfl
    | cons c text => simp [skipSpace, solid c rfl]
  | cons c spaces ih =>
    rw [List.cons_append, skipSpace, if_pos (blank c List.mem_cons_self),
      ih (fun d mem => blank d (List.mem_cons_of_mem c mem)), List.length_cons]
    congr 1
    omega

theorem skipSpace_solid {text : List Char} (solid : Solid text) (pos : Nat) :
    skipSpace pos text = (pos, text) :=
  skipSpace_append [] (by simp) solid pos

theorem skipSpace_cons {c : Char} (noSpace : isSpace c = false) (text : List Char) (pos : Nat) :
    skipSpace pos (c :: text) = (pos, c :: text) :=
  skipSpace_solid (by rintro d ⟨⟩; exact noSpace) pos

/-! ## Values -/

variable {style : Style} {depth : Nat}

/-- A text begins with a character that is no space and ends no array. -/
def Begins (text : List Char) : Prop :=
  ∃ c more, text = c :: more ∧ isSpace c = false ∧ c ≠ ']'

theorem Begins.append {text : List Char} (begins : Begins text) (rest : List Char) :
    Begins (text ++ rest) := by
  obtain ⟨c, more, rfl, noSpace, noEnd⟩ := begins
  exact ⟨c, more ++ rest, rfl, noSpace, noEnd⟩

theorem Begins.solid {text : List Char} (begins : Begins text) : Solid text := by
  obtain ⟨c, more, rfl, noSpace, -⟩ := begins
  intro d head
  cases head
  exact noSpace

theorem Begins.length_pos {text : List Char} (begins : Begins text) : 0 < text.length := by
  obtain ⟨c, more, rfl, -⟩ := begins
  exact Nat.succ_pos _

/-- Numbers begin with a digit or a sign, and the words for numbers with a letter. -/
def OpensNumber (c : Char) : Prop :=
  Text.isAsciiDigit c = true ∨ c ∈ ['-', 'N', 'I']

theorem OpensNumber.ne {c d : Char} (opens : OpensNumber c)
    (noDigit : Text.isAsciiDigit d = false) (noMark : d ∉ ['-', 'N', 'I']) : c ≠ d := by
  rintro rfl
  rcases opens with digit | mark
  · rw [noDigit] at digit
    cases digit
  · exact noMark mark

theorem opensNumber_head {first : Char} (digit : Text.isAsciiDigit first = true) (negative : Bool)
    (more : List Char) : ∃ c text,
      (if negative then ['-'] else []) ++ first :: more = c :: text ∧ OpensNumber c := by
  cases negative with
  | false => exact ⟨first, more, rfl, .inl digit⟩
  | true => exact ⟨'-', first :: more, rfl, .inr (by decide)⟩

theorem opensNumber_decimal (n : Int) :
    ∃ c text, Text.decimal n = c :: text ∧ OpensNumber c := by
  obtain ⟨first, digits, -, digit, shape⟩ := Text.decimal_eq_append n
  rw [shape]
  exact opensNumber_head digit (decide (n < 0)) digits

theorem opensNumber_real {x : Binary64} (proper : x.IsProper) :
    ∃ c text, Shortest.data.text x = c :: text ∧ OpensNumber c := by
  cases proper with
  | nan => exact ⟨'N', _, rfl, .inr (by decide)⟩
  | infinite negative => cases negative <;> exact ⟨_, _, rfl, .inr (by decide)⟩
  | zero negative => exact opensNumber_head (by decide) negative ".0".toList
  | finite negative fits =>
    obtain ⟨p, numeral, text, -⟩ := Shortest.exists_parts_text fits negative
    obtain ⟨first, more, whole, -⟩ := numeral.canonical
    rw [text, Shortest.Parts.text, whole]
    exact opensNumber_head (numeral.whole first (whole ▸ List.mem_cons_self)) negative _

theorem OpensNumber.begins {c : Char} (opens : OpensNumber c) (text : List Char) :
    Begins (c :: text) := by
  refine ⟨c, text, rfl, ?_, opens.ne (by decide) (by decide)⟩
  refine Bool.eq_false_iff.mpr fun space => ?_
  simp only [isSpace, Bool.or_eq_true, beq_iff_eq] at space
  rcases space with ((rfl | rfl) | rfl) | rfl <;> exact opens.ne (by decide) (by decide) rfl

/-- A written value begins with a character that is no space and ends no array. -/
theorem begins_write (style : Style) {v : Value} (readable : Readable depth v) :
    Begins (style.write v) := by
  cases readable with
  | null => exact ⟨'n', _, rfl, rfl, by decide⟩
  | boolean b => cases b <;> exact ⟨_, _, rfl, rfl, by decide⟩
  | @integer _ n _ =>
    obtain ⟨c, text, shape, opens⟩ := opensNumber_decimal n
    rw [Style.write, shape]
    exact opens.begins text
  | real proper =>
    obtain ⟨c, text, shape, opens⟩ := opensNumber_real proper
    rw [Style.write, shape]
    exact opens.begins text
  | text => exact ⟨_, _, rfl, rfl, by decide⟩
  | list => exact ⟨_, _, rfl, rfl, by decide⟩
  | record => exact ⟨_, _, rfl, rfl, by decide⟩

theorem begins_writeItems (style : Style) {items : List Value}
    (each : ∀ v ∈ items, Readable depth v) (nonempty : items ≠ []) :
    Begins (style.writeItems items) := by
  cases items with
  | nil => exact absurd rfl nonempty
  | cons v items =>
    rw [Style.writeItems, List.append_assoc]
    exact (begins_write style (each v List.mem_cons_self)).append _

/-! ### What a value begins with decides how it is read -/

theorem value_quote (allowance depth pos : Nat) (text : List Char) :
    value [] (allowance + 1) depth pos ('\x22' :: text) =
      match stringBody [] pos 0 (pos + 1) text with
      | .error e => .error e
      | .ok (s, pos, rest) => .ok (.text s, pos, rest) := by
  unfold value
  exact if_pos (by decide)

theorem value_bracket (allowance depth pos : Nat) {text : List Char} (begins : Begins text) :
    value [] (allowance + 1) (depth + 1) pos ('[' :: text) =
      items [] allowance depth [] (pos + 1) text := by
  obtain ⟨c, more, rfl, -, noEnd⟩ := id begins
  rw [value, if_neg (by decide), if_neg (by decide), if_pos (by decide),
    skipSpace_solid begins.solid]
  simp only
  split
  · next same => exact absurd (List.cons.inj same).1 noEnd
  · rfl

theorem value_brace (allowance depth pos : Nat) (text : List Char) :
    value [] (allowance + 1) (depth + 1) pos ('\x7b' :: '\x22' :: text) =
      members [] allowance depth [] (pos + 1) ('\x22' :: text) := by
  rw [value, if_neg (by decide), if_pos (by decide), skipSpace_cons (by decide)]
  rfl

theorem value_plain (allowance depth pos : Nat) {c : Char} {text : List Char}
    (noQuote : c ≠ '\x22') (noBrace : c ≠ '\x7b') (noBracket : c ≠ '[') :
    value [] (allowance + 1) depth pos (c :: text) = wordOrNumber pos (c :: text) := by
  unfold value
  rw [if_neg (by simpa using noQuote), if_neg (by simpa using noBrace),
    if_neg (by simpa using noBracket)]

theorem value_emptyArray (allowance depth pos : Nat) (rest : List Char) :
    value [] (allowance + 1) (depth + 1) pos ('[' :: ']' :: rest) =
      .ok (.list [], pos + 2, rest) := by
  rw [value, if_neg (by decide), if_neg (by decide), if_pos (by decide),
    skipSpace_cons (by decide)]
  rfl

theorem value_emptyObject (allowance depth pos : Nat) (rest : List Char) :
    value [] (allowance + 1) (depth + 1) pos ('\x7b' :: '\x7d' :: rest) =
      .ok (.record [], pos + 2, rest) := by
  rw [value, if_neg (by decide), if_pos (by decide), skipSpace_cons (by decide)]
  rfl

theorem value_number (allowance depth pos : Nat) {c : Char} (opens : OpensNumber c)
    (text : List Char) :
    value [] (allowance + 1) depth pos (c :: text) = wordOrNumber pos (c :: text) :=
  value_plain allowance depth pos (opens.ne (by decide) (by decide))
    (opens.ne (by decide) (by decide)) (opens.ne (by decide) (by decide))

theorem value_decimal (allowance depth pos : Nat) (n : Int) (rest : List Char) :
    value [] (allowance + 1) depth pos (Text.decimal n ++ rest) =
      number pos (Text.decimal n ++ rest) := by
  obtain ⟨c, text, opening, opens⟩ := opensNumber_decimal n
  obtain ⟨first, digits, -, digit, shape⟩ := Text.decimal_eq_append n
  rw [opening, List.cons_append, value_number allowance depth pos opens, ← List.cons_append,
    ← opening, shape, List.append_assoc, List.cons_append, wordOrNumber_of_digit digit]

theorem value_real (allowance depth pos : Nat) {x : Binary64} (proper : x.IsProper)
    (rest : List Char) : value [] (allowance + 1) depth pos (Shortest.data.text x ++ rest) =
      wordOrNumber pos (Shortest.data.text x ++ rest) := by
  obtain ⟨c, text, opening, opens⟩ := opensNumber_real proper
  rw [opening, List.cons_append, value_number allowance depth pos opens]

/-! ### Arrays -/

/-- What a style writes for a value is read back with enough allowance. -/
def ReadBack (style : Style) (depth : Nat) (v : Value) : Prop :=
  ∀ allowance pos rest, 2 * (style.write v).length ≤ allowance + 1 → EndsNumber rest →
    Gives (value [] allowance depth pos (style.write v ++ rest)) (.ofValue v) rest

theorem items_last {allowance pos : Nat} {done : List Document} {cs rest : List Char}
    {d : Document} (given : Gives (value [] allowance depth pos cs) d (']' :: rest)) :
    Gives (items [] (allowance + 1) depth done pos cs) (.list (done.reverse ++ [d])) rest := by
  obtain ⟨last, read⟩ := given
  refine ⟨last + 1, ?_⟩
  rw [items, read]
  simp only [skipSpace_cons (c := ']') (by decide), List.reverse_cons]

theorem items_next (separating : style.Separating) {allowance pos : Nat} {done : List Document}
    {cs text rest : List Char} {d e : Document}
    (given : Gives (value [] allowance depth pos cs) d (style.comma ++ text)) (begins : Solid text)
    (later : ∀ pos, Gives (items [] allowance depth (d :: done) pos text) e rest) :
    Gives (items [] (allowance + 1) depth done pos cs) e rest := by
  obtain ⟨next, read⟩ := given
  obtain ⟨spaces, comma, blank⟩ := separating.comma
  obtain ⟨last, more⟩ := later (next + 1 + spaces.length)
  refine ⟨last, ?_⟩
  rw [comma] at read
  rw [items, read]
  simp only [List.cons_append, skipSpace_cons (c := ',') (by decide),
    skipSpace_append spaces blank begins, more]

theorem gives_items (separating : style.Separating) {vs : List Value}
    (each : ∀ v ∈ vs, Readable depth v) (back : ∀ v ∈ vs, ReadBack style depth v)
    (nonempty : vs ≠ []) (allowance : Nat) (enough : 2 * (style.writeItems vs).length ≤ allowance)
    (done : List Document) (pos : Nat) (rest : List Char) :
    Gives (items [] allowance depth done pos (style.writeItems vs ++ ']' :: rest))
      (.list (done.reverse ++ Document.ofItems vs)) rest := by
  -- on the items that are still to be read; `done` holds those before them, the last in front
  induction vs generalizing allowance done pos with
  | nil => exact absurd rfl nonempty
  | cons v vs ih =>
    have first := (begins_write style (each v List.mem_cons_self)).length_pos
    have readable := back v List.mem_cons_self
    -- the allowance is twice the text, so there is some left for the item and for the others
    obtain ⟨allowance, rfl⟩ : ∃ less, allowance = less + 1 := by
      refine Nat.exists_eq_add_one.mpr ?_
      rw [Style.writeItems, List.append_assoc, List.length_append] at enough
      omega
    cases vs with
    | nil =>
      simp only [Style.writeItems, List.isEmpty_nil, if_true, List.append_nil] at enough ⊢
      exact items_last (readable allowance pos _ (by omega) (by rintro c ⟨⟩; decide))
    | cons w vs =>
      have remaining : ∀ u ∈ w :: vs, Readable depth u :=
        fun u mem => each u (List.mem_cons_of_mem v mem)
      obtain ⟨spaces, comma, -⟩ := separating.comma
      rw [Style.writeItems, List.isEmpty_cons, if_neg (by decide)] at enough ⊢
      simp only [List.length_append, List.append_assoc] at enough ⊢
      have separator : 0 < style.comma.length := by rw [comma]; exact Nat.succ_pos _
      refine items_next separating
        (readable allowance pos _ (by omega) (by rw [comma]; rintro c ⟨⟩; decide))
        ((begins_writeItems style remaining (by simp)).append _).solid fun next => ?_
      have later := ih remaining (fun u mem => back u (List.mem_cons_of_mem v mem)) (by simp)
        allowance (by omega) (.ofValue v :: done) next
      rwa [List.reverse_cons, List.append_assoc, List.singleton_append] at later

/-! ### Objects -/

theorem put_ofFields {fields : Fields} {name : String} (new : name ∉ fields.map (·.1)) (v : Value) :
    Members.put (Document.ofFields fields) (Text.points name.toList) (.ofValue v) =
      Document.ofFields (fields ++ [(name, v)]) := by
  induction fields with
  | nil => rfl
  | cons field fields ih =>
    rw [List.map_cons, List.mem_cons, not_or] at new
    have other : Text.points name.toList ≠ Text.points field.1.toList := by
      intro same
      have names := congrArg Text.seen same
      rw [Text.seen_points, Text.seen_points] at names
      exact new.1 (String.toList_inj.mp names)
    rw [Document.ofFields, Members.put, if_neg (by simpa using other), ih new.2]
    rfl

theorem member_name (separating : style.Separating) (name : String) (text : List Char) (pos : Nat) :
    ∃ named spaces, style.colon = ':' :: spaces ∧
      stringBody [] pos 0 (pos + 1) (name.toList.flatMap (escape style.asciiOnly) ++
        '\x22' :: ':' :: (spaces ++ text)) =
          .ok (Text.points name.toList, named, ':' :: (spaces ++ text)) ∧
      ∀ c ∈ spaces, isSpace c = true := by
  obtain ⟨spaces, colon, blank⟩ := separating.colon
  obtain ⟨named, body⟩ := stringBody_flatMap_escape style.asciiOnly name.toList
    (':' :: (spaces ++ text)) pos (pos + 1)
  exact ⟨named, spaces, colon, body, blank⟩

theorem members_last (separating : style.Separating) (name : String) {allowance : Nat}
    {d : Document} {text rest : List Char} (begins : Solid text)
    (given : ∀ pos, Gives (value [] allowance depth pos text) d ('\x7d' :: rest)) (done : Members)
    (pos : Nat) :
    Gives (members [] (allowance + 1) depth done pos
        (string style.asciiOnly name.toList ++ (style.colon ++ text)))
      (.record (done.put (Text.points name.toList) d)) rest := by
  obtain ⟨named, spaces, colon, body, blank⟩ := member_name separating name text pos
  obtain ⟨last, read⟩ := given (named + 1 + spaces.length)
  refine ⟨last + 1, ?_⟩
  rw [string, Text.doubleQuote, colon, List.cons_append, List.append_assoc, List.singleton_append,
    List.cons_append, members]
  simp only [body, skipSpace_cons (c := ':') (by decide), skipSpace_append spaces blank begins,
    read, skipSpace_cons (c := '\x7d') (by decide)]

theorem members_next (separating : style.Separating) (name : String) {allowance : Nat}
    {d e : Document} {text next rest : List Char} (begins : Solid text)
    (given : ∀ pos, Gives (value [] allowance depth pos text) d (style.comma ++ next))
    (nextBegins : Solid next) (done : Members)
    (later : ∀ pos, Gives
      (members [] allowance depth (done.put (Text.points name.toList) d) pos next) e rest)
    (pos : Nat) :
    Gives (members [] (allowance + 1) depth done pos
        (string style.asciiOnly name.toList ++ (style.colon ++ text))) e rest := by
  obtain ⟨named, spaces, colon, body, blank⟩ := member_name separating name text pos
  obtain ⟨between, comma, blankBetween⟩ := separating.comma
  obtain ⟨reached, read⟩ := given (named + 1 + spaces.length)
  obtain ⟨last, more⟩ := later (reached + 1 + between.length)
  rw [comma] at read
  refine ⟨last, ?_⟩
  rw [string, Text.doubleQuote, colon, List.cons_append, List.append_assoc, List.singleton_append,
    List.cons_append, members]
  simp only [body, skipSpace_cons (c := ':') (by decide), skipSpace_append spaces blank begins,
    read, List.cons_append, skipSpace_cons (c := ',') (by decide),
    skipSpace_append between blankBetween nextBegins, more]

/-- Written members begin with the quote of their first name. -/
theorem writeFields_eq_cons (style : Style) {fields : Fields} (nonempty : fields ≠ []) :
    ∃ text, style.writeFields fields = '\x22' :: text := by
  cases fields with
  | nil => exact absurd rfl nonempty
  | cons field fields =>
    obtain ⟨name, v⟩ := field
    exact ⟨_, rfl⟩

theorem gives_members (separating : style.Separating) {fs : Fields}
    (each : ∀ f ∈ fs, Readable depth f.2) (back : ∀ f ∈ fs, ReadBack style depth f.2)
    (nonempty : fs ≠ []) (allowance : Nat)
    (enough : 2 * (style.writeFields fs).length ≤ allowance) (done : Fields)
    (distinct : ((done ++ fs).map (·.1)).Nodup) (pos : Nat) (rest : List Char) :
    Gives (members [] allowance depth (Document.ofFields done) pos
        (style.writeFields fs ++ '\x7d' :: rest))
      (.record (Document.ofFields (done ++ fs))) rest := by
  induction fs generalizing allowance done pos with
  | nil => exact absurd rfl nonempty
  | cons f fs ih =>
    obtain ⟨name, v⟩ := f
    have begins : Begins (style.write v) := begins_write style (each (name, v) List.mem_cons_self)
    have readable : ReadBack style depth v := back (name, v) List.mem_cons_self
    -- the names are all different, so the member is put behind those before it
    have new : name ∉ done.map (·.1) := by
      rw [List.map_append, List.map_cons] at distinct
      exact fun mem => (List.nodup_append.mp distinct).2.2 name mem name List.mem_cons_self rfl
    obtain ⟨allowance, rfl⟩ : ∃ less, allowance = less + 1 := by
      refine Nat.exists_eq_add_one.mpr ?_
      have := begins.length_pos
      simp only [Style.writeFields, List.length_append] at enough
      omega
    cases fs with
    | nil =>
      simp only [Style.writeFields, List.isEmpty_nil, if_true, List.append_nil, List.length_append,
        List.append_assoc] at enough ⊢
      have ended := members_last separating name (begins.append _).solid
        (fun pos => readable allowance pos ('\x7d' :: rest) (by omega) (by rintro c ⟨⟩; decide))
        (Document.ofFields done) pos
      rwa [put_ofFields new] at ended
    | cons g fs =>
      have remaining : g :: fs ≠ [] := by simp
      obtain ⟨spaces, comma, -⟩ := separating.comma
      obtain ⟨text, quote⟩ := writeFields_eq_cons style remaining
      have opening : Solid (style.writeFields (g :: fs) ++ '\x7d' :: rest) := by
        rw [quote]
        rintro c ⟨⟩
        decide
      have separator : 0 < style.comma.length := by rw [comma]; exact Nat.succ_pos _
      rw [Style.writeFields, List.isEmpty_cons, if_neg (by decide)] at enough ⊢
      simp only [List.length_append, List.append_assoc] at enough ⊢
      refine members_next separating name (begins.append _).solid
        (fun pos => readable allowance pos (style.comma ++ _) (by omega)
          (by rw [comma]; rintro c ⟨⟩; decide)) opening (Document.ofFields done)
        (fun next => ?_) pos
      have later := ih (fun f mem => each f (List.mem_cons_of_mem _ mem))
        (fun f mem => back f (List.mem_cons_of_mem _ mem)) remaining allowance (by omega)
        (done ++ [(name, v)]) (by rwa [List.append_assoc, List.singleton_append]) next
      rw [List.append_assoc, List.singleton_append] at later
      rwa [put_ofFields new]

/-! ## Every value -/

/-- A value can only be read with some allowance, and its text is never empty. -/
theorem ReadBack.of_succ {v : Value} (readable : Readable depth v)
    (given : ∀ allowance pos rest, 2 * (style.write v).length ≤ allowance + 2 → EndsNumber rest →
      Gives (value [] (allowance + 1) depth pos (style.write v ++ rest)) (.ofValue v) rest) :
    ReadBack style depth v := by
  intro allowance pos rest enough ends
  have nonempty := (begins_write style readable).length_pos
  obtain ⟨less, rfl⟩ : ∃ less, allowance = less + 1 := Nat.exists_eq_add_one.mpr (by omega)
  exact given less pos rest enough ends

/-- A written value is read back in front of any text that does not go on with a number. -/
theorem readBack (separating : style.Separating) {v : Value} (readable : Readable depth v) :
    ReadBack style depth v := by
  -- on the nesting: the values inside a list or a record are read back one level deeper
  induction readable with
  | null =>
    refine .of_succ .null fun allowance pos rest _ _ => ⟨pos + 4, ?_⟩
    exact value_plain allowance _ pos (by decide) (by decide) (by decide)
  | boolean b =>
    refine .of_succ (.boolean b) fun allowance pos rest _ _ => ?_
    cases b with
    | false => exact ⟨pos + 5, value_plain allowance _ pos (by decide) (by decide) (by decide)⟩
    | true => exact ⟨pos + 4, value_plain allowance _ pos (by decide) (by decide) (by decide)⟩
  | @integer depth n short =>
    refine .of_succ (.integer short) fun allowance pos rest _ ends => ?_
    obtain ⟨last, read⟩ := gives_number short ends pos
    refine ⟨last, ?_⟩
    rw [Style.write, value_decimal, read]
    rfl
  | @real depth x proper =>
    refine .of_succ (.real proper) fun allowance pos rest _ ends => ?_
    obtain ⟨last, read⟩ := gives_real proper ends pos
    refine ⟨last, ?_⟩
    rw [Style.write, value_real allowance depth pos proper, read]
    rfl
  | text s =>
    refine .of_succ (.text s) fun allowance pos rest _ _ => ?_
    obtain ⟨last, body⟩ :=
      stringBody_flatMap_escape style.asciiOnly s.toList rest pos (pos + 1)
    refine ⟨last, ?_⟩
    rw [Text.doubleQuote] at body
    rw [Style.write, string, Text.doubleQuote, List.cons_append, List.append_assoc,
      List.singleton_append, value_quote, body]
    rfl
  | @list depth vs each ih =>
    refine .of_succ (.list each) fun allowance pos rest enough _ => ?_
    by_cases empty : vs = []
    · subst empty
      exact ⟨pos + 2, value_emptyArray allowance depth pos rest⟩
    · have given := gives_items separating each ih empty allowance
        (by simp [Style.write] at enough; omega) [] (pos + 1) rest
      have begins := (begins_writeItems style each empty).append (']' :: rest)
      rw [Style.write, List.cons_append, List.append_assoc, List.singleton_append,
        value_bracket _ _ _ begins]
      exact given
  | @record depth fs each distinct ih =>
    refine .of_succ (.record each distinct) fun allowance pos rest enough _ => ?_
    by_cases empty : fs = []
    · subst empty
      exact ⟨pos + 2, value_emptyObject allowance depth pos rest⟩
    · have given := gives_members separating each ih empty allowance
        (by simp [Style.write] at enough; omega) [] distinct (pos + 1) rest
      obtain ⟨text, quote⟩ := writeFields_eq_cons style empty
      rw [Style.write, List.cons_append, List.append_assoc, List.singleton_append]
      rw [quote, List.cons_append] at given ⊢
      rw [value_brace]
      exact given

theorem seenItems_ofItems {items : List Value}
    (each : ∀ v ∈ items, (Document.ofValue v).seen = v) :
    Document.seenItems (Document.ofItems items) = items := by
  induction items with
  | nil => rfl
  | cons v rest ih =>
    obtain ⟨first, others⟩ := List.forall_mem_cons.mp each
    rw [Document.ofItems, Document.seenItems, first, ih others]

theorem seenMembers_ofFields {fields : Fields}
    (each : ∀ field ∈ fields, (Document.ofValue field.2).seen = field.2) :
    Document.seenMembers (Document.ofFields fields) = fields := by
  induction fields with
  | nil => rfl
  | cons field rest ih =>
    obtain ⟨first, others⟩ := List.forall_mem_cons.mp each
    rw [Document.ofFields, Document.seenMembers, first, ih others, Text.seen_points,
      String.ofList_toList]

/-- A value that JSON can write without loss is seen in its document. -/
theorem seen_ofValue {v : Value} (readable : Readable depth v) : (Document.ofValue v).seen = v := by
  induction readable with
  | null | boolean | integer | real => rfl
  | text s => rw [Document.ofValue, Document.seen, Text.seen_points, String.ofList_toList]
  | list each ih => rw [Document.ofValue, Document.seen, seenItems_ofItems ih]
  | record each distinct ih => rw [Document.ofValue, Document.seen, seenMembers_ofFields ih]

/-- A written value is read back as its document wherever it is not too deep, spaces after it do not
matter. -/
theorem documentWithin_write (separating : style.Separating) {v : Value}
    (readable : Readable depth v) (spaces : List Char) (blank : ∀ c ∈ spaces, isSpace c = true) :
    documentWithin depth [] (style.write v ++ spaces) = .ok (.ofValue v) := by
  -- a space does not go on with a number
  have ends : EndsNumber spaces := by
    rintro c head
    have space := blank c (List.mem_of_mem_head? head)
    simp only [isSpace, Bool.or_eq_true, beq_iff_eq] at space
    rcases space with ((rfl | rfl) | rfl) | rfl <;> decide
  obtain ⟨last, given⟩ := readBack separating readable (2 * (style.write v ++ spaces).length + 2) 0
    spaces (by rw [List.length_append]; omega) ends
  have begins := (begins_write style readable).append spaces
  have behind : skipSpace last (spaces ++ []) = (last + spaces.length, []) :=
    skipSpace_append spaces blank (by rintro c ⟨⟩) last
  rw [List.append_nil] at behind
  rw [documentWithin, skipSpace_solid begins.solid]
  simp only [given, behind]

/-- A written value is a document of unknown origin like any other. -/
theorem readDocument_write (separating : style.Separating) {v : Value}
    (readable : Readable depthLimit v) :
    readDocument (Text.points (style.write v)) = .ok (.ofValue v) := by
  have whole := documentWithin_write separating readable [] (List.forall_mem_nil _)
  rw [List.append_nil] at whole
  rw [readDocument, halvesOf_points, Text.seen_points, whole]

/-- The same, where a value is read. -/
theorem readWithin_write (separating : style.Separating) {v : Value} (readable : Readable depth v)
    (spaces : List Char) (blank : ∀ c ∈ spaces, isSpace c = true) :
    readWithin depth (style.write v ++ spaces) = .ok v := by
  simp only [readWithin, documentWithin_write separating readable spaces blank,
    Document.isWhole_ofValue, seen_ofValue readable, if_true]

/-- A written value is read back, spaces after it do not matter. -/
theorem read_write (separating : style.Separating) {v : Value} (readable : Readable depthLimit v)
    (spaces : List Char) (blank : ∀ c ∈ spaces, isSpace c = true) :
    read (style.write v ++ spaces) = .ok v :=
  readWithin_write separating readable spaces blank

end SignedLink.Json
