import SignedLink.Proofs.Logging.DefaultLevel
/-!
# SignedLink — loggers below the intercepted ones

What stands above a logger is found from its name and from what is known of the
tree. A name that goes on behind that of an intercepted logger with a point leads
up to an intercepted logger, perhaps by way of others; only a second point
directly behind the first leads past it. Where nothing is set at the loggers on
the way, a record goes to the handler of that logger, once, and its level counts.

* `descends_of_below`: which names lead up to an intercepted logger.
* `Installed`: the intercepted loggers are set to a level, and nothing is set under them.
* `Installed.levelAt_eq`, `Installed.forwardsAlong_eq`: what counts at the loggers that lead up to
  one.
-/

namespace SignedLink.Logging

/-! ## Names below names -/

/-- The first name and a point are the beginning of the second. -/
def Under (base name : String) : Prop :=
  base.toList ++ ['.'] <+: name.toList

instance (base name : String) : Decidable (Under base name) :=
  inferInstanceAs (Decidable (_ <+: _))

theorem Under.trans {a b c : String} (first : Under a b) (second : Under b c) : Under a c :=
  List.IsPrefix.trans first ((List.prefix_append b.toList ['.']).trans second)

theorem Under.length_lt {base name : String} (under : Under base name) :
    base.length < name.length := by
  have := under.length_le
  rw [List.length_append, String.length_toList, String.length_toList] at this
  exact this

theorem prefix_of_mem_namesAbove {cs above : List Char} (mem : above ∈ namesAbove cs) :
    above ++ ['.'] <+: cs.reverse := by
  fun_induction namesAbove cs with
  | case1 => cases mem
  | case2 => cases mem
  | case3 c d rest point ih =>
    rw [beq_iff_eq] at point
    subst point
    rcases List.mem_cons.mp mem with rfl | further
    · exact ⟨[], by simp⟩
    · refine (ih further).trans ?_
      rw [List.reverse_cons, List.reverse_cons, List.append_assoc]
      exact List.prefix_append ..
  | case4 c d rest noPoint ih =>
    refine (ih mem).trans ?_
    rw [List.reverse_cons (a := c)]
    exact List.prefix_append ..

/-- A name stands above another if a point follows it, and behind that no other point. What stands
between the two names goes on behind the point. -/
theorem namesAbove_append {base : List Char} (nonempty : base ≠ []) : (later : List Char) →
    (∀ c ∈ later.getLast?, c ≠ '.') →
    ∃ nearer further, namesAbove (later ++ '.' :: base) = nearer ++ base.reverse :: further ∧
      ∀ name ∈ nearer, ∃ rest, rest <:+ later ∧ rest ≠ [] ∧ name = (rest ++ '.' :: base).reverse
  | [], _ => by
    obtain ⟨d, base, rfl⟩ := List.exists_cons_of_ne_nil nonempty
    exact ⟨[], namesAbove base, by simp [namesAbove], by simp⟩
  | [c], apart => by
    have noPoint : (c == '.') = false := beq_eq_false_iff_ne.mpr (apart c rfl)
    obtain ⟨nearer, further, split, between⟩ := namesAbove_append nonempty [] (by simp)
    refine ⟨nearer, further, ?_, fun name mem => ?_⟩
    · rw [← split, List.singleton_append, namesAbove, noPoint]
      rfl
    · obtain ⟨rest, tail, more, -⟩ := between name mem
      exact absurd (List.suffix_nil.mp tail) more
  | c :: d :: later, apart => by
    have longer {rest : List Char} (tail : rest <:+ d :: later) : rest <:+ c :: d :: later :=
      tail.trans (List.suffix_cons c _)
    cases point : c == '.' with
    | false =>
      obtain ⟨nearer, further, split, between⟩ := namesAbove_append nonempty (d :: later)
        (by simpa using apart)
      refine ⟨nearer, further, ?_, fun name mem => ?_⟩
      · rw [← split, List.cons_append, List.cons_append, namesAbove, point]
        rfl
      · obtain ⟨rest, tail, shape⟩ := between name mem
        exact ⟨rest, longer tail, shape⟩
    | true =>
      -- the character before the point is passed over, and it is none of the base
      obtain ⟨nearer, further, split, between⟩ := namesAbove_append nonempty later (by
        cases later with
        | nil => simp
        | cons e later => simpa using apart)
      refine ⟨(d :: later ++ '.' :: base).reverse :: nearer, further, ?_, ?_⟩
      · rw [List.cons_append, List.cons_append, namesAbove, point, if_pos rfl, split]
        rfl
      · rw [List.forall_mem_cons]
        refine ⟨⟨d :: later, longer (List.suffix_refl _), by simp, rfl⟩, fun name mem => ?_⟩
        obtain ⟨rest, tail, shape⟩ := between name mem
        exact ⟨rest, longer (tail.trans (List.suffix_cons d later)), shape⟩

/-- The second name goes on behind the first with a point and something that begins with no other
point. -/
def Below (base name : String) : Prop :=
  ∃ rest, name.toList = base.toList ++ '.' :: rest ∧ ∀ c ∈ rest.head?, c ≠ '.'

namespace Routing

variable {s : Routing} {name above base : String} {logger : Logger} {level : Level}

/-! ## The way up -/

theorem under_of_above? (found : s.above? name = some (above, logger)) :
    Under above name ∧ s.loggers.lookup above = some logger := by
  unfold above? at found
  obtain ⟨cs, mem, known⟩ := List.exists_of_findSome?_eq_some found
  obtain ⟨other, held, same⟩ := Option.map_eq_some_iff.mp known
  cases same
  refine ⟨?_, held⟩
  have := prefix_of_mem_namesAbove mem
  rwa [List.reverse_reverse, ← String.toList_ofList (l := cs)] at this

/-- Above a name below a known one stands that one, or another name below it. -/
theorem exists_above? (named : base ≠ "") (known : s.loggers.lookup base = some logger)
    (below : Below base name) :
    ∃ above other, s.above? name = some (above, other) ∧ (above = base ∨ Below base above) := by
  obtain ⟨rest, shape, apart⟩ := below
  have nonempty : base.toList.reverse ≠ [] := by simpa using named
  obtain ⟨nearer, further, split, between⟩ := namesAbove_append nonempty rest.reverse
    (by simpa using apart)
  have reversed : name.toList.reverse = rest.reverse ++ '.' :: base.toList.reverse := by
    rw [shape]
    simp
  unfold above?
  rw [reversed, split, List.findSome?_append]
  cases first : nearer.findSome? fun above =>
      (s.loggers.lookup (.ofList above)).map fun logger => (String.ofList above, logger) with
  | none =>
    refine ⟨base, logger, ?_, .inl rfl⟩
    rw [Option.none_or, List.findSome?_cons, List.reverse_reverse, String.ofList_toList, known]
    rfl
  | some found =>
    obtain ⟨cs, mem, held⟩ := List.exists_of_findSome?_eq_some first
    obtain ⟨other, -, same⟩ := Option.map_eq_some_iff.mp held
    cases same
    refine ⟨.ofList cs, other, rfl, .inr ?_⟩
    obtain ⟨part, ⟨front, whole⟩, more, rfl⟩ := between cs mem
    obtain ⟨c, part, rfl⟩ : ∃ c cs, part = cs ++ [c] :=
      ⟨part.getLast more, part.dropLast, (List.dropLast_concat_getLast more).symm⟩
    refine ⟨c :: part.reverse, by simp, ?_⟩
    -- it begins with what stands behind the point in the name itself
    have : rest = (c :: part.reverse) ++ front.reverse := by
      rw [← List.reverse_reverse rest, ← whole]
      simp
    rw [this] at apart
    simpa using apart

/-- A logger stands below an intercepted one, with loggers between them that are none. -/
inductive Descends (s : Routing) : String → Prop
  | here {name above : String} {logger : Logger} (found : s.above? name = some (above, logger))
      (mem : above ∈ intercepted) : Descends s name
  | further {name above : String} {logger : Logger} (found : s.above? name = some (above, logger))
      (other : above ∉ intercepted) (descends : Descends s above) : Descends s name

theorem Descends.under (descends : s.Descends name) : ∃ base ∈ intercepted, Under base name := by
  induction descends with
  | here found mem => exact ⟨_, mem, (under_of_above? found).1⟩
  | further found other descends ih =>
    obtain ⟨base, mem, under⟩ := ih
    exact ⟨base, mem, under.trans (under_of_above? found).1⟩

/-- A name below an intercepted logger that is known leads up to one. -/
theorem descends_of_below (known : ∀ base ∈ intercepted, (s.loggers.lookup base).isSome = true)
    (mem : base ∈ intercepted) (below : Below base name) : s.Descends name := by
  have named : base ≠ "" := by
    rintro rfl
    exact absurd mem (by decide)
  obtain ⟨logger, held⟩ := Option.isSome_iff_exists.mp (known base mem)
  -- on the length of the name, which goes down on the way up
  induction size : name.length using Nat.strongRecOn generalizing name with
  | ind n ih =>
    obtain ⟨above, other, found, rfl | lower⟩ := exists_above? named held below
    · exact .here found mem
    · have shorter := (under_of_above? found).1.length_lt
      by_cases own : above ∈ intercepted
      · exact .here found own
      · exact .further found own (ih above.length (by omega) lower rfl)

/-! ## Loggers that are set, and loggers that are left alone -/

/-- Nothing has been set at the loggers under the intercepted ones that are none themselves. -/
def Untouched (s : Routing) : Prop :=
  ∀ name logger, s.loggers.lookup name = some logger → name ∉ intercepted →
    (∃ base ∈ intercepted, Under base name) → logger = .plain

/-- The intercepted loggers are set to a level, and the loggers under them are left alone. -/
structure Installed (s : Routing) (level : Level) : Prop where
  set : ∀ base ∈ intercepted, s.loggers.lookup base = some (.intercepting level)
  untouched : s.Untouched

namespace Installed

theorem exists_chainAbove (installed : s.Installed level) (descends : s.Descends name) {n : Nat}
    (enough : name.length ≤ n) :
    ∃ plains rest, s.chainAbove n name = plains ++ .intercepting level :: rest ∧
      ∀ logger ∈ plains, logger = .plain := by
  induction descends generalizing n with
  | @here name above logger found mem =>
    obtain ⟨under, held⟩ := under_of_above? found
    obtain ⟨n, rfl⟩ : ∃ less, n = less + 1 := ⟨n - 1, by have := under.length_lt; omega⟩
    obtain rfl := Option.some.inj (held.symm.trans (installed.set above mem))
    refine ⟨[], s.chainAbove n above, ?_, by simp⟩
    rw [chainAbove, found]
    rfl
  | @further name above logger found other descends ih =>
    obtain ⟨under, held⟩ := under_of_above? found
    obtain ⟨n, rfl⟩ : ∃ less, n = less + 1 := ⟨n - 1, by have := under.length_lt; omega⟩
    obtain ⟨plains, rest, split, all⟩ := ih (n := n) (by have := under.length_lt; omega)
    refine ⟨logger :: plains, rest, ?_, ?_⟩
    · rw [chainAbove, found]
      exact congrArg _ split
    · exact List.forall_mem_cons.mpr
        ⟨installed.untouched above logger held other descends.under, all⟩

/-- On the way up from a logger that is intercepted or descends from one that is, the first logger
that anything is set at is an intercepted one. -/
theorem exists_chain (installed : s.Installed level)
    (leads : name ∈ intercepted ∨ s.Descends name) :
    ∃ plains rest, s.chain name = plains ++ .intercepting level :: rest ∧
      ∀ logger ∈ plains, logger = .plain := by
  by_cases mem : name ∈ intercepted
  · refine ⟨[], s.chainAbove name.length name, ?_, by simp⟩
    rw [chain, installed.set name mem]
    rfl
  · have descends := leads.resolve_left mem
    obtain ⟨plains, rest, split, all⟩ := installed.exists_chainAbove descends (Nat.le_refl _)
    refine ⟨(s.loggers.lookup name).toList ++ plains, rest, ?_, ?_⟩
    · rw [chain, split, List.append_assoc]
    · rw [List.forall_mem_append]
      refine ⟨fun logger own => ?_, all⟩
      exact installed.untouched name logger (Option.mem_toList.mp own) mem descends.under

theorem levelAt_eq (installed : s.Installed level) (leads : name ∈ intercepted ∨ s.Descends name) :
    s.levelAt name = level := by
  obtain ⟨plains, rest, split, all⟩ := installed.exists_chain leads
  have silent : plains.findSome? (·.level) = none := by
    rw [List.findSome?_eq_none_iff]
    intro logger mem
    rw [all logger mem]
    rfl
  rw [levelAt, split, List.findSome?_append, silent]
  rfl

theorem forwardsAlong_eq (installed : s.Installed level)
    (leads : name ∈ intercepted ∨ s.Descends name) : forwardsAlong (s.chain name) = 1 := by
  obtain ⟨plains, rest, split, all⟩ := installed.exists_chain leads
  rw [split]
  clear split
  induction plains with
  | nil => rfl
  | cons logger plains ih =>
    obtain ⟨first, others⟩ := List.forall_mem_cons.mp all
    rw [first, List.cons_append, forwardsAlong]
    exact (Nat.zero_add _).trans (ih others)

end Installed

end Routing

end SignedLink.Logging
