import SignedLink.Logging.Routing
/-!
# SignedLink — details at the default level

Where the environment asks for no level, records of the provider count from
`INFO` on, so its details are dropped before they are put together. Nothing but
a level of its own, at the logger of the provider or at the one between it and
that of the service, could change that, and no configuration gives them one. A
row of records is delivered as soon as each of them is dropped or can be put
together.

* `exists_demands_of_configure`, `exists_apply_of_configure`: a configuration applies its plan, at a
  level that sinks and loggers both know.
* `chain_providerLogger`: what stands above the logger of the provider.
* `levelAt_providerLogger`: the level of a plan counts at the logger of the provider.
* `passes_debug_of_default`: at the default level the provider's details are dropped.
* `deliverAll_eq_error_iff`, `exists_deliverAll`: which rows of records end with a fault, and which
  are delivered.
-/

namespace SignedLink.Logging.Routing

/-- The levels that sinks and loggers both know by name. -/
def sharedLevels : List (String × Level) :=
  [("DEBUG", .debug), ("INFO", .info), ("WARNING", .warning), ("ERROR", .error),
    ("CRITICAL", .critical)]

/-- The level of a plan that can be had is one of the shared levels. -/
theorem mem_sharedLevels_of_demands {p : Plan} {now : Stamp} {level : Level}
    {file : Option (String × Bool)} (demands : p.demands now = .ok (level, file)) :
    (p.level, level) ∈ sharedLevels := by
  unfold Plan.demands at demands
  split at demands
  · cases demands
  · next known =>
    split at demands
    · cases demands
    · split at demands
      · next shared =>
        cases demands
        obtain ⟨before, after, split, -⟩ := List.lookup_eq_some_iff.mp known
        have every : ∀ entry ∈ sinkLevels, (loggerLevels.lookup entry.1).isSome = true →
            entry ∈ sharedLevels := by decide
        exact every (p.level, level) (by simp [split]) shared
      · cases demands

/-- What a configuration does: it applies the plan of its environment, if what that asks for can be
had. -/
theorem exists_demands_of_configure {s routing : Routing} {environment : Environment}
    {now : Stamp} (configured : s.configure environment now = .ok routing) :
    ∃ level file, (Plan.ofEnvironment environment).demands now = .ok (level, file) ∧
      routing = s.apply (Plan.ofEnvironment environment) level file := by
  unfold configure at configured
  dsimp only at configured
  cases demanded : (Plan.ofEnvironment environment).demands now with
  | error f =>
    rw [demanded] at configured
    cases configured
  | ok demands =>
    rw [demanded] at configured
    cases configured
    exact ⟨demands.1, demands.2, rfl, rfl⟩

/-- The plan is applied at a shared level of the name that it asks for. -/
theorem exists_apply_of_configure {s routing : Routing} {environment : Environment} {now : Stamp}
    (configured : s.configure environment now = .ok routing) :
    ∃ level file, ((Plan.ofEnvironment environment).level, level) ∈ sharedLevels ∧
      routing = s.apply (Plan.ofEnvironment environment) level file := by
  obtain ⟨level, file, demanded, applied⟩ := exists_demands_of_configure configured
  exact ⟨level, file, mem_sharedLevels_of_demands demanded, applied⟩

/-- What is known of a logger after one was set. -/
theorem lookup_setLogger (name other : String) (logger : Logger)
    (loggers : List (String × Logger)) :
    (setLogger name logger loggers).lookup other =
      if other = name then some logger else loggers.lookup other := by
  unfold setLogger
  by_cases same : other = name
  · simp [same]
  · have different : (other == name) = false := by simpa using same
    rw [List.lookup_cons, different, if_neg same]
    show (loggers.filter fun known => known.1 != name).lookup other = loggers.lookup other
    -- what is filtered out stands under the name that was set
    induction loggers with
    | nil => rfl
    | cons known rest ih =>
      by_cases taken : known.1 = name
      · have away : (other == known.1) = false := by simpa [taken] using same
        rw [List.filter_cons_of_neg (by simp [taken]), ih, List.lookup_cons, away]
      · rw [List.filter_cons_of_pos (by simp [taken]), List.lookup_cons, List.lookup_cons, ih]

/-- Only the intercepted loggers are set by a plan. -/
theorem lookup_apply (s : Routing) (p : Plan) (level : Level) (file : Option (String × Bool))
    (name : String) :
    (s.apply p level file).loggers.lookup name =
      if name ∈ intercepted then some (.intercepting level) else s.loggers.lookup name := by
  simp only [apply]
  induction intercepted with
  | nil => rfl
  | cons first rest ih =>
    rw [List.foldr_cons, lookup_setLogger, ih]
    by_cases here : name = first
    · simp [here]
    · simp [here]

/-- A logger that was not known is plain once it has been met. -/
theorem lookup_know_eq (s : Routing) (name other : String) :
    (s.know name).loggers.lookup other =
      (s.loggers.lookup other).or (if other = name then some .plain else none) := by
  unfold know
  by_cases same : other = name
  · subst same
    split
    · next known =>
      obtain ⟨logger, held⟩ := Option.isSome_iff_exists.mp known
      rw [held]
      rfl
    · simp [List.lookup_append]
  · have away : (other == name) = false := by simpa using same
    rw [if_neg same, Option.or_none]
    split
    · rfl
    · simp [List.lookup_append, List.lookup_cons, away]

/-- The logger that can come in between those of the provider and the service. -/
def middleLogger : String := "cdnredirect.services"

/-- The loggers that stand below that of the service where the provider writes. -/
def providerLoggers : List String := [providerLogger, middleLogger]

/-- Whether these loggers are left without a level of their own. -/
def LeavesProvider (s : Routing) : Prop :=
  ∀ name ∈ providerLoggers, ∀ logger, s.loggers.lookup name = some logger → logger.level = none

/-- No configuration sets one of them. -/
theorem lookup_apply_of_mem_providerLoggers (s : Routing) (p : Plan) (level : Level)
    (file : Option (String × Bool)) {name : String} (mem : name ∈ providerLoggers) :
    (s.apply p level file).loggers.lookup name = s.loggers.lookup name := by
  have apart : ∀ name ∈ providerLoggers, name ∉ intercepted := by decide
  rw [lookup_apply, if_neg (apart name mem)]

/-- Above the logger in between stands that of the service, which every plan sets. -/
theorem above?_between (s : Routing) (p : Plan) (level : Level) (file : Option (String × Bool)) :
    (s.apply p level file).above? middleLogger =
      some (serviceLogger, .intercepting level) := by
  have service : (s.apply p level file).loggers.lookup serviceLogger =
      some (.intercepting level) := by
    rw [lookup_apply, if_pos (by decide)]
  have names : namesAbove middleLogger.toList.reverse = [serviceLogger.toList] := by
    decide +kernel
  rw [above?, names, List.findSome?_cons, String.ofList_toList, service]
  rfl

/-- Above the logger of the provider stands the one in between, if it is known, and else that of the
service. -/
theorem above?_providerLogger (s : Routing) (p : Plan) (level : Level)
    (file : Option (String × Bool)) :
    (s.apply p level file).above? providerLogger =
      ((s.loggers.lookup middleLogger).map fun logger =>
        (middleLogger, logger)).or (some (serviceLogger, .intercepting level)) := by
  have service : (s.apply p level file).loggers.lookup serviceLogger =
      some (.intercepting level) := by
    rw [lookup_apply, if_pos (by decide)]
  have between : (s.apply p level file).loggers.lookup middleLogger =
      s.loggers.lookup middleLogger :=
    lookup_apply_of_mem_providerLoggers s p level file (by decide)
  have names : namesAbove providerLogger.toList.reverse =
      [middleLogger.toList, serviceLogger.toList] := by
    decide +kernel
  rw [above?, names, List.findSome?_cons, List.findSome?_cons, String.ofList_toList,
    String.ofList_toList, service, between]
  cases s.loggers.lookup middleLogger <;> rfl

/-- What is known of the logger of the provider and of the one in between, and above them the
intercepted logger of the service. -/
theorem chain_providerLogger (s : Routing) (p : Plan) (level : Level)
    (file : Option (String × Bool)) :
    ∃ above, (s.apply p level file).chain providerLogger =
      (providerLoggers.flatMap fun name => (s.loggers.lookup name).toList) ++
        .intercepting level :: above := by
  have own : (s.apply p level file).loggers.lookup providerLogger =
      s.loggers.lookup providerLogger :=
    lookup_apply_of_mem_providerLoggers s p level file (by decide)
  have long : providerLogger.length = 31 + 2 := by decide +kernel
  -- the way up goes by the logger in between only when it is known
  obtain ⟨above, chain⟩ : ∃ above, (s.apply p level file).chainAbove (31 + 2) providerLogger =
      (s.loggers.lookup middleLogger).toList ++ .intercepting level :: above := by
    rw [chainAbove, above?_providerLogger]
    cases s.loggers.lookup middleLogger with
    | none => exact ⟨_, rfl⟩
    | some logger =>
      refine ⟨(s.apply p level file).chainAbove 31 serviceLogger, ?_⟩
      show logger :: (s.apply p level file).chainAbove (31 + 1) middleLogger = _
      rw [chainAbove, above?_between]
      rfl
  refine ⟨above, ?_⟩
  rw [Routing.chain, own, long, chain]
  simp only [providerLoggers, List.flatMap_cons, List.flatMap_nil, List.append_nil,
    List.append_assoc]

/-- Without levels on the way, records of the provider count from the level of the plan on. -/
theorem levelAt_providerLogger {s : Routing} (plain : s.LeavesProvider) (p : Plan) (level : Level)
    (file : Option (String × Bool)) : (s.apply p level file).levelAt providerLogger = level := by
  have silent : (providerLoggers.flatMap fun name =>
      (s.loggers.lookup name).toList).findSome? (·.level) = none := by
    rw [List.findSome?_eq_none_iff]
    intro logger mem
    obtain ⟨name, among, known⟩ := List.mem_flatMap.mp mem
    exact plain name among logger (Option.mem_toList.mp known)
  obtain ⟨above, chain⟩ := chain_providerLogger s p level file
  rw [levelAt, chain, List.findSome?_append, silent]
  rfl

/-- At the default level the provider's details are dropped, whatever else is asked for. -/
theorem passes_debug_of_default {s routing : Routing} {environment : Environment} {now : Stamp}
    (plain : s.LeavesProvider) (default : environment.getD "LOG_LEVEL" "INFO" = "INFO")
    (configured : s.configure environment now = .ok routing) :
    routing.passes providerLogger .debug = false := by
  obtain ⟨level, file, known, rfl⟩ := exists_apply_of_configure configured
  have name : (Plan.ofEnvironment environment).level = "INFO" := by
    show Text.upper (environment.getD "LOG_LEVEL" "INFO") = "INFO"
    rw [default]
    decide +kernel
  rw [name] at known
  obtain rfl : level = .info := by simpa [sharedLevels] using known
  show (decide _ && decide _) = false
  rw [levelAt_providerLogger plain]
  rfl

/-! ## Deliveries -/

/-- What keeps a record from being delivered, if anything: it passes and is forwarded, but it has no
message. -/
def fault? (s : Routing) (r : Record) : Option Fault :=
  if s.passes r.logger r.level && forwardsAlong (s.chain r.logger) != 0 then
    match r.message with
    | .error f => some f
    | .ok _ => none
  else none

variable {routing : Routing} {records : List Record} {f : Fault}

theorem fault?_eq_some_iff {r : Record} :
    routing.fault? r = some f ↔ routing.passes r.logger r.level = true ∧
      forwardsAlong (routing.chain r.logger) ≠ 0 ∧ r.message = .error f := by
  unfold fault?
  cases routing.passes r.logger r.level with
  | false => simp
  | true =>
    by_cases forwarded : forwardsAlong (routing.chain r.logger) = 0
    · simp [forwarded]
    · cases r.message <;> simp [forwarded]

theorem deliveries_eq_error_iff (origin : Origin) {r : Record} :
    routing.deliveries origin r = .error f ↔ routing.fault? r = some f := by
  rw [fault?_eq_some_iff]
  unfold deliveries
  cases routing.passes r.logger r.level with
  | false => simp
  | true =>
    by_cases forwarded : forwardsAlong (routing.chain r.logger) = 0
    · simp [forwarded]
    · cases r.message <;> simp [forwarded]

/-- A row of records ends with the first fault among them. -/
theorem deliverAll_eq_error_iff (origin : Origin) :
    routing.deliverAll origin records = .error f ↔ records.findSome? routing.fault? = some f := by
  induction records with
  | nil => simp [deliverAll]
  | cons r rest ih =>
    rw [deliverAll, List.findSome?_cons]
    cases delivered : routing.deliveries origin r with
    | error g =>
      rw [(deliveries_eq_error_iff origin).mp delivered]
      simp
    | ok first =>
      have passedOn : routing.fault? r = none := by
        rw [Option.eq_none_iff_forall_ne_some]
        intro g fault
        rw [(deliveries_eq_error_iff origin).mpr fault] at delivered
        cases delivered
      rw [passedOn, ← ih]
      cases routing.deliverAll origin rest <;> simp [Except.map]

/-- Records are delivered when each of them is dropped or can be put together. -/
theorem exists_deliverAll (origin : Origin)
    (tellable : ∀ r ∈ records,
      routing.passes r.logger r.level = false ∨ ∃ message, r.message = .ok message) :
    ∃ deliveries, routing.deliverAll origin records = .ok deliveries := by
  cases delivered : routing.deliverAll origin records with
  | ok deliveries => exact ⟨deliveries, rfl⟩
  | error f =>
    obtain ⟨r, mem, fault⟩ :=
      List.exists_of_findSome?_eq_some ((deliverAll_eq_error_iff origin).mp delivered)
    obtain ⟨passes, -, untold⟩ := fault?_eq_some_iff.mp fault
    rcases tellable r mem with dropped | ⟨message, told⟩
    · cases passes.symm.trans dropped
    · cases untold.symm.trans told

end SignedLink.Logging.Routing
