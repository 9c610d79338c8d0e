import SignedLink.Proofs.Logging.Admission
import SignedLink.Proofs.Logging.Descent
/-!
# SignedLink — deliveries after configurations

The routing can be configured as often as the environment changes, and in
between loggers are met. Every configuration replaces all sinks, and sets the
intercepted loggers to one handler and to passing nothing on. So what was set up
before makes no difference: a record that is written at or below an intercepted
logger goes to the sinks of the last configuration, once to each, if its level is
not below the one asked for. A log file whose rule asks for a moment behind the
end of the calendar is never written.

* `Turn`, `run`: histories of configurations and loggers that are met.
* `Untouched.run`: no history sets anything at the loggers under the intercepted ones.
* `sparesProvider_of_run`: so nothing is set at those of the provider.
* `broadcast_sinks`: every sink that can be written gets an entry once.
* `delivered_once`: the deliveries after a history.
* `not_delivered_once`: a name with two points in a row, and a rule beyond the calendar.
-/

namespace SignedLink.Logging

/-! ## Histories -/

/-- What changes the routing. -/
inductive Turn where
  | configure (environment : Environment) (now : Stamp)
  | know (name : String)

namespace Routing

variable {s t : Routing} {environment : Environment} {now : Stamp} {name : String}
  {least : Level}

/-- The routing after a turn. -/
def turn (s : Routing) : Turn → Except Fault Routing
  | .configure environment now => s.configure environment now
  | .know name => .ok (s.know name)

/-- The routing after one turn after the other, if all of them succeed. -/
def run (s : Routing) : List Turn → Except Fault Routing
  | [] => .ok s
  | first :: rest =>
    match s.turn first with
    | .error f => .error f
    | .ok s => s.run rest

/-- A history that succeeds has a first turn that does, and goes on from there. -/
theorem run_cons {first : Turn} {rest : List Turn} (ran : s.run (first :: rest) = .ok t) :
    ∃ next, s.turn first = .ok next ∧ next.run rest = .ok t := by
  rw [run] at ran
  cases turned : s.turn first with
  | error f =>
    rw [turned] at ran
    cases ran
  | ok next =>
    rw [turned] at ran
    exact ⟨next, rfl, ran⟩

theorem run_append {turns later : List Turn} (ran : s.run (turns ++ later) = .ok t) :
    ∃ between, s.run turns = .ok between ∧ between.run later = .ok t := by
  induction turns generalizing s with
  | nil => exact ⟨s, rfl, ran⟩
  | cons first rest ih =>
    obtain ⟨next, turned, ran⟩ := run_cons ran
    obtain ⟨between, before, after⟩ := ih ran
    refine ⟨between, ?_, after⟩
    rw [run, turned]
    exact before

/-! ## What every turn keeps -/

theorem untouched_fresh : fresh.Untouched := nofun

theorem Untouched.know (untouched : s.Untouched) (name : String) : (s.know name).Untouched := by
  intro other logger known own under
  rw [lookup_know_eq, Option.or_eq_some_iff] at known
  rcases known with before | ⟨-, met⟩
  · exact untouched other logger before own under
  · exact (Option.some.inj (Option.ite_none_right_eq_some.mp met).2).symm

theorem Untouched.apply (untouched : s.Untouched) (p : Plan) (level : Level)
    (file : Option (String × Bool)) : (s.apply p level file).Untouched := by
  intro name logger known own under
  rw [lookup_apply, if_neg own] at known
  exact untouched name logger known own under

theorem Untouched.turn (untouched : s.Untouched) {change : Turn} (turned : s.turn change = .ok t) :
    t.Untouched := by
  cases change with
  | configure environment now =>
    obtain ⟨level, file, -, rfl⟩ := exists_apply_of_configure turned
    exact untouched.apply _ level file
  | know name =>
    cases turned
    exact untouched.know name

theorem Untouched.run (untouched : s.Untouched) {turns : List Turn}
    (ran : s.run turns = .ok t) : t.Untouched := by
  induction turns generalizing s with
  | nil =>
    cases ran
    exact untouched
  | cons first rest ih =>
    obtain ⟨next, turned, ran⟩ := run_cons ran
    exact ih (untouched.turn turned) ran

/-- After any history nothing is set at the loggers of the provider. -/
theorem sparesProvider_of_run {turns : List Turn} (ran : fresh.run turns = .ok t) :
    t.SparesProvider := by
  have under : ∀ name ∈ providerLoggers, name ∉ intercepted ∧ Under serviceLogger name := by
    decide
  intro name mem logger known
  obtain ⟨own, below⟩ := under name mem
  exact untouched_fresh.run ran name logger known own ⟨serviceLogger, by decide, below⟩

/-! ## After a configuration -/

theorem Untouched.installed (untouched : s.Untouched) (p : Plan) (level : Level)
    (file : Option (String × Bool)) : (s.apply p level file).Installed level where
  set base mem := by rw [lookup_apply, if_pos mem]
  untouched := untouched.apply p level file

theorem Installed.know (installed : s.Installed least) (name : String) :
    (s.know name).Installed least where
  set base mem := by
    rw [lookup_know_eq, installed.set base mem]
    rfl
  untouched := installed.untouched.know name

theorem sinks_know (s : Routing) (name : String) : (s.know name).sinks = s.sinks := by
  unfold know
  split <;> rfl

/-- Loggers that are met after a configuration change nothing about it. -/
theorem Installed.run_know (installed : s.Installed least) {names : List String}
    (ran : s.run (names.map .know) = .ok t) : t.Installed least ∧ t.sinks = s.sinks := by
  induction names generalizing s with
  | nil =>
    cases ran
    exact ⟨installed, rfl⟩
  | cons name names ih =>
    obtain ⟨after, same⟩ := ih (installed.know name) ran
    exact ⟨after, same.trans (sinks_know s name)⟩

end Routing

/-! ## Sinks -/

section Broadcast

variable {least level : Level} {sinks : List Sink}

/-- Sinks of a level that is passed each get the entry once, if they can be written. -/
theorem broadcast_sinks (each : ∀ sink ∈ sinks, sink.level = least)
    (admitted : least.number ≤ level.number) (e : Entry) :
    (broadcast level sinks e).map (·.sink) = sinks.filter (·.isOpen) := by
  induction sinks generalizing e with
  | nil => rfl
  | cons sink sinks ih =>
    obtain ⟨first, others⟩ := List.forall_mem_cons.mp each
    rw [broadcast, first, if_pos admitted, List.map_append, ih others, List.filter_cons]
    split <;> rfl

/-- A sink writes the message and where it comes from, whatever sinks were before it. -/
theorem broadcast_entry {e : Entry} {d : Delivery} (mem : d ∈ broadcast level sinks e) :
    d.entry.origin = e.origin ∧ d.entry.level = e.level ∧ d.entry.message = e.message := by
  induction sinks generalizing e with
  | nil => cases mem
  | cons sink sinks ih =>
    rw [broadcast] at mem
    split at mem
    · rcases List.mem_append.mp mem with here | later
      · split at here
        · cases List.mem_singleton.mp here
          exact ⟨rfl, rfl, rfl⟩
        · cases here
      · have same := ih later
        -- writing only binds a further field
        cases form : sink.form <;> rw [Sink.after, form] at same <;> exact same
    · exact ih mem

end Broadcast

/-! ## Plans -/

namespace Plan

variable {p : Plan} {now : Stamp} {level : Level} {path : String} {opened : Bool}
  {file : Option (String × Bool)}

/-- A log file can be written if its rule has a moment within the calendar. -/
theorem opened_of_logFile (told : p.logFile now = .ok (path, opened)) :
    ∃ rotation, Rotation.ofText p.rotation = .ok rotation ∧
      opened = rotation.isReached (now.seconds * 1000000 + now.micros) := by
  unfold logFile at told
  split at told
  · cases told
  · cases told
  · split at told
    · cases told
    · cases told
    · next rotation _ read _ =>
      cases told
      exact ⟨rotation, read, rfl⟩

theorem logFile?_of_demands (had : p.demands now = .ok (level, file)) :
    p.logFile? now = .ok file := by
  unfold demands at had
  split at had
  · cases had
  · split at had
    · cases had
    · next found =>
      split at had
      · cases had
        exact found
      · cases had

/-- There is a log file exactly when one is asked for. -/
theorem file_of_demands (had : p.demands now = .ok (level, file)) :
    file.isSome = p.toFile ∧ ∀ pair ∈ file, p.logFile now = .ok pair := by
  have found := logFile?_of_demands had
  unfold logFile? at found
  split at found
  · next asked =>
    rw [asked]
    cases told : p.logFile now with
    | error f =>
      rw [told] at found
      cases found
    | ok pair =>
      rw [told] at found
      cases found
      exact ⟨rfl, fun other same => congrArg _ (Option.some.inj same)⟩
  · next quiet =>
    cases found
    exact ⟨by simpa using quiet, nofun⟩

/-- The sinks of a plan that can be written: the console, and the log file if it can be. -/
theorem outlets_sinks (p : Plan) (level : Level) (file : Option (String × Bool)) :
    ((p.sinks level file).filter (·.isOpen)).map (·.outlet) =
      .console :: ((file.filter (·.2)).map fun pair => .file pair.1).toList := by
  match file with
  | none => rfl
  | some (path, true) => rfl
  | some (path, false) => rfl

theorem level_of_mem_sinks {sink : Sink} (mem : sink ∈ p.sinks level file) :
    sink.level = level := by
  match file with
  | none =>
    cases List.mem_singleton.mp mem
    rfl
  | some (path, opened) =>
    rcases List.mem_cons.mp mem with rfl | mem
    · rfl
    · cases List.mem_singleton.mp mem
      rfl

end Plan

namespace Routing

variable {s t : Routing} {level : Level} {r : Record} {message : String}

/-- At a logger that leads up to an intercepted one, records of a positive level from the level
asked for on are forwarded once. -/
theorem Installed.deliveries_eq (installed : t.Installed level) (origin : Origin)
    (leads : r.logger ∈ intercepted ∨ t.Descends r.logger) (told : r.message = .ok message)
    (positive : 0 < r.level.number) :
    t.deliveries origin r = .ok (if level.number ≤ r.level.number then
      broadcast r.level t.sinks ⟨origin, r.level.name, message, []⟩ else []) := by
  unfold deliveries
  rw [installed.forwardsAlong_eq leads, passes, installed.levelAt_eq leads, told]
  by_cases admitted : level.number ≤ r.level.number
  · simp [admitted, positive]
  · simp [admitted]

/-- Records after a history that ends with a configuration, and with loggers being met. Whatever was
configured before, the configuration asks for a level by one of five names, and for a log file or
none. Every name that goes on behind that of an intercepted logger with a point, and not with
another directly behind it, leads up to an intercepted logger. A record at a logger that is
intercepted or leads up to one goes once to the console and once to the log file, if that can be
written, or to no sink if its level is below the one asked for. -/
theorem delivered_once {turns : List Turn} {environment : Environment} {now : Stamp}
    {names : List String} (untouched : s.Untouched)
    (ran : s.run (turns ++ .configure environment now :: names.map .know) = .ok t) :
    let plan := Plan.ofEnvironment environment
    ∃ level file, plan.demands now = .ok (level, file) ∧ (plan.level, level) ∈ sharedLevels ∧
      file.isSome = environment.isOn "LOG_TO_FILE" ∧
      (∀ path opened, file = some (path, opened) →
        ∃ rotation, Rotation.ofText plan.rotation = .ok rotation ∧
          opened = rotation.isReached (now.seconds * 1000000 + now.micros)) ∧
      (∀ base ∈ intercepted, ∀ name, Below base name → t.Descends name) ∧
      ∀ (origin : Origin) (r : Record) (message : String), r.message = .ok message →
        0 < r.level.number → (r.logger ∈ intercepted ∨ t.Descends r.logger) →
        ∃ deliveries, t.deliveries origin r = .ok deliveries ∧
          deliveries.map (·.sink.outlet) = (if level.number ≤ r.level.number then
            .console :: ((file.filter (·.2)).map fun pair => .file pair.1).toList else []) ∧
          ∀ d ∈ deliveries, d.sink ∈ plan.sinks level file ∧ d.entry.origin = origin ∧
            d.entry.level = r.level.name ∧ d.entry.message = message := by
  intro plan
  obtain ⟨before, first, ran⟩ := run_append ran
  obtain ⟨after, turned, ran⟩ := run_cons ran
  obtain ⟨level, file, had, rfl⟩ := exists_demands_of_configure turned
  obtain ⟨installed, sinks⟩ := ((untouched.run first).installed plan level file).run_know ran
  obtain ⟨asked, found⟩ := Plan.file_of_demands had
  refine ⟨level, file, had, mem_sharedLevels_of_demands had, asked, ?_, ?_, ?_⟩
  · intro path opened same
    exact Plan.opened_of_logFile (found _ same)
  · intro base mem name below
    refine descends_of_below (fun other own => ?_) mem below
    rw [installed.set other own]
    rfl
  · intro origin r message told positive leads
    refine ⟨_, installed.deliveries_eq origin leads told positive, ?_⟩
    have every : ∀ sink ∈ t.sinks, sink.level = level := by
      rw [sinks]
      exact fun sink => Plan.level_of_mem_sinks
    split
    · next admitted =>
      have reached := broadcast_sinks every admitted ⟨origin, r.level.name, message, []⟩
      refine ⟨?_, fun d mem => ⟨?_, broadcast_entry mem⟩⟩
      · rw [← Plan.outlets_sinks plan level, ← show t.sinks = plan.sinks level file from sinks,
          ← reached, List.map_map]
        rfl
      · have : d.sink ∈ t.sinks.filter (·.isOpen) := reached ▸ List.mem_map_of_mem mem
        rw [sinks] at this
        exact (List.mem_filter.mp this).1
    · exact ⟨rfl, List.forall_mem_nil _⟩

/-! ### A log file after two other configurations -/

/-- The second of two configurations asks for everything, and in between a logger is met. -/
def sampleTurns : List Turn :=
  [.configure [] ⟨0, 0, 0⟩, .know "uvicorn.access", .configure [("LOG_LEVEL", "debug")] ⟨60, 0, 0⟩]

/-- A place in the program, at some time. -/
def sampleOrigin : Origin := ⟨⟨90, 0, 0⟩, none, "run", 1⟩

theorem delivered_once_sample :
    ∃ t, fresh.run (sampleTurns ++ .configure [("LOG_TO_FILE", "1")] ⟨90, 0, 0⟩ ::
        ["fastapi.routes..get"].map .know) = .ok t ∧
      (∃ deliveries, t.deliveries sampleOrigin (.of "uvicorn.access" .warning "slow") =
          .ok deliveries ∧
        deliveries.map (·.sink.outlet) = [.console, .file "logs/app.log"]) ∧
      t.deliveries sampleOrigin (.of "fastapi.routes..get" .debug "detail") = .ok [] := by
  have ran : (fresh.run (sampleTurns ++ .configure [("LOG_TO_FILE", "1")] ⟨90, 0, 0⟩ ::
      ["fastapi.routes..get"].map .know)).toOption.isSome = true := by decide +kernel
  cases reached : fresh.run (sampleTurns ++ .configure [("LOG_TO_FILE", "1")] ⟨90, 0, 0⟩ ::
      ["fastapi.routes..get"].map .know) with
  | error f =>
    rw [reached] at ran
    cases ran
  | ok t =>
    obtain ⟨level, file, had, -, -, -, leads, delivered⟩ := delivered_once untouched_fresh reached
    have demands : ((Plan.ofEnvironment [("LOG_TO_FILE", "1")]).demands ⟨90, 0, 0⟩).toOption =
        some (.info, some ("logs/app.log", true)) := by decide +kernel
    rw [had] at demands
    cases demands
    have access := leads "uvicorn" (by decide) "uvicorn.access"
      ⟨"access".toList, by decide, by rintro _ ⟨⟩; decide⟩
    have get := leads "fastapi" (by decide) "fastapi.routes..get"
      ⟨"routes..get".toList, by decide, by rintro _ ⟨⟩; decide⟩
    obtain ⟨written, told, outlets, -⟩ := delivered sampleOrigin
      (.of "uvicorn.access" .warning "slow") _ rfl (by decide) (.inr access)
    obtain ⟨dropped, silent, dropsAll, -⟩ := delivered sampleOrigin
      (.of "fastapi.routes..get" .debug "detail") _ rfl (by decide) (.inr get)
    obtain rfl := List.map_eq_nil_iff.mp dropsAll
    exact ⟨t, rfl, ⟨written, told, outlets⟩, silent⟩

/-- What is written to after a history when a warning is written to a logger. -/
def warned (turns : List Turn) (logger : String) : Option (List Outlet) :=
  ((fresh.run turns).toOption.bind fun t =>
    (t.deliveries sampleOrigin (.of logger .warning "slow")).toOption).map
      (·.map (·.sink.outlet))

/-- With two points in a row a name does not lead up to the logger of the service. A log file that
is asked for is not written when its rule goes beyond the calendar. -/
theorem not_delivered_once :
    warned [.configure [] ⟨90, 0, 0⟩, .know "cdnredirect..audit"] "cdnredirect..audit" = some [] ∧
      warned [.configure [("LOG_TO_FILE", "1"), ("LOG_ROTATION", "9000 years")] ⟨90, 0, 0⟩]
        "cdnredirect" = some [.console] := by
  decide +kernel

end Routing

end SignedLink.Logging
