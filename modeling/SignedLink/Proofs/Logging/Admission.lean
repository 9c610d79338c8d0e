import SignedLink.Proofs.Logging.DefaultLevel
/-!
# SignedLink — which records of the provider are put together

A configuration asks for a level by one of five names. Where nothing has been
set at the loggers of the provider, its records go to the handler of the service
and to no other, from that level on. So its details are put together exactly
when `DEBUG` is asked for, and its failures exactly when `CRITICAL` is not. What
cannot be put together is then a fault of the call that wrote it.

* `SparesProvider`: nothing has been set at the loggers of the provider.
* `passes_providerLogger_iff`: the levels asked for at which its records pass.
* `fault?_of_provider`: when the delivery of a record of the provider ends with a fault.
-/

namespace SignedLink.Logging.Routing

variable {s routing : Routing} {environment : Environment} {now : Stamp} {f : Fault}

/-! ## Loggers that are left alone -/

/-- Whether nothing has been set at the loggers of the provider. -/
def SparesProvider (s : Routing) : Prop :=
  ∀ name ∈ providerLoggers, ∀ logger, s.loggers.lookup name = some logger → logger = .plain

theorem sparesProvider_fresh : fresh.SparesProvider := nofun

/-- They have no levels of their own either. -/
theorem SparesProvider.leavesProvider (spared : s.SparesProvider) : s.LeavesProvider := by
  intro name mem logger known
  rw [spared name mem logger known]
  rfl

/-! ## Levels -/

/-- After a configuration the level that counts at the provider is the one asked for by name. -/
theorem exists_levelAt (spared : s.SparesProvider)
    (configured : s.configure environment now = .ok routing) :
    ∃ level, ((Plan.ofEnvironment environment).level, level) ∈ sharedLevels ∧
      routing.levelAt providerLogger = level := by
  obtain ⟨level, file, shared, rfl⟩ := exists_apply_of_configure configured
  exact ⟨level, shared, levelAt_providerLogger spared.leavesProvider ..⟩

/-- Whether a record of the provider passes depends on the name of the level that is asked for. -/
theorem passes_providerLogger_iff (spared : s.SparesProvider)
    (configured : s.configure environment now = .ok routing) (level : Level)
    (admits : String → Prop)
    (every : ∀ entry ∈ sharedLevels,
      (decide (0 < level.number) && decide (entry.2.number ≤ level.number)) = true ↔
        admits entry.1) :
    routing.passes providerLogger level = true ↔ admits (Plan.ofEnvironment environment).level := by
  obtain ⟨least, shared, counts⟩ := exists_levelAt spared configured
  rw [passes, counts]
  exact every _ shared

/-! ## Faults -/

/-- Records of the provider are forwarded once, by the handler of the service. -/
theorem forwardsAlong_providerLogger (spared : s.SparesProvider)
    (configured : s.configure environment now = .ok routing) :
    forwardsAlong (routing.chain providerLogger) = 1 := by
  obtain ⟨level, file, -, rfl⟩ := exists_apply_of_configure configured
  obtain ⟨above, chain⟩ := chain_providerLogger s (Plan.ofEnvironment environment) level file
  rw [chain]
  -- the loggers of the provider, if they are known, forward nothing and pass everything on
  have plain : ∀ logger ∈ providerLoggers.flatMap fun name => (s.loggers.lookup name).toList,
      logger = .plain := by
    intro logger mem
    obtain ⟨name, among, known⟩ := List.mem_flatMap.mp mem
    exact spared name among logger (Option.mem_toList.mp known)
  revert plain
  generalize (providerLoggers.flatMap fun name => (s.loggers.lookup name).toList) = own
  intro plain
  induction own with
  | nil => rfl
  | cons logger own ih =>
    obtain ⟨rfl, others⟩ := List.forall_mem_cons.mp plain
    show 0 + forwardsAlong (own ++ .intercepting level :: above) = 1
    rw [ih others]

/-- A record of the provider is a fault exactly when it passes and has no message. -/
theorem fault?_of_provider (spared : s.SparesProvider)
    (configured : s.configure environment now = .ok routing) {r : Record}
    (own : r.logger = providerLogger) :
    routing.fault? r = some f ↔
      routing.passes providerLogger r.level = true ∧ r.message = .error f := by
  rw [fault?_eq_some_iff, own, forwardsAlong_providerLogger spared configured]
  simp

end SignedLink.Logging.Routing
