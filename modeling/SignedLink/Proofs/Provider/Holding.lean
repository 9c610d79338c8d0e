import SignedLink.Proofs.Config.Signer
import SignedLink.Provider.Session
/-!
# SignedLink — what a provider holds

Some actions install what the provider holds from then on: an activation whose
properties give a configuration, a replacement, and the two ways of switching
off. All other actions are idle: conversions, and activations that are refused.
So after any run the provider holds what the latest installing action installed,
or what it held at first. `IsLatest` is that relation between a run and a
configuration; the provider has no other memory.

Whatever was installed was validated. The invariant `IsSound` says so, and from
it every configuration that is ever held is well formed.

* `isLatest_iff`: what is held after a run is the latest that was installed in it, and nothing else.
* `IsSound.after`: a run keeps the provider sound.
* `held_after`: what a provider holds after any run, and what the next action can change in it.
-/

namespace SignedLink

namespace Provider

/-! ## Installing and idle actions -/

/-- What an action installs, whatever was held before it. -/
inductive Action.Installs : Action → Option SignerConfiguration → Prop where
  | activate {files : FileSystem} {properties : Fields} {config : SignerConfiguration}
      (made : SignerConfiguration.ofProperties files properties = .ok config) :
      Installs (.activate files properties) (some config)
  | reconfigure (config : SignerConfiguration) : Installs (.reconfigure config) (some config)
  | deactivate : Installs .deactivate none
  | close : Installs .close none

/-- An action that installs nothing. -/
def Action.IsIdle (action : Action) : Prop :=
  ∀ held, ¬ action.Installs held

namespace Session

variable {s : Session} {action : Action} {actions : List Action}
  {held : Option SignerConfiguration}

theorem perform_of_installs (installs : action.Installs held) :
    (s.perform action).session.provider.config = held := by
  cases installs with
  | activate made => exact (activate_of_ofProperties s.provider made).2
  | reconfigure config => rfl
  | deactivate => rfl
  | close => rfl

theorem perform_of_isIdle (idle : action.IsIdle) :
    (s.perform action).session.provider = s.provider := by
  cases action with
  | activate files properties =>
    cases made : SignerConfiguration.ofProperties files properties with
    | error e => simp [perform, ofStep, activate, made]
    | ok config => exact absurd (.activate made) (idle (some config))
  | reconfigure config => exact absurd (.reconfigure config) (idle (some config))
  | deactivate => exact absurd .deactivate (idle none)
  | close => exact absurd .close (idle none)
  | convert now seconds candidate => rfl

/-- What a provider holds after an action: what the action installs, or else what was there. -/
theorem perform_cases (s : Session) (action : Action) :
    action.Installs (s.perform action).session.provider.config ∨
      action.IsIdle ∧ (s.perform action).session.provider = s.provider := by
  by_cases installs : ∃ held, action.Installs held
  · obtain ⟨held, installs⟩ := installs
    exact .inl (perform_of_installs installs ▸ installs)
  · have idle : action.IsIdle := not_exists.mp installs
    exact .inr ⟨idle, perform_of_isIdle idle⟩

/-- An activation is done exactly when it installs a configuration. -/
theorem reply_activate_eq_done_iff {files : FileSystem} {properties : Fields} :
    (s.perform (.activate files properties)).reply = .done ↔
      ∃ config, Action.Installs (.activate files properties) (some config) := by
  -- the properties decide both sides alike
  cases made : SignerConfiguration.ofProperties files properties with
  | ok config =>
    refine iff_of_true ?_ ⟨config, .activate made⟩
    simp [perform, ofStep, activate, made]
  | error e =>
    refine iff_of_false (by simp [perform, ofStep, activate, made]) ?_
    rintro ⟨config, ⟨other⟩⟩
    rw [made] at other
    cases other

/-! ## Runs -/

theorem after_append (s : Session) (first second : List Action) :
    s.after (first ++ second) = (s.after first).after second :=
  List.foldl_append ..

/-- A run of idle actions leaves the provider as it is. -/
theorem after_of_isIdle (idle : ∀ a ∈ actions, a.IsIdle) :
    (s.after actions).provider = s.provider := by
  induction actions generalizing s with
  | nil => rfl
  | cons action rest ih =>
    rw [after_cons, ih fun a mem => idle a (List.mem_cons_of_mem _ mem)]
    exact perform_of_isIdle (idle action List.mem_cons_self)

end Session

/-- What was installed last in a run, or what was there at first if nothing was installed. -/
inductive IsLatest (initial : Option SignerConfiguration) :
    List Action → Option SignerConfiguration → Prop where
  | initial {actions : List Action} (idle : ∀ a ∈ actions, a.IsIdle) :
      IsLatest initial actions initial
  | installed {action : Action} {held : Option SignerConfiguration} (before : List Action)
      {later : List Action} (installs : action.Installs held) (idle : ∀ a ∈ later, a.IsIdle) :
      IsLatest initial (before ++ action :: later) held

/-- Something was installed before a run: it is what was there at first. -/
theorem IsLatest.cons_of_installs {initial first held : Option SignerConfiguration}
    {action : Action} {rest : List Action} (latest : IsLatest first rest held)
    (installs : action.Installs first) : IsLatest initial (action :: rest) held := by
  cases latest with
  | initial idle => exact .installed [] installs idle
  | installed before later idle => exact .installed (action :: before) later idle

theorem IsLatest.cons_of_isIdle {initial held : Option SignerConfiguration} {action : Action}
    {rest : List Action} (latest : IsLatest initial rest held) (idle : action.IsIdle) :
    IsLatest initial (action :: rest) held := by
  cases latest with
  | initial others => exact .initial (List.forall_mem_cons.mpr ⟨idle, others⟩)
  | installed before later others => exact .installed (action :: before) later others

namespace Session

variable {s : Session} {actions : List Action} {held : Option SignerConfiguration}

/-- What is held after a run is the latest that was installed in it. -/
theorem isLatest_after (s : Session) (actions : List Action) :
    IsLatest s.provider.config actions (s.after actions).provider.config := by
  -- the rest of a run is a run of its own, which starts with what the first action left there
  induction actions generalizing s with
  | nil => exact .initial (by simp)
  | cons action rest ih =>
    have latest := ih (s.perform action).session
    rw [after_cons]
    rcases s.perform_cases action with installs | ⟨idle, still⟩
    · exact latest.cons_of_installs installs
    · rw [still] at latest
      exact latest.cons_of_isIdle idle

/-- A provider holds exactly the latest that was installed. -/
theorem isLatest_iff :
    IsLatest s.provider.config actions held ↔ (s.after actions).provider.config = held := by
  constructor
  · intro latest
    cases latest with
    | initial idle => rw [after_of_isIdle idle]
    | installed before installs idle =>
      -- what happened before does not matter, and nothing is installed later
      rw [after_append, after_cons, after_of_isIdle idle, perform_of_installs installs]
  · rintro rfl
    exact isLatest_after s actions

end Session

/-! ## Soundness -/

/-- Whether an action brings no configuration from outside that was not validated. -/
def Action.IsAdmissible : Action → Prop
  | .reconfigure config => config.IsValidated
  | _ => True

/-- A provider that holds no configuration, or a well-formed one. -/
def IsSound (p : Provider) : Prop :=
  ∀ config ∈ p.config, config.WellFormed

theorem isSound_of_isValidated {initial : Option SignerConfiguration}
    (validated : ∀ config ∈ initial, config.IsValidated) : IsSound ⟨initial⟩ :=
  fun config holds => (validated config holds).wellFormed

theorem Action.Installs.wellFormed {action : Action} {config : SignerConfiguration}
    (installs : action.Installs (some config)) (admissible : action.IsAdmissible) :
    config.WellFormed := by
  cases installs with
  | activate made => exact (SignerConfiguration.isValidated_of_ofProperties made).wellFormed
  | reconfigure config => exact SignerConfiguration.IsValidated.wellFormed admissible

theorem IsSound.perform {s : Session} {action : Action} (sound : s.provider.IsSound)
    (admissible : action.IsAdmissible) : (s.perform action).session.provider.IsSound := by
  intro config holds
  -- what is held was brought by the action, or it was there before
  rcases s.perform_cases action with installs | ⟨-, still⟩
  · exact (holds ▸ installs).wellFormed admissible
  · exact sound config (still ▸ holds)

/-- A run keeps the provider sound. -/
theorem IsSound.after {s : Session} {actions : List Action} (sound : s.provider.IsSound)
    (admissible : ∀ a ∈ actions, a.IsAdmissible) : (s.after actions).provider.IsSound := by
  induction actions generalizing s with
  | nil => exact sound
  | cons action rest ih =>
    obtain ⟨first, others⟩ := List.forall_mem_cons.mp admissible
    exact ih (sound.perform first) others

/-! ## Any run -/

/-- After any run of a provider that starts with no configuration or a validated one, it holds
exactly what was installed last; what it holds is well formed. A refused activation changes nothing,
and neither does a conversion; an activation that is done installs a configuration, whose least size
is that of the properties in kilobytes times 1024. -/
theorem held_after {initial : Option SignerConfiguration} {actions : List Action}
    (metrics : Metrics) (validated : ∀ config ∈ initial, config.IsValidated)
    (admissible : ∀ a ∈ actions, a.IsAdmissible) :
    let s := Session.after ⟨⟨initial⟩, metrics⟩ actions
    (∀ held, s.provider.config = held ↔ IsLatest initial actions held) ∧
    (∀ config, s.provider.config = some config → config.WellFormed) ∧
    (∀ files properties e,
      (s.perform (.activate files properties)).reply = .refused e →
        (s.perform (.activate files properties)).session = s) ∧
    (∀ now seconds candidate,
      (s.perform (.convert now seconds candidate)).session.provider = s.provider) ∧
    (∀ files properties, (s.perform (.activate files properties)).reply = .done ↔
      ∃ config, Action.Installs (.activate files properties) (some config)) ∧
    (∀ files properties config, Action.Installs (.activate files properties) (some config) →
      ∃ minSizeKb, Property.wholeNumber Property.minSize Property.defaultMinSizeKb
          (Fields.get properties Property.minSize) = .ok minSizeKb ∧
        config.minimumSizeBytes = 1024 * minSizeKb) := by
  intro s
  have sound : s.provider.IsSound := (isSound_of_isValidated validated).after admissible
  refine ⟨fun held => Session.isLatest_iff.symm, sound,
    fun files properties e => Session.perform_refused,
    fun now seconds candidate => s.perform_convert_provider now seconds candidate,
    fun files properties => Session.reply_activate_eq_done_iff, ?_⟩
  intro files properties config installs
  obtain ⟨made⟩ := installs
  exact SignerConfiguration.minimumSizeBytes_of_ofProperties made

/-- A validated configuration is replaced by another, which an activation without properties then
leaves where it is. -/
theorem held_after_refusal :
    ∃ first second : SignerConfiguration, first.IsValidated ∧ second.IsValidated ∧
      (Session.after ⟨⟨some first⟩, .empty⟩
        [.reconfigure second, .activate .empty []]).provider.config = some second := by
  have first := SignerConfiguration.isValidated_of_ofProperties
    (SignerConfiguration.ofProperties_mersenneProperties .empty (by decide : (0 : Int) ≤ 60))
  have second := SignerConfiguration.isValidated_of_ofProperties
    (SignerConfiguration.ofProperties_mersenneProperties .empty (by decide : (0 : Int) ≤ 600))
  have idle : ∀ a ∈ [Action.activate .empty []], a.IsIdle := by
    rw [List.forall_mem_singleton]
    rintro held ⟨made⟩
    -- without an address there is no configuration
    have refused : SignerConfiguration.ofProperties .empty [] =
      .error (.required Property.cloudFrontUrl) := rfl
    rw [refused] at made
    cases made
  obtain ⟨holds, -⟩ := @held_after (some _) [.reconfigure _, .activate .empty []] .empty
    (by simpa using first) (by simpa [Action.IsAdmissible] using second)
  exact ⟨_, _, first, second, (holds _).mpr (.installed [] (.reconfigure _) idle)⟩

end Provider

end SignedLink
