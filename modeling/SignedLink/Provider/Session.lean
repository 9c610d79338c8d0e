import SignedLink.Provider
/-!
# SignedLink — the life of a provider

What a host does with a provider, one action after the other: it activates it,
replaces its configuration, deactivates it, and has values converted, which the
metrics count. Every action has a reply and writes records.

* `perform_refused`: an action that is refused changes nothing.
* `perform_convert_provider`: a conversion leaves the provider as it is.
-/

namespace SignedLink.Provider

/-- What a host can do with a provider. -/
inductive Action where
  | activate (files : FileSystem) (properties : Fields)
  | reconfigure (config : SignerConfiguration)
  | deactivate
  | close
  /-- the conversion of a value at a time, with the seconds that the signing takes -/
  | convert (now : Value) (seconds : Binary64) (candidate : Candidate)

/-- What comes back. -/
inductive Reply where
  | done
  | refused (error : ConfigError)
  | converted (uri : Option String)

/-- A provider and the metrics of its process. -/
structure Session where
  provider : Provider
  metrics : Metrics

/-- What an action did. -/
structure Turn where
  session : Session
  reply : Reply
  records : List Logging.Record

namespace Session

/-- A provider with metrics that have counted nothing. -/
def start (provider : Provider) : Session :=
  ⟨provider, .empty⟩

/-- The turn of a step in the life of the provider. -/
def ofStep (s : Session) (step : Step) : Turn where
  session := { s with provider := step.provider }
  reply := match step.result with
    | .ok () => .done
    | .error e => .refused e
  records := step.records

/-- Performs an action. -/
def perform (s : Session) : Action → Turn
  | .activate files properties => s.ofStep (s.provider.activate files properties)
  | .reconfigure config => ⟨{ s with provider := s.provider.reconfigure config }, .done, []⟩
  | .deactivate => s.ofStep s.provider.deactivate
  | .close => s.ofStep s.provider.close
  | .convert now seconds candidate =>
    let conversion := s.provider.convert now candidate
    ⟨{ s with metrics := conversion.account seconds s.metrics }, .converted conversion.uri,
      conversion.records⟩

/-- Performs actions in order. -/
def run (s : Session) : List Action → List Turn
  | [] => []
  | action :: rest =>
    let turn := s.perform action
    turn :: turn.session.run rest

/-- The session after actions. -/
def after (s : Session) (actions : List Action) : Session :=
  actions.foldl (fun s action => (s.perform action).session) s

/-! ## Elementary facts -/

/-- An action that is refused changes nothing. -/
theorem perform_refused {s : Session} {action : Action} {e : ConfigError}
    (h : (s.perform action).reply = .refused e) : (s.perform action).session = s := by
  cases action with
  | activate files properties =>
    simp only [perform, ofStep] at h ⊢
    cases made : (s.provider.activate files properties).result with
    | error e => rw [activate_error made]
    | ok _ => simp [made] at h
  | reconfigure config => simp [perform] at h
  | deactivate => simp [perform, ofStep, deactivate] at h
  | close => simp [perform, ofStep, close, deactivate] at h
  | convert now seconds candidate => simp [perform] at h

/-- A conversion leaves the provider as it is. -/
theorem perform_convert_provider (s : Session) (now : Value) (seconds : Binary64)
    (candidate : Candidate) :
    (s.perform (.convert now seconds candidate)).session.provider = s.provider := rfl

/-- The session after actions is the one after the rest of them, from the session after the
first. -/
theorem after_cons (s : Session) (action : Action) (rest : List Action) :
    s.after (action :: rest) = (s.perform action).session.after rest := rfl

end Session

end SignedLink.Provider
