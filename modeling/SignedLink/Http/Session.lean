import SignedLink.Http.Service
/-!
# SignedLink — the life of a service

A service is started, meets requests and what its host does to it, and is
stopped. When the start is refused nothing else happens.
-/

namespace SignedLink.Http.Service

/-- What happens to a running service. -/
inductive Event where
  /-- a request at a time -/
  | request (now : Value) (request : Request)
  /-- the host takes the provider away from conversions -/
  | detach
  /-- the host deactivates the provider -/
  | deactivate

/-- An event that is a request. -/
def Event.IsRequest : Event → Prop
  | .request .. => True
  | _ => False

/-- Lets an event happen; only a request has an answer. -/
def handle (service : Service) : Event → Step (Option Answer)
  | .request now request =>
    let step := service.respond now request
    ⟨step.service, some step.result, step.records⟩
  | .detach => ⟨service.detach, none, []⟩
  | .deactivate =>
    let step := service.deactivate
    ⟨step.service, none, step.records⟩

/-- Lets events happen in order. -/
def run (service : Service) : List Event → List (Step (Option Answer))
  | [] => []
  | event :: rest =>
    let step := service.handle event
    step :: step.service.run rest

/-- The service after events. -/
def after (service : Service) (events : List Event) : Service :=
  events.foldl (fun service event => (service.handle event).service) service

/-! ## Elementary facts -/

/-- The service after events is the one after the rest of them, from the service after the
first. -/
theorem after_cons (service : Service) (event : Event) (rest : List Event) :
    service.after (event :: rest) = (service.handle event).service.after rest := rfl

end SignedLink.Http.Service
