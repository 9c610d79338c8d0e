import SignedLink.Logging.Routing
import SignedLink.Provider
/-!
# SignedLink — a provider with routed records

A record is put together while it is delivered. So a record that cannot be put
together ends what wrote it with a fault, unless the routing drops the record
before. An activation tells the properties before it looks at them, and what it
tells afterwards can always be told: a fault leaves the provider as it was. A
conversion writes its record at its end.

* `activateRouted`, `convertRouted`: both with the deliveries of their records.
-/

namespace SignedLink.Provider

/-- An activation whose records go through a routing: the step, and what the sinks get. -/
def activateRouted (p : Provider) (routing : Logging.Routing) (origin : Logging.Origin)
    (files : FileSystem) (properties : Fields) : Except Fault (Step × List Logging.Delivery) :=
  let step := p.activate files properties
  (routing.deliverAll origin step.records).map fun deliveries => (step, deliveries)

/-- A conversion whose records go through a routing: the address, if there is one, and what the
sinks get. -/
def convertRouted (p : Provider) (routing : Logging.Routing) (origin : Logging.Origin) (now : Value)
    (candidate : Candidate) : Except Fault (Option String × List Logging.Delivery) :=
  let conversion := p.convert now candidate
  (routing.deliverAll origin conversion.records).map fun deliveries => (conversion.uri, deliveries)

end SignedLink.Provider
