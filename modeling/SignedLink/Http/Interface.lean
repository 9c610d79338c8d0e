import SignedLink.Config.Settings
import SignedLink.Http.Message
import SignedLink.Http.Template
/-!
# SignedLink — the interface

The paths of the service and the one method that each of them takes (pages
take `HEAD` too). The path in front of the conversions is a template, like
every other. A path with slashes too many at its end is sent to the path
without them.

* `destination_of_findRoute?`: a request is given to a route that takes its path and method.
-/

namespace SignedLink.Http

/-- What a path leads to. -/
inductive Endpoint where
  | description
  | page
  | convert
  | redirect
  | health
  | readiness
  | metrics
deriving DecidableEq

/-- A path with its methods. -/
structure Route where
  endpoint : Endpoint
  template : Template
  methods : List String
  /-- whether the description of the interface lists it -/
  listed : Bool

/-! ## Routes -/

/-- The name under which the path of a redirect holds the content identity. -/
def identityName : List Char := "content_identity".toList

/-- The path of conversions by document, below the path of this version. -/
def convertPath (apiPath : List Char) : List Char :=
  apiPath ++ "/uri".toList

/-- The path of conversions by path, below the path of this version. -/
def redirectPath (apiPath : List Char) : List Char :=
  apiPath ++ "/binaries/\x7b".toList ++ identityName ++ ['\x7d']

/-- The pages about the interface. -/
def pageRoutes : List Route :=
  let page (endpoint : Endpoint) (path : String) : Route :=
    ⟨endpoint, .literal path.toList, ["GET", "HEAD"], false⟩
  [page .description "/openapi.json", page .page "/docs", page .page "/docs/oauth2-redirect",
    page .page "/redoc"]

/-- What tells about the service itself. -/
def serviceRoutes : List Route :=
  [⟨.health, .literal "/healthz".toList, ["GET"], true⟩,
    ⟨.readiness, .literal "/readyz".toList, ["GET"], true⟩,
    ⟨.metrics, .literal "/metrics".toList, ["GET"], false⟩]

/-- Why a path cannot stand in front of the conversions. -/
inductive RouteFlaw where
  | template (flaw : Template.Flaw)
  /-- a name of the template that is also the name of the document -/
  | documentName
  /-- a name of the template that is also that of a query parameter -/
  | queryName (name : String)
deriving DecidableEq

/-- The message of a flaw. -/
def RouteFlaw.message : RouteFlaw → String
  | .template flaw => flaw.message
  | .documentName => "Path params must be of one of the supported types"
  | .queryName name => "Cannot use `Query` for path param '" ++ name ++ "'"

/-- The route of conversions by document. -/
def convertRoute (apiPath : List Char) : Except RouteFlaw Route :=
  match Template.ofPath (convertPath apiPath) with
  | .error flaw => .error (.template flaw)
  | .ok template =>
    if template.shownNames.contains "payload".toList then .error .documentName
    else .ok ⟨.convert, template, ["POST"], true⟩

/-- The route of conversions by path. -/
def redirectRoute (apiPath : List Char) : Except RouteFlaw Route :=
  match Template.ofPath (redirectPath apiPath) with
  | .error flaw => .error (.template flaw)
  | .ok template =>
    if template.shownNames.contains "length".toList then .error (.queryName "length")
    else .ok ⟨.redirect, template, ["GET"], true⟩

/-- The conversions, below the path of this version. -/
def conversionRoutes (apiPath : List Char) : Except RouteFlaw (List Route) :=
  match convertRoute apiPath with
  | .error flaw => .error flaw
  | .ok convert => (redirectRoute apiPath).map fun redirect => [convert, redirect]

/-- All routes, in the order in which they are tried. -/
def routes (settings : Settings) : Except RouteFlaw (List Route) :=
  (conversionRoutes settings.apiPath.toList).map fun conversions =>
    (if settings.docsEnabled then pageRoutes else []) ++ conversions ++ serviceRoutes

/-! ## Finding a route -/

/-- Where a request goes. -/
inductive Destination where
  | endpoint (endpoint : Endpoint) (bindings : Bindings)
  /-- the path is there, but not for this method -/
  | otherMethods (methods : List String)
  /-- the path is there without the slashes at its end -/
  | moved (path : List Char)
  | nowhere
deriving DecidableEq

/-- The first route that has the path and takes the method. -/
def findRoute? (routes : List Route) (method : String) (path : List Char) :
    Option (Endpoint × Bindings) :=
  routes.findSome? fun route =>
    (route.template.match? path).bind fun bindings =>
      if route.methods.contains method then some (route.endpoint, bindings) else none

/-- The first route that has the path. -/
def findPath? (routes : List Route) (path : List Char) : Option Route :=
  routes.find? fun route => (route.template.match? path).isSome

/-- The path with its slashes at the end dropped, or with one added. -/
def otherPath (path : List Char) : List Char :=
  if path.getLast? == some '/' then Text.dropTail (· == '/') path else path ++ ['/']

/-- Where a request goes. -/
def destination (routes : List Route) (method : String) (path : List Char) : Destination :=
  match findRoute? routes method path with
  | some (endpoint, bindings) => .endpoint endpoint bindings
  | none =>
    match findPath? routes path with
    | some route => .otherMethods route.methods
    | none =>
      if path != ['/'] && (findPath? routes (otherPath path)).isSome then .moved (otherPath path)
      else .nowhere

/-- The paths of the description with their methods, in lower case. -/
def listedPaths (routes : List Route) : List (String × List String) :=
  (routes.filter (·.listed)).map fun route =>
    (.ofList route.template.shown, route.methods.map String.toLower)

/-! ## Elementary facts -/

/-- A request is given to a route that takes its path and method when there is one. -/
theorem destination_of_findRoute? {routes : List Route} {method : String} {path : List Char}
    {endpoint : Endpoint} {bindings : Bindings}
    (h : findRoute? routes method path = some (endpoint, bindings)) :
    destination routes method path = .endpoint endpoint bindings := by
  simp [destination, h]

end SignedLink.Http
