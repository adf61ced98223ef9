import UriRouting.Request.Method
import UriRouting.Route.Basic

/-!
# UriRouting.Table.Basic

Tables of routes. Routes are tried in the order in which they were added, and the first
that matches a request is the one it is dispatched to (`Table.dispatch`). A route is added
only if its template can be made ready for matching, and only once (`Table.add`).
-/

namespace UriRouting

/-- Routes in the order in which they are tried, and the settings they are made with. -/
structure Table (γ : Type) where
  /-- The routes. -/
  routes : List (Route γ) := []
  /-- The settings for routes that the table makes. -/
  options : TableOptions := {}

namespace Table

variable {γ : Type}

/-- A table without routes. -/
def empty (options : TableOptions) : Table γ :=
  { options := options }

/-- The number of routes. -/
def size (t : Table γ) : Nat :=
  t.routes.length

/-- Whether the table has no routes. -/
def isEmpty (t : Table γ) : Bool :=
  t.routes.isEmpty

/-- Whether a route is in the table. -/
def contains (t : Table γ) (id : RouteId) : Bool :=
  t.routes.any (·.id = id)

/-- The route with an identity. -/
def route? (t : Table γ) (id : RouteId) : Option (Route γ) :=
  t.routes.find? (·.id = id)

/-- Routes with the first of an identity replaced. -/
def replaceFirst (id : RouteId) (route : Route γ) : List (Route γ) → List (Route γ)
  | [] => []
  | r :: routes => if r.id = id then route :: routes else r :: replaceFirst id route routes

/-- The table with the route of an identity replaced. -/
def replace (t : Table γ) (id : RouteId) (route : Route γ) : Table γ :=
  { t with routes := replaceFirst id route t.routes }

/-- The table with a route at its end. -/
def append (t : Table γ) (route : Route γ) : Table γ :=
  { t with routes := t.routes ++ [route] }

/-- The table with a route, which is at its end unless one of its identity is there. -/
def add (t : Table γ) (route : Route γ) : Except RoutingError (Table γ) :=
  if t.contains route.id then .ok t
  else do
    let _ ← route.compile
    return t.append route.remember

/-- The match of the first route that matches a request. -/
def dispatch (t : Table γ) (request : Request) : Option (RouteMatch γ) :=
  t.routes.findSome? (·.matched request)

/-- Routes after a request was dispatched to them: those up to the first that matches were
matched with it. -/
def routesAfter (request : Request) : List (Route γ) → List (Route γ)
  | [] => []
  | route :: routes =>
    route.afterMatch request ::
      if (route.tryMatch request).isSome then routes else routesAfter request routes

/-- The table after a request was dispatched. -/
def afterDispatch (t : Table γ) (request : Request) : Table γ :=
  { t with routes := routesAfter request t.routes }

end Table

/-! ### Methods of a route -/

/-- The methods that some texts name, each once, in the order of its first mention. -/
def Method.parseAll (seen : List Method) : List Text → Except RoutingError (List Method)
  | [] => .ok seen
  | token :: tokens =>
    match Method.parse? token with
    | none => .error (.unsupportedMethod token)
    | some m => parseAll (if seen.elem m then seen else seen ++ [m]) tokens

/-- The methods that a route is declared for; `none` stands for all methods. -/
def Method.parseList (tokens : List Text) (uri : Text) :
    Except RoutingError (Option (List Method)) := do
  let methods ← Method.parseAll [] tokens
  if methods.isEmpty then throw (.emptyMethods uri)
  return if methods.elem .any then none else some methods

end UriRouting
