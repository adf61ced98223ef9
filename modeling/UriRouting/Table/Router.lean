import UriRouting.Table.Registry

/-!
# UriRouting.Table.Router

A router is a registry that can be sealed. Sealing makes every template ready for matching
and takes a snapshot of the table, which from then on answers all requests; routes are
neither added nor changed any more.
-/

namespace UriRouting

/-- A registry, and the table at the time of sealing once it is sealed. -/
structure Router (γ : Type) where
  /-- The registry. -/
  registry : Registry γ
  /-- The table at the time of sealing. -/
  snapshot : Option (Table γ) := none

namespace Router

variable {γ ρ : Type}

/-- A router without routes. -/
def empty (options : TableOptions) : Router γ :=
  { registry := .empty options }

/-- Whether the router is sealed. -/
def isSealed (r : Router γ) : Bool :=
  r.snapshot.isSome

/-- Puts a route at the end of the table, unless the router is sealed. -/
def add (r : Router γ) (route : Route γ) : Except RoutingError RouteId × Router γ :=
  if r.isSealed then (.error (.addWhileSealed route.uri), r)
  else
    let (outcome, reg) := r.registry.add route
    (outcome, { r with registry := reg })

/-- Does something with the registry, unless the router is sealed. -/
def configure (r : Router γ) (body : Registry γ → ρ × Registry γ) :
    Except RoutingError ρ × Router γ :=
  if r.isSealed then (.error .configureWhileSealed, r)
  else
    let (outcome, reg) := body r.registry
    (.ok outcome, { r with registry := reg })

/-- Makes the templates of routes ready for matching, one after another. The first one that
cannot be made ready ends it; the routes before it keep what was made of theirs. -/
def compileRoutes : List (Route γ) → Except RoutingError Unit × List (Route γ)
  | [] => (.ok (), [])
  | route :: routes =>
    match route.compile with
    | .error e => (.error e, route :: routes)
    | .ok _ =>
      let (outcome, routes) := compileRoutes routes
      (outcome, route.remember :: routes)

/-- Seals the router. Its table becomes the snapshot, and an empty one takes its place. A
sealed router stays as it is, and one with a route whose template cannot be made ready stays
unsealed. -/
def sealRoutes (r : Router γ) : Except RoutingError Unit × Router γ :=
  if r.isSealed then (.ok (), r)
  else
    let (outcome, routes) := compileRoutes r.registry.table.routes
    let table := { r.registry.table with routes := routes }
    match outcome with
    | .error e => (.error e, { r with registry := { r.registry with table := table } })
    | .ok () =>
      (.ok (), { registry := { r.registry with table := {} }, snapshot := some table })

/-- The snapshot of a sealed router. -/
def readonly (r : Router γ) : Except RoutingError (Table γ) :=
  match r.snapshot with
  | some table => .ok table
  | none => .error .notSealed

/-- The table that answers requests. -/
def activeTable (r : Router γ) : Table γ :=
  r.snapshot.getD r.registry.table

/-- The match of the first route that matches a request. -/
def dispatch (r : Router γ) (request : Request) : Option (RouteMatch γ) :=
  r.activeTable.dispatch request

/-- The router after a request was dispatched. -/
def afterDispatch (r : Router γ) (request : Request) : Router γ :=
  match r.snapshot with
  | some table => { r with snapshot := some (table.afterDispatch request) }
  | none =>
    { r with registry := { r.registry with table := r.registry.table.afterDispatch request } }

end Router

end UriRouting
