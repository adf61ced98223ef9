import UriRouting.Table.Registry

/-!
# UriRouting.Table.Group

Groups of routes. In a group, routes are made below a base path and with the defaults set
so far. What is done in a group is a function on groups, whose outcome is handed on.

Groups do not add up: a group within a group has its own base path and defaults only, and
when it has ended, so have those of the group around it (`Group.group`).
-/

namespace UriRouting

/-- A registry as seen from within a group. -/
structure Group (γ : Type) where
  /-- The registry. -/
  registry : Registry γ
  /-- The base path and the defaults, while they last. -/
  scope : Option Scope

/-- Does something in a group below a base path. -/
def Registry.group {γ ρ : Type} (reg : Registry γ) (base : Text) (body : Group γ → ρ × Group γ) :
    ρ × Registry γ :=
  let (outcome, g) := body { registry := reg, scope := some (.new base) }
  (outcome, g.registry)

namespace Group

variable {γ ρ : Type}

/-- The base path. -/
def base? (g : Group γ) : Option Text :=
  g.scope.map (·.base)

/-- The table. -/
def table (g : Group γ) : Table γ :=
  g.registry.table

/-- The group with or without regard to case for the routes to come. -/
def withCaseSensitive (g : Group γ) (on : Bool) : Group γ :=
  { g with scope := g.scope.map fun s => { s with caseSensitive := some on } }

/-- The group with schemes for the routes to come. -/
def withScheme (g : Group γ) (values : List Text) : Group γ :=
  { g with scope := g.scope.map fun s => { s with scheme := values } }

/-- The group with hosts for the routes to come. -/
def withHost (g : Group γ) (values : List Text) : Group γ :=
  { g with scope := g.scope.map fun s => { s with host := values } }

/-- The group with ports for the routes to come. -/
def withPort (g : Group γ) (values : List Text) : Group γ :=
  { g with scope := g.scope.map fun s => { s with port := values } }

/-- Puts a route that was made on its own at the end of the table, as it is. -/
def add (g : Group γ) (route : Route γ) : Except RoutingError RouteId × Group γ :=
  let (outcome, reg) := g.registry.add route
  (outcome, { g with registry := reg })

/-- Makes a route for the methods with some names in the group. -/
def http (g : Group γ) (tokens : List Text) (uri : Text) (callback : γ) :
    Except RoutingError (Route γ) × Group γ :=
  let (outcome, reg) := g.registry.httpIn g.scope tokens uri callback
  (outcome, { g with registry := reg })

/-- Makes a route for a single method in the group. -/
def verb (g : Group γ) (method : Method) (uri : Text) (callback : γ) :
    Except RoutingError (Route γ) × Group γ :=
  g.http [method.token] uri callback

/-- Does something in a group within the group. Whatever its outcome, the base path and the
defaults of the group around it end with it. -/
def group (g : Group γ) (base : Text) (body : Group γ → ρ × Group γ) : ρ × Group γ :=
  let (outcome, reg) := g.registry.group base body
  (outcome, { registry := reg, scope := none })

end Group

end UriRouting
