import UriRouting.Table.Basic

/-!
# UriRouting.Table.Registry

Making and registering routes. A registry is a table together with the supply of
identities. Each operation gives its outcome and the registry after it, since an identity
is used up even where the route turns out not to be usable.

* `Registry.newRoute` makes a route on its own.
* `Registry.http` makes a route for some methods and puts it at the end of the table.
* `Scope` holds what a group gives to the routes made in it: a base path and defaults.
-/

namespace UriRouting

/-- What a group gives to the routes made in it. -/
structure Scope where
  /-- The base path. -/
  base : Text
  /-- Whether case counts; by default as in the table. -/
  caseSensitive : Option Bool := none
  /-- The schemes. -/
  scheme : List Text := []
  /-- The hosts. -/
  host : List Text := []
  /-- The ports. -/
  port : List Text := []
  deriving DecidableEq, Repr

/-- The scope of a new group. -/
def Scope.new (base : Text) : Scope :=
  { base := Uri.normalizeBase base }

/-- A table and the number of the next route. -/
structure Registry (γ : Type) where
  /-- The table. -/
  table : Table γ
  /-- The number of the next route. -/
  next : Nat := 1

namespace Registry

variable {γ : Type}

/-- A registry without routes. -/
def empty (options : TableOptions) : Registry γ :=
  { table := .empty options }

/-- The outcome of making a route, whose identity is used up if it was made. -/
def mint (reg : Registry γ) (make : RouteId → Except RoutingError (Route γ)) :
    Except RoutingError (Route γ) × Registry γ :=
  match make ⟨reg.next⟩ with
  | .ok route => (.ok route, { reg with next := reg.next + 1 })
  | .error e => (.error e, reg)

/-- Makes a route on its own. -/
def newRoute (reg : Registry γ) (uri : Text) (callback : γ) (options : Option RouteOptions) :
    Except RoutingError (Route γ) × Registry γ :=
  reg.mint fun id => match options with
    | none => Route.new id uri callback
    | some options => Route.withOptions id uri callback options

/-- Puts a route that was made on its own at the end of the table. -/
def add (reg : Registry γ) (route : Route γ) : Except RoutingError RouteId × Registry γ :=
  match reg.table.add route with
  | .ok table => (.ok route.id, { reg with table := table })
  | .error e => (.error e, reg)

/-- A route for some methods, as the scope and the table would have it. -/
def prepare (options : TableOptions) (scope : Option Scope) (methods : Option (List Method))
    (route : Route γ) : Route γ :=
  let route := route.withCaseSensitive ((scope.bind (·.caseSensitive)).getD options.caseSensitive)
  let route := match methods with
    | some methods => route.withMethod (methods.map Method.token)
    | none => route
  match scope with
  | some s => ((route.withScheme s.scheme).withHost s.host).withPort s.port
  | none => route

/-- Makes a route for some methods and puts it at the end of the table. With a scope its
URI is below the base path of the scope. -/
def insert (reg : Registry γ) (scope : Option Scope) (methods : Option (List Method))
    (uri : Text) (callback : γ) : Except RoutingError (Route γ) × Registry γ :=
  let uri := match scope with
    | some s => Uri.join s.base uri
    | none => Uri.normalize uri
  match reg.mint fun id => Route.new id uri callback with
  | (.error e, reg) => (.error e, reg)
  | (.ok route, reg) =>
    let route := prepare reg.table.options scope methods route
    match route.compile with
    | .error e => (.error e, reg)
    | .ok _ => (.ok route.remember, { reg with table := reg.table.append route.remember })

/-- Makes a route for the methods with some names, under a scope. -/
def httpIn (reg : Registry γ) (scope : Option Scope) (tokens : List Text) (uri : Text)
    (callback : γ) : Except RoutingError (Route γ) × Registry γ :=
  match Method.parseList tokens uri with
  | .error e => (.error e, reg)
  | .ok methods => reg.insert scope methods uri callback

/-- Makes a route for the methods with some names. -/
def http (reg : Registry γ) (tokens : List Text) (uri : Text) (callback : γ) :
    Except RoutingError (Route γ) × Registry γ :=
  reg.httpIn none tokens uri callback

/-- Makes a route for a single method. -/
def verb (reg : Registry γ) (method : Method) (uri : Text) (callback : γ) :
    Except RoutingError (Route γ) × Registry γ :=
  reg.http [method.token] uri callback

/-- The registry with a route of the table replaced. -/
def replace (reg : Registry γ) (id : RouteId) (route : Route γ) : Registry γ :=
  { reg with table := reg.table.replace id route }

end Registry

end UriRouting
