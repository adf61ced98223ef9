import UriRouting.Request.Constraints
import UriRouting.Route.Error
import UriRouting.Route.Options
import UriRouting.Route.Parameters
import UriRouting.Template.Compiled
import UriRouting.Uri.Path
import UriRouting.ValueRule.RuleSet

/-!
# UriRouting.Route.Basic

Routes: a URI template with constraints on the request and rules for the values of its
variables, and a callback, which is only carried along.

* `Route.new` makes a route, the functions after it change one. A change that is refused
  gives no route, so that the old one stays in use.
* `Route.compile` makes the template ready for matching. A route keeps the outcome
  (`Route.remember`) until a change of the template, of the regard to case, or of the
  variables that take every text.
* `Route.tryMatch` matches a request and gives the values of the variables;
  `Route.afterMatch` is the route with what it keeps from then on.
-/

namespace UriRouting

/-- The identity of a route. Copies of a route share it. -/
structure RouteId where
  /-- The number of the route. -/
  number : Nat
  deriving DecidableEq, Repr

/-- A route with a callback of type `γ`. -/
structure Route (γ : Type) where
  /-- The identity. -/
  id : RouteId
  /-- The template, in normal form. -/
  uri : Text
  /-- The pieces of the template. -/
  pieces : List Template.Piece
  /-- The callback. -/
  callback : γ
  /-- Whether case counts. -/
  caseSensitive : Bool := false
  /-- What is demanded of the request apart from its path. -/
  constraints : Constraints := {}
  /-- The names of the variables that take every text. -/
  anything : List Text := []
  /-- The rules for values. -/
  rules : RuleSet := {}
  /-- The template ready for matching, if it is known. -/
  compiled : Option Template.Compiled := none

namespace Route

variable {γ : Type}

/-- The pieces of a URI in normal form. -/
def scanUri (uri : Text) : Except RoutingError (List Template.Piece) :=
  (Template.scan uri).mapError .template

/-! ### Making and changing routes -/

/-- A route with the given identity. -/
def new (id : RouteId) (uri : Text) (callback : γ) : Except RoutingError (Route γ) := do
  let uri := Uri.normalize uri
  return { id := id, uri := uri, pieces := ← scanUri uri, callback := callback }

/-- The slots of the template with their places. -/
def markers (r : Route γ) : List Template.Marker :=
  Template.Marker.locate 0 r.pieces

/-- The route without what is known of its template. -/
def forget (r : Route γ) : Route γ :=
  { r with compiled := none }

/-- The route with another template. -/
def withUri (r : Route γ) (uri : Text) : Except RoutingError (Route γ) := do
  let uri := Uri.normalize uri
  return { r with uri := uri, pieces := ← scanUri uri }.forget

/-- The route with another callback. -/
def withCallback (r : Route γ) (callback : γ) : Route γ :=
  { r with callback := callback }

/-- The route with or without regard to case. -/
def withCaseSensitive (r : Route γ) (on : Bool) : Route γ :=
  if r.caseSensitive = on then r else { r with caseSensitive := on }.forget

/-- The route for other methods. -/
def withMethod (r : Route γ) (values : List Text) : Route γ :=
  { r with constraints := r.constraints.withMethod values }

/-- The route for other schemes. -/
def withScheme (r : Route γ) (values : List Text) : Route γ :=
  { r with constraints := r.constraints.withScheme values }

/-- The route for other hosts. -/
def withHost (r : Route γ) (values : List Text) : Route γ :=
  { r with constraints := r.constraints.withHost values }

/-- The route for other ports. -/
def withPort (r : Route γ) (values : List Text) : Route γ :=
  { r with constraints := r.constraints.withPort values }

/-- The route with a variable that takes every text. -/
def withAnything (r : Route γ) (key : Text) : Except RoutingError (Route γ) :=
  if key.isEmpty then .error (.rule .emptyKey)
  else if r.anything.elem key then .ok r
  else .ok { r with anything := r.anything ++ [key] }.forget

/-- The route with a rule for the values of a variable. -/
def withRule (r : Route γ) (key : Text) (rule : ValueRule) : Except RoutingError (Route γ) := do
  return { r with rules := ← (r.rules.add key rule).mapError .rule }

/-- The route with an expression for the values of a variable. The name of the variable is
looked at first. -/
def withRegex (r : Route γ) (key raw : Text) : Except RoutingError (Route γ) := do
  if key.isEmpty then throw (.rule .emptyKey)
  r.withRule key (.regex (← (CustomRegex.build key raw).mapError .rule))

/-- A route made with settings. -/
def withOptions (id : RouteId) (uri : Text) (callback : γ) (options : RouteOptions) :
    Except RoutingError (Route γ) := do
  let r ← new id uri callback
  let r := match options.caseSensitive with
    | some on => r.withCaseSensitive on
    | none => r
  return (((r.withMethod options.method).withScheme options.scheme).withHost
    options.host).withPort options.port

/-! ### Matching -/

/-- The template ready for matching. -/
def compile (r : Route γ) : Except RoutingError Template.Compiled :=
  match r.compiled with
  | some compiled => .ok compiled
  | none =>
    (Template.compilePieces r.uri r.pieces r.caseSensitive r.anything).mapError .template

/-- The route with what can be known of its template. -/
def remember (r : Route γ) : Route γ :=
  { r with compiled := r.compile.toOption }

/-- The parameters for the values of variables, if each value obeys the rules for it and
each variable without one may be left out. -/
def readParameters (r : Route γ) :
    List (Template.Variable × Option Text) → Option (List (Text × Option Text))
  | [] => some []
  | (v, some value) :: captures =>
    if r.rules.accepts v.name value r.caseSensitive then
      (r.readParameters captures).map ((v.name, some value) :: ·)
    else none
  | (v, none) :: captures =>
    if v.optional then (r.readParameters captures).map ((v.name, none) :: ·) else none

/-- The parameters of a request that the route matches: its constraints, its template and
its rules have to admit it. -/
def tryMatch (r : Route γ) (request : Request) : Option Parameters :=
  if r.constraints.admits request then
    r.compile.toOption.bind fun compiled =>
      (compiled.captures (Uri.normalize request.path)).bind fun captures =>
        (r.readParameters captures).map (⟨·⟩)
  else none

/-- The route after a request was matched with it. Its template was looked at, unless the
constraints refused the request before. -/
def afterMatch (r : Route γ) (request : Request) : Route γ :=
  if r.constraints.admits request then r.remember else r

end Route

/-- A route together with the parameters of a request. -/
structure RouteMatch (γ : Type) where
  /-- The route. -/
  route : Route γ
  /-- The parameters. -/
  parameters : Parameters := {}

/-- The match of a route with a request. -/
def Route.matched {γ : Type} (r : Route γ) (request : Request) : Option (RouteMatch γ) :=
  (r.tryMatch request).map (⟨r, ·⟩)

end UriRouting
