import UriRouting.Text

/-!
# UriRouting.Route.Options

Settings that routes and tables of routes are made with.
-/

namespace UriRouting

/-- Settings for a route. Lists without entries leave open what they constrain. -/
structure RouteOptions where
  /-- Whether case counts; it does not unless said. -/
  caseSensitive : Option Bool := none
  /-- The methods. -/
  method : List Text := []
  /-- The schemes. -/
  scheme : List Text := []
  /-- The hosts. -/
  host : List Text := []
  /-- The ports. -/
  port : List Text := []
  deriving DecidableEq, Repr

/-- Settings for a table of routes. -/
structure TableOptions where
  /-- Whether case counts for the routes that the table makes. -/
  caseSensitive : Bool := false
  deriving DecidableEq, Repr

end UriRouting
