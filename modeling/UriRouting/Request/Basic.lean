import UriRouting.Text

/-!
# UriRouting.Request.Basic

What a route looks at in a request: its path, and its method, host, scheme and port as far
as they are known.
-/

namespace UriRouting

/-- A request as routes see it. -/
structure Request where
  /-- The path. -/
  path : Text
  /-- The method. -/
  method : Option Text := none
  /-- The host. -/
  host : Option Text := none
  /-- The scheme. -/
  scheme : Option Text := none
  /-- The port. -/
  port : Option Text := none
  deriving DecidableEq, Repr

end UriRouting
