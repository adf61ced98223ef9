import UriRouting.Template.Piece
import UriRouting.ValueRule.Basic

/-!
# UriRouting.Route.Error

Why a route or a table of routes refuses an operation, and the sentences that say so.
-/

namespace UriRouting

/-- Why an operation on routes is refused. -/
inductive RoutingError where
  /-- A route is added to a sealed router. -/
  | addWhileSealed (path : Text)
  /-- The routes of a sealed router are changed. -/
  | configureWhileSealed
  /-- The snapshot of a router that is not sealed is asked for. -/
  | notSealed
  /-- A text names no method. -/
  | unsupportedMethod (method : Text)
  /-- A route is declared for no method. -/
  | emptyMethods (path : Text)
  /-- A template is refused. -/
  | template (error : Template.TemplateError)
  /-- A rule for values is refused. -/
  | rule (error : RuleError)
  deriving DecidableEq, Repr

/-- The error as a sentence. -/
def RoutingError.message : RoutingError → String
  | addWhileSealed path =>
    let path := String.ofList path
    s!"router is sealed; cannot add route '{path}'"
  | configureWhileSealed => "router is sealed; route table can no longer be configured"
  | notSealed => "router is not sealed; readonly snapshot is unavailable"
  | unsupportedMethod method =>
    let method := String.ofList method
    s!"http method '{method}' is not supported"
  | emptyMethods path =>
    let path := String.ofList path
    s!"route for '{path}' must declare at least one http method"
  | template error => error.message
  | rule error => error.message

end UriRouting
