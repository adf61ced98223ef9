import UriRouting.Table.Basic

/-!
# UriRouting.Table.Context

The current match of a request in progress. It is set by dispatching or by hand, and lasts
until it is forgotten, taken, or replaced.
-/

namespace UriRouting

/-- The holder of the current match. -/
structure Context (γ : Type) where
  /-- The current match. -/
  current : Option (RouteMatch γ) := none

namespace Context

variable {γ : Type}

/-- Makes the first match of a table the current one, or none if there is none. -/
def dispatch (_ : Context γ) (table : Table γ) (request : Request) : Context γ :=
  { current := table.dispatch request }

/-- Makes a match the current one. -/
def set (_ : Context γ) (m : RouteMatch γ) : Context γ :=
  { current := some m }

/-- Forgets the current match. -/
def forget (_ : Context γ) : Context γ :=
  {}

/-- The current match, and the holder without it. -/
def take (c : Context γ) : Option (RouteMatch γ) × Context γ :=
  (c.current, {})

end Context

end UriRouting
