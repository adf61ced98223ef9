import UriRouting.Request.Basic

/-!
# UriRouting.Request.Constraints

The methods, schemes, hosts and ports that a route is for. Each is a list of permitted
values, or open. Values are compared without white space around them and without regard
to the case of letters of ASCII: methods are kept in capitals, the rest in small letters.
-/

namespace UriRouting

/-- The permitted values of one kind; `none` permits all requests. -/
abbrev AllowList := Option (List Text)

namespace AllowList

/-- The list of the values that are not blank, in one case. Without any it is open. -/
def ofValues (fold : Text → Text) (values : List Text) : AllowList :=
  let kept := (values.map Text.trim).filter (!·.isEmpty)
  if kept.isEmpty then none else some (kept.map fold)

/-- Whether a request with a value, or without, is permitted. -/
def admits (fold : Text → Text) : AllowList → Option Text → Bool
  | none, _ => true
  | some _, none => false
  | some list, some value => list.elem (fold value.trim)

end AllowList

/-- What a route demands of a request apart from its path. -/
structure Constraints where
  /-- The methods. -/
  method : AllowList := none
  /-- The schemes. -/
  scheme : AllowList := none
  /-- The hosts. -/
  host : AllowList := none
  /-- The ports. -/
  port : AllowList := none
  deriving DecidableEq, Repr

namespace Constraints

/-- The constraints with other methods. -/
def withMethod (c : Constraints) (values : List Text) : Constraints :=
  { c with method := .ofValues Text.upper values }

/-- The constraints with other schemes. -/
def withScheme (c : Constraints) (values : List Text) : Constraints :=
  { c with scheme := .ofValues Text.lower values }

/-- The constraints with other hosts. -/
def withHost (c : Constraints) (values : List Text) : Constraints :=
  { c with host := .ofValues Text.lower values }

/-- The constraints with other ports. -/
def withPort (c : Constraints) (values : List Text) : Constraints :=
  { c with port := .ofValues Text.lower values }

/-- Whether every request is permitted. -/
def isOpen (c : Constraints) : Bool :=
  c.method.isNone && c.scheme.isNone && c.host.isNone && c.port.isNone

/-- Whether a request is permitted. -/
def admits (c : Constraints) (r : Request) : Bool :=
  c.method.admits Text.upper r.method && c.scheme.admits Text.lower r.scheme &&
    c.host.admits Text.lower r.host && c.port.admits Text.lower r.port

end Constraints

end UriRouting
