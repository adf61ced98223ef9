import UriRouting.Text

/-!
# UriRouting.Request.Method

The methods of requests that routes can be declared for. Their names are written in
capitals, and read without regard to case or to white space around them.
-/

namespace UriRouting

/-- A method of requests; `any` stands for all of them. -/
inductive Method where
  /-- Every method. -/
  | any
  /-- The method GET. -/
  | get
  /-- The method HEAD. -/
  | head
  /-- The method POST. -/
  | post
  /-- The method PUT. -/
  | put
  /-- The method PATCH. -/
  | patch
  /-- The method DELETE. -/
  | delete
  /-- The method OPTIONS. -/
  | options
  deriving DecidableEq, Repr

namespace Method

/-- All methods, in the order of their numbers. -/
def all : List Method :=
  [any, get, head, post, put, patch, delete, options]

/-- The name in capitals. -/
def token : Method → Text
  | any => ['A', 'N', 'Y']
  | get => ['G', 'E', 'T']
  | head => ['H', 'E', 'A', 'D']
  | post => ['P', 'O', 'S', 'T']
  | put => ['P', 'U', 'T']
  | patch => ['P', 'A', 'T', 'C', 'H']
  | delete => ['D', 'E', 'L', 'E', 'T', 'E']
  | options => ['O', 'P', 'T', 'I', 'O', 'N', 'S']

/-- The number of the method. -/
def number : Method → Nat
  | any => 0
  | get => 1
  | head => 2
  | post => 3
  | put => 4
  | patch => 5
  | delete => 6
  | options => 7

/-- The method that a text names. -/
def parse? (t : Text) : Option Method :=
  all.find? fun m => m.token.eqIgnoreCase t.trim

end Method

end UriRouting
