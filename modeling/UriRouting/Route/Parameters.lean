import UriRouting.Text

/-!
# UriRouting.Route.Parameters

The values of the variables of a match, in the order in which they were set first. A
variable that was left out has no value, which differs from not being there.
-/

namespace UriRouting

/-- Names with their values. -/
structure Parameters where
  /-- The names with their values, in order. -/
  entries : List (Text × Option Text) := []
  deriving DecidableEq, Repr

namespace Parameters

/-- The number of names. -/
def size (p : Parameters) : Nat :=
  p.entries.length

/-- Whether there are no names. -/
def isEmpty (p : Parameters) : Bool :=
  p.entries.isEmpty

/-- The names. -/
def keys (p : Parameters) : List Text :=
  p.entries.map (·.1)

/-- Whether a name is there. -/
def contains (p : Parameters) (key : Text) : Bool :=
  p.entries.any (·.1 = key)

/-- What is under a name: nothing, or its value, which may be missing. -/
def get? (p : Parameters) (key : Text) : Option (Option Text) :=
  (p.entries.find? (·.1 = key)).map (·.2)

/-- The value under a name. -/
def value? (p : Parameters) (key : Text) : Option Text :=
  (p.get? key).join

/-- What is under a name, or a default if the name is not there. -/
def getD (p : Parameters) (key default : Text) : Option Text :=
  (p.get? key).getD (some default)

/-- The entries with one of them changed, or with a new one at the end. -/
def setEntry (key : Text) (value : Option Text) :
    List (Text × Option Text) → List (Text × Option Text)
  | [] => [(key, value)]
  | (k, v) :: entries =>
    if k = key then (k, value) :: entries else (k, v) :: setEntry key value entries

/-- The parameters with a value set. -/
def set (p : Parameters) (key : Text) (value : Option Text) : Parameters :=
  ⟨setEntry key value p.entries⟩

/-- The names that have a value that is not empty, with it. -/
def present (p : Parameters) : List (Text × Text) :=
  p.entries.filterMap fun entry =>
    (entry.2.filter (!·.isEmpty)).map (entry.1, ·)

end Parameters

end UriRouting
