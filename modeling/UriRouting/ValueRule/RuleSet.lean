import UriRouting.ValueRule.Basic

/-!
# UriRouting.ValueRule.RuleSet

The rules of a route, by the names of the variables they are for. A value is accepted if
one of the rules for its variable accepts it, or if there is none (`RuleSet.accepts`).
-/

namespace UriRouting

/-- Rules by the names of variables. Each name has one entry, with its rules in the order
in which they were added. -/
structure RuleSet where
  /-- The names with their rules. -/
  entries : List (Text × List ValueRule) := []
  deriving DecidableEq

namespace RuleSet

/-- The entries with a rule more for a name. -/
def insert (key : Text) (rule : ValueRule) :
    List (Text × List ValueRule) → List (Text × List ValueRule)
  | [] => [(key, [rule])]
  | (k, rules) :: entries =>
    if k = key then (k, rules ++ [rule]) :: entries
    else (k, rules) :: insert key rule entries

/-- The set with a rule more for a name. -/
def add (s : RuleSet) (key : Text) (rule : ValueRule) : Except RuleError RuleSet :=
  if key.isEmpty then .error .emptyKey else .ok ⟨insert key rule s.entries⟩

/-- The rules for a name. -/
def rules (s : RuleSet) (key : Text) : List ValueRule :=
  ((s.entries.find? (·.1 = key)).map (·.2)).getD []

/-- Whether the set has no rule. -/
def isEmpty (s : RuleSet) : Bool :=
  s.entries.isEmpty

/-- Whether the rules for a name accept a value. -/
def accepts (s : RuleSet) (key value : Text) (caseSensitive : Bool) : Bool :=
  (s.rules key).isEmpty || (s.rules key).any (·.accepts value caseSensitive)

end RuleSet

end UriRouting
