import UriRouting.Proofs.Route.History
import UriRouting.Table.Group

/-!
# UriRouting.Proofs.Table.Script

What a program does to fill a table, in groups and outside of them.

* `RouteCall` — a call that makes, changes or adds a route;
* `Script` — calls one after another, with groups within groups to any depth. What comes
  next may depend on the answer to a call and on the outcome of a group, so a script may
  stop at the first error or go on after it;
* `Script.run` — what a script does in a group.

A program adds no routes but those that it has come by. These are *at hand*, the latest
one first, and stay there when a copy of them is changed or added.
-/

namespace UriRouting

variable {γ : Type}

/-! ### Defaults -/

/-- A default that is set in a group. -/
inductive GroupDefault where
  /-- Whether case counts. -/
  | caseSensitive (on : Bool)
  /-- The schemes. -/
  | scheme (values : List Text)
  /-- The hosts. -/
  | host (values : List Text)
  /-- The ports. -/
  | port (values : List Text)
  deriving DecidableEq, Repr

/-- The group with a default set for the routes to come. -/
def Group.withDefault (g : Group γ) : GroupDefault → Group γ
  | .caseSensitive on => g.withCaseSensitive on
  | .scheme values => g.withScheme values
  | .host values => g.withHost values
  | .port values => g.withPort values

/-! ### Calls -/

/-- A call that makes, changes or adds a route. -/
inductive RouteCall (γ : Type) where
  /-- Makes a route on its own. -/
  | make (uri : Text) (callback : γ) (options : Option RouteOptions)
  /-- Changes a copy of a route at hand. -/
  | change (place : Nat) (op : Route.Operation γ)
  /-- Adds a copy of a route at hand to the table. -/
  | add (place : Nat)
  /-- Makes a route for the methods with some names in the table. -/
  | http (tokens : List Text) (uri : Text) (callback : γ)
  /-- Makes a route for a single method in the table. -/
  | verb (method : Method) (uri : Text) (callback : γ)

/-- The answer to a call: the identity of its route or why it was refused, and nothing if
no such route is at hand. -/
abbrev RouteAnswer := Option (Except RoutingError RouteId)

/-- The answer to a call that makes a route. -/
def answerOf (outcome : Except RoutingError (Route γ)) : RouteAnswer :=
  some (outcome.map (·.id))

/-- The routes at hand after a call that makes one. -/
def handOf (outcome : Except RoutingError (Route γ)) (hand : List (Route γ)) : List (Route γ) :=
  outcome.toOption.toList ++ hand

/-- A call at the table itself: its answer, the routes at hand, and the registry after it. -/
def Registry.perform (reg : Registry γ) (hand : List (Route γ)) :
    RouteCall γ → (RouteAnswer × List (Route γ)) × Registry γ
  | .make uri callback options =>
    let (outcome, reg) := reg.newRoute uri callback options
    ((answerOf outcome, handOf outcome hand), reg)
  | .change place op =>
    match hand[place]? with
    | none => ((none, hand), reg)
    | some route => ((some (.ok route.id), route.perform op :: hand), reg)
  | .add place =>
    match hand[place]? with
    | none => ((none, hand), reg)
    | some route =>
      let (outcome, reg) := reg.add route
      ((some outcome, hand), reg)
  | .http tokens uri callback =>
    let (outcome, reg) := reg.http tokens uri callback
    ((answerOf outcome, handOf outcome hand), reg)
  | .verb method uri callback =>
    let (outcome, reg) := reg.verb method uri callback
    ((answerOf outcome, handOf outcome hand), reg)

/-- A call in a group: its answer, the routes at hand, and the group after it. -/
def Group.perform (g : Group γ) (hand : List (Route γ)) :
    RouteCall γ → (RouteAnswer × List (Route γ)) × Group γ
  | .http tokens uri callback =>
    let (outcome, g) := g.http tokens uri callback
    ((answerOf outcome, handOf outcome hand), g)
  | .verb method uri callback =>
    let (outcome, g) := g.verb method uri callback
    ((answerOf outcome, handOf outcome hand), g)
  | .add place =>
    match hand[place]? with
    | none => ((none, hand), g)
    | some route =>
      let (outcome, g) := g.add route
      ((some outcome, hand), g)
  | c =>
    -- routes on their own are none of the group's business
    let (result, reg) := g.registry.perform hand c
    (result, { g with registry := reg })

/-! ### Scripts -/

/-- What is done in a group, from the first step on. -/
inductive Script (γ : Type) where
  /-- Ends with an outcome. -/
  | finish (outcome : Except RoutingError Unit)
  /-- Sets a default. -/
  | set (d : GroupDefault) (next : Script γ)
  /-- Makes a call, and goes on with its answer. -/
  | call (c : RouteCall γ) (next : RouteAnswer → Script γ)
  /-- Does something in a group within the group, and goes on with the outcome. -/
  | group (base : Text) (body : Script γ) (next : Except RoutingError Unit → Script γ)

/-- The outcome of a script and the routes at hand after it. -/
abbrev ScriptResult (γ : Type) := Except RoutingError Unit × List (Route γ)

/-- Does what a script says in a group. -/
def Script.run : Script γ → List (Route γ) → Group γ → ScriptResult γ × Group γ
  | .finish outcome, hand, g => ((outcome, hand), g)
  | .set d next, hand, g => next.run hand (g.withDefault d)
  | .call c next, hand, g =>
    let ((answer, hand), g) := g.perform hand c
    (next answer).run hand g
  | .group base body next, hand, g =>
    let ((outcome, hand), g) := g.group base (body.run hand)
    (next outcome).run hand g

/-- Does what a script says outside of all groups. -/
def Registry.run (reg : Registry γ) (hand : List (Route γ)) (script : Script γ) :
    ScriptResult γ × Registry γ :=
  let (result, g) := script.run hand { registry := reg, scope := none }
  (result, g.registry)

end UriRouting
