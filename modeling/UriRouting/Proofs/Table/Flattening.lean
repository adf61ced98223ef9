import UriRouting.Proofs.Table.Script

/-!
# UriRouting.Proofs.Table.Flattening

Groups do nothing that could not be done at the table itself.

* `Script.flatten` — a script without its groups: a call that makes a route in a group
  becomes one that says everything about the route (`FlatCall.register`);
* `httpIn_eq_registerFor` — such a route is the one that the group makes;
* `group_eq_flatten` — doing in a group what a script says is the same as doing its calls
  without groups, one after another.

What a group gives to a route is read off what was said in the group before
(`GroupHistory`), and not off a scope that is passed along.
-/

namespace UriRouting

variable {γ : Type}

/-! ### What was said in a group -/

namespace GroupDefault

/-- Whether case counts, if that is what the default is about. -/
def caseSensitive? : GroupDefault → Option Bool
  | caseSensitive on => some on
  | _ => none

/-- The schemes, if that is what the default is about. -/
def scheme? : GroupDefault → Option (List Text)
  | scheme values => some values
  | _ => none

/-- The hosts, if that is what the default is about. -/
def host? : GroupDefault → Option (List Text)
  | host values => some values
  | _ => none

/-- The ports, if that is what the default is about. -/
def port? : GroupDefault → Option (List Text)
  | port values => some values
  | _ => none

end GroupDefault

/-- What was said in a group so far. -/
structure GroupHistory where
  /-- The base path that it was opened with. -/
  base : Text
  /-- The defaults that were set, the last one first. -/
  defaults : List GroupDefault := []

namespace GroupHistory

/-- The URI of a route in the group. -/
def uri (h : GroupHistory) (uri : Text) : Text :=
  Uri.join (Uri.normalizeBase h.base) uri

/-- The settings of a route for some methods in the group. Of each kind of default, the one
that was set last counts. -/
def routeOptions (h : GroupHistory) (options : TableOptions) (methods : Option (List Method)) :
    RouteOptions where
  caseSensitive :=
    some ((h.defaults.findSome? GroupDefault.caseSensitive?).getD options.caseSensitive)
  method := (methods.getD []).map Method.token
  scheme := (h.defaults.findSome? GroupDefault.scheme?).getD []
  host := (h.defaults.findSome? GroupDefault.host?).getD []
  port := (h.defaults.findSome? GroupDefault.port?).getD []

/-- The scope that the group has by now. -/
def scope (h : GroupHistory) : Scope where
  base := Uri.normalizeBase h.base
  caseSensitive := h.defaults.findSome? GroupDefault.caseSensitive?
  scheme := (h.defaults.findSome? GroupDefault.scheme?).getD []
  host := (h.defaults.findSome? GroupDefault.host?).getD []
  port := (h.defaults.findSome? GroupDefault.port?).getD []

/-- The group after another default was set. -/
def set (h : GroupHistory) (d : GroupDefault) : GroupHistory :=
  { h with defaults := d :: h.defaults }

end GroupHistory

/-! ### Calls without groups -/

/-- A call that is made without groups. -/
inductive FlatCall (γ : Type) where
  /-- A call at the table itself. -/
  | plain (c : RouteCall γ)
  /-- Makes a route for the methods with some names in the table, with the URI and the
  settings that it would have in a group. -/
  | register (h : GroupHistory) (tokens : List Text) (uri : Text) (callback : γ)

/-- Makes a route with settings of its own and puts it at the end of the table. -/
def Registry.register (reg : Registry γ) (uri : Text) (callback : γ) (options : RouteOptions) :
    Except RoutingError (Route γ) × Registry γ :=
  match reg.newRoute uri callback (some options) with
  | (.error e, reg) => (.error e, reg)
  | (.ok route, reg) =>
    match route.compile with
    | .error e => (.error e, reg)
    | .ok _ => (.ok route.remember, { reg with table := reg.table.append route.remember })

/-- Makes a route for the methods with some names, as in a group with some history. -/
def Registry.registerFor (reg : Registry γ) (h : GroupHistory) (tokens : List Text) (uri : Text)
    (callback : γ) : Except RoutingError (Route γ) × Registry γ :=
  match Method.parseList tokens uri with
  | .error e => (.error e, reg)
  | .ok methods => reg.register (h.uri uri) callback (h.routeOptions reg.table.options methods)

/-- A call without groups: its answer, the routes at hand, and the registry after it. -/
def Registry.performFlat (reg : Registry γ) (hand : List (Route γ)) :
    FlatCall γ → (RouteAnswer × List (Route γ)) × Registry γ
  | .plain c => reg.perform hand c
  | .register h tokens uri callback =>
    let (outcome, reg) := reg.registerFor h tokens uri callback
    ((answerOf outcome, handOf outcome hand), reg)

/-! ### Scripts without groups -/

/-- What is done at a table without groups, from the first call on. -/
inductive FlatScript (γ : Type) where
  /-- Ends with an outcome. -/
  | finish (outcome : Except RoutingError Unit)
  /-- Makes a call, and goes on with its answer. -/
  | call (c : FlatCall γ) (next : RouteAnswer → FlatScript γ)

namespace FlatScript

/-- One script after another, which goes on with the outcome of the first. -/
def andThen : FlatScript γ → (Except RoutingError Unit → FlatScript γ) → FlatScript γ
  | finish outcome, f => f outcome
  | call c next, f => .call c fun answer => (next answer).andThen f

/-- Does what a script says at a table. -/
def run : FlatScript γ → List (Route γ) → Registry γ → ScriptResult γ × Registry γ
  | finish outcome, hand, reg => ((outcome, hand), reg)
  | call c next, hand, reg =>
    let ((answer, hand), reg) := reg.performFlat hand c
    (next answer).run hand reg

theorem run_andThen (script : FlatScript γ) (f : Except RoutingError Unit → FlatScript γ)
    (hand : List (Route γ)) (reg : Registry γ) :
    (script.andThen f).run hand reg =
      let ((outcome, hand), reg) := script.run hand reg
      (f outcome).run hand reg := by
  induction script generalizing hand reg with
  | finish outcome => rfl
  | call c next ih => exact ih _ _ _

end FlatScript

/-- A call without groups in the place of one in a group with some history, or of one
outside of all groups or after a group within the group. -/
def RouteCall.flatten (within : Option GroupHistory) (c : RouteCall γ) : FlatCall γ :=
  match within, c with
  | some h, .http tokens uri callback => .register h tokens uri callback
  | some h, .verb method uri callback => .register h [method.token] uri callback
  | _, c => .plain c

/-- A script without its groups. The history of a group ends with the first group in it. -/
def Script.flatten : Script γ → Option GroupHistory → FlatScript γ
  | .finish outcome, _ => .finish outcome
  | .set d next, within => next.flatten (within.map (·.set d))
  | .call c next, within => .call (c.flatten within) fun answer => (next answer).flatten within
  | .group base body next, _ =>
    (body.flatten (some { base := base })).andThen fun outcome => (next outcome).flatten none

/-! ### Routes of a group -/

/-- Setting defaults does to the scope what the history says. -/
theorem withDefault_eq (g : Group γ) (within : Option GroupHistory)
    (h : g.scope = within.map GroupHistory.scope) (d : GroupDefault) :
    g.withDefault d = { g with scope := (within.map (·.set d)).map GroupHistory.scope } := by
  obtain ⟨reg, scope⟩ := g
  subst h
  cases within <;> cases d <;> rfl

/-- A route that is prepared for a group is one that is made with settings of its own. -/
theorem withOptions_routeOptions (id : RouteId) (uri : Text) (callback : γ) (h : GroupHistory)
    (options : TableOptions) (methods : Option (List Method)) :
    Route.withOptions id uri callback (h.routeOptions options methods) =
      (Route.new id uri callback).map (Registry.prepare options (some h.scope) methods) := by
  cases hnew : Route.new id uri callback with
  | error e => rw [Route.withOptions, hnew]; rfl
  | ok route =>
      obtain ⟨-, rfl⟩ := Route.new_eq_ok_iff.mp hnew
      rw [Route.withOptions, hnew]
      cases methods with
      | some methods => rfl
      | none =>
          -- a list without methods leaves the route open for all of them
          have hopen (on : Bool) : ((Route.ofUri id uri callback).withCaseSensitive on).withMethod [] =
              (Route.ofUri id uri callback).withCaseSensitive on := by
            cases on <;> rfl
          exact congrArg (fun route => Except.ok (((route.withScheme h.scope.scheme).withHost
            h.scope.host).withPort h.scope.port)) (hopen _)

/-- **A route that is made in a group** is one with a URI and settings of its own. -/
theorem httpIn_eq_registerFor (reg : Registry γ) (h : GroupHistory) (tokens : List Text)
    (uri : Text) (callback : γ) :
    reg.httpIn (some h.scope) tokens uri callback = reg.registerFor h tokens uri callback := by
  rw [Registry.httpIn, Registry.registerFor]
  cases Method.parseList tokens uri with
  | error e => rfl
  | ok methods =>
      -- either way the route is made from the same URI, under the same identity
      have hmade : reg.newRoute (h.uri uri) callback
          (some (h.routeOptions reg.table.options methods)) = reg.mint fun id =>
            (Route.new id (h.uri uri) callback).map
              (Registry.prepare reg.table.options (some h.scope) methods) :=
        congrArg reg.mint (funext fun id => withOptions_routeOptions id (h.uri uri) callback h
          reg.table.options methods)
      dsimp only
      rw [Registry.register, hmade, Registry.mint]
      unfold Registry.insert
      extract_lets joined
      have huri : joined = h.uri uri := rfl
      rw [Registry.mint, huri]
      cases Route.new ⟨reg.next⟩ (h.uri uri) callback with
      | error e => rfl
      | ok route => rfl

/-- A call in a group is answered like the one in its place. -/
theorem perform_eq_performFlat (g : Group γ) (within : Option GroupHistory)
    (h : g.scope = within.map GroupHistory.scope) (hand : List (Route γ)) (c : RouteCall γ) :
    g.perform hand c =
      let (result, reg) := g.registry.performFlat hand (c.flatten within)
      (result, { g with registry := reg }) := by
  obtain ⟨reg, scope⟩ := g
  subst h
  cases c with
  | make uri callback options => cases within <;> rfl
  | change place op => cases within <;> rfl
  | add place =>
      have hplain : (RouteCall.add place : RouteCall γ).flatten within = .plain (.add place) := by
        cases within <;> rfl
      rw [hplain, Group.perform, Registry.performFlat, Registry.perform]
      cases hand[place]? <;> rfl
  | http tokens uri callback =>
      cases within with
      | none => rfl
      | some h =>
          rw [RouteCall.flatten, Registry.performFlat, ← httpIn_eq_registerFor]
          rfl
  | verb method uri callback =>
      cases within with
      | none => rfl
      | some h =>
          rw [RouteCall.flatten, Registry.performFlat, ← httpIn_eq_registerFor]
          rfl

/-! ### Scripts in groups -/

/-- What is done in a group starts from its base path, and leaves the registry behind. -/
theorem group_eq_of {ρ : Type} {reg : Registry γ} {base : Text} {body : Group γ → ρ × Group γ}
    {result : ρ × Registry γ}
    (h : (body { registry := reg, scope := some (.new base) }).1 = result.1 ∧
      (body { registry := reg, scope := some (.new base) }).2.registry = result.2) :
    reg.group base body = result :=
  Prod.ext h.1 h.2

/-- What a script does in a group is what its calls do without groups. -/
theorem run_eq_run_flatten (script : Script γ) (within : Option GroupHistory)
    (hand : List (Route γ)) {g : Group γ} (h : g.scope = within.map GroupHistory.scope) :
    (script.run hand g).1 = ((script.flatten within).run hand g.registry).1 ∧
      (script.run hand g).2.registry = ((script.flatten within).run hand g.registry).2 := by
  induction script generalizing within hand g with
  | finish outcome => exact ⟨rfl, rfl⟩
  | set d next ih =>
      rw [Script.run, Script.flatten, withDefault_eq g within h]
      exact ih _ _ rfl
  | call c next ih =>
      rw [Script.run, Script.flatten, FlatScript.run, perform_eq_performFlat g within h]
      exact ih _ _ _ h
  | group base body next ihBody ihNext =>
      have hbody : g.registry.group base (body.run hand) =
          (body.flatten (some { base := base })).run hand g.registry :=
        group_eq_of (ihBody (some { base := base }) hand rfl)
      rw [Script.run, Group.group, Script.flatten, FlatScript.run_andThen, hbody]
      -- what comes after the group is in no group any more
      exact ihNext _ none _ rfl

/-- **Groups do nothing that could not be done at the table itself.** What a script does in a
group, with all its groups within groups, is what its calls do there one after another: the
outcome, the routes at hand, the table and the next identity are the same. -/
theorem group_eq_flatten (reg : Registry γ) (hand : List (Route γ)) (base : Text)
    (script : Script γ) :
    reg.group base (script.run hand) =
      (script.flatten (some { base := base })).run hand reg :=
  group_eq_of (run_eq_run_flatten script (some { base := base }) hand rfl)

/-- After a group within it, a group has neither a base path nor defaults. -/
example :
    let get (uri : String) (next : Script Unit) : Script Unit :=
      .call (.verb .get uri.toList ()) fun _ => next
    let script : Script Unit := .set (.caseSensitive true) <| get "x" <|
      .group "b".toList (get "y" (.finish (.ok ()))) fun _ => get "z" (.finish (.ok ()))
    ((Registry.empty {}).group "a".toList (script.run [])).2.table.routes.map
        (fun r => (r.uri, r.caseSensitive)) =
      [("/a/x".toList, true), ("/b/y".toList, false), ("/z".toList, false)] := by
  decide +kernel

end UriRouting
