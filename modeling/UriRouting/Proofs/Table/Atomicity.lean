import UriRouting.Proofs.Route.InPlace
import UriRouting.Proofs.Table.Script
import UriRouting.Proofs.Table.Sealing

/-!
# UriRouting.Proofs.Table.Atomicity

A call that is refused leaves things as they were.

* `Registry.httpIn_error`, `Registry.add_error` — every cause for which a table refuses a
  route, and what it leaves of the registry;
* `Script.routes_run` — the routes that a script puts into the table are those of its calls
  that were not refused (`Script.registered`), so a group that fails keeps them;
* `Script.run_stopsAt` — a script that stops at a refused call leaves what the calls before it
  did;
* `refusals_leaveNoTrace` — all of this for every call that may be refused.
-/

namespace UriRouting

variable {γ : Type}

/-! ### Registries -/

/-- The URI of a route that is made under a scope. -/
def Scope.uriIn (scope : Option Scope) (uri : Text) : Text :=
  match scope with
  | some s => Uri.join s.base uri
  | none => Uri.normalize uri

namespace Registry

/-- What a refused call leaves of a registry: all of it, but for an identity that may be used
up. -/
structure Keeps (reg reg' : Registry γ) : Prop where
  /-- The routes and the settings are the same. -/
  table : reg'.table = reg.table
  /-- At most one identity is used up. -/
  next : reg'.next = reg.next ∨ reg'.next = reg.next + 1

theorem Keeps.refl (reg : Registry γ) : reg.Keeps reg :=
  ⟨rfl, .inl rfl⟩

/-- All that is done to make a route for some methods. -/
theorem httpIn_eq (reg : Registry γ) (scope : Option Scope) (tokens : List Text) (uri : Text)
    (callback : γ) :
    reg.httpIn scope tokens uri callback =
      match Method.parseList tokens uri with
      | .error e => (.error e, reg)
      | .ok methods =>
        match Route.new ⟨reg.next⟩ (Scope.uriIn scope uri) callback with
        | .error e => (.error e, reg)
        | .ok route =>
          match (prepare reg.table.options scope methods route).compile with
          | .error e => (.error e, { reg with next := reg.next + 1 })
          | .ok _ =>
            (.ok (prepare reg.table.options scope methods route).remember,
              { table := reg.table.append (prepare reg.table.options scope methods route).remember
                next := reg.next + 1 }) := by
  rw [httpIn]
  cases Method.parseList tokens uri with
  | error e => rfl
  | ok methods =>
      change reg.insert scope methods uri callback = _
      unfold insert
      extract_lets located
      have hlocated : located = Scope.uriIn scope uri := rfl
      rw [mint, hlocated]
      cases Route.new ⟨reg.next⟩ (Scope.uriIn scope uri) callback with
      | error e => rfl
      | ok route => rfl

/-- A route is refused for its methods, for the names in its template, or because its template
cannot be made ready. Only in the last case its identity is used up. -/
theorem httpIn_error {reg reg' : Registry γ} {scope : Option Scope} {tokens : List Text}
    {uri : Text} {callback : γ} {e : RoutingError}
    (h : reg.httpIn scope tokens uri callback = (.error e, reg')) :
    (Method.parseList tokens uri = .error e ∧ reg' = reg) ∨
      (Route.new ⟨reg.next⟩ (Scope.uriIn scope uri) callback = .error e ∧ reg' = reg) ∨
        ∃ methods route, Route.new ⟨reg.next⟩ (Scope.uriIn scope uri) callback = .ok route ∧
          (prepare reg.table.options scope methods route).compile = .error e ∧
          reg' = { reg with next := reg.next + 1 } := by
  rw [httpIn_eq] at h
  split at h
  · rename_i hmethods
    cases h
    exact .inl ⟨hmethods, rfl⟩
  · rename_i methods hmethods
    split at h
    · rename_i hnew
      cases h
      exact .inr (.inl ⟨hnew, rfl⟩)
    · rename_i route hnew
      split at h
      · rename_i hcompile
        cases h
        exact .inr (.inr ⟨methods, route, hnew, hcompile, rfl⟩)
      · cases h

/-- A route that is made for some methods is at the end of the table. -/
theorem httpIn_ok {reg reg' : Registry γ} {scope : Option Scope} {tokens : List Text}
    {uri : Text} {callback : γ} {route : Route γ}
    (h : reg.httpIn scope tokens uri callback = (.ok route, reg')) :
    reg' = { table := reg.table.append route, next := reg.next + 1 } := by
  rw [httpIn_eq] at h
  split at h
  · cases h
  · split at h
    · cases h
    · split at h
      · cases h
      · cases h
        rfl

theorem keeps_httpIn {reg reg' : Registry γ} {scope : Option Scope} {tokens : List Text}
    {uri : Text} {callback : γ} {e : RoutingError}
    (h : reg.httpIn scope tokens uri callback = (.error e, reg')) : reg.Keeps reg' := by
  rcases httpIn_error h with ⟨-, rfl⟩ | ⟨-, rfl⟩ | ⟨methods, route, -, -, rfl⟩
  · exact .refl _
  · exact .refl _
  · exact ⟨rfl, .inr rfl⟩

/-- A route that was made on its own is refused because its template cannot be made ready. -/
theorem add_error {reg reg' : Registry γ} {route : Route γ} {e : RoutingError}
    (h : reg.add route = (.error e, reg')) :
    reg.table.contains route.id = false ∧ route.compile = .error e ∧ reg' = reg := by
  rw [add, Table.add_eq] at h
  cases hcontains : reg.table.contains route.id with
  | true =>
      rw [hcontains] at h
      cases h
  | false =>
      cases hcompile : route.compile with
      | error e' =>
          rw [hcontains, hcompile] at h
          cases h
          exact ⟨rfl, rfl, rfl⟩
      | ok compiled =>
          rw [hcontains, hcompile] at h
          cases h

theorem atomic_add (route : Route γ) : Atomic (fun reg : Registry γ => reg.add route) :=
  ⟨fun h => (add_error h).2.2⟩

end Registry

/-! ### Groups -/

namespace Group

/-- What a refused call leaves of a group: its scope, and what it leaves of the registry. -/
structure Keeps (g g' : Group γ) : Prop where
  /-- The registry is the same, but for an identity that may be used up. -/
  registry : g.registry.Keeps g'.registry
  /-- The base path and the defaults are the same. -/
  scope : g'.scope = g.scope

theorem atomic_add (route : Route γ) : Atomic (fun g : Group γ => g.add route) := by
  refine ⟨fun {g g' e} h => ?_⟩
  rw [add] at h
  cases hadd : g.registry.add route with
  | mk outcome reg =>
      rw [hadd] at h
      cases h
      rw [(Registry.atomic_add route).unchanged hadd]

theorem keeps_http {g g' : Group γ} {tokens : List Text} {uri : Text} {callback : γ}
    {e : RoutingError} (h : g.http tokens uri callback = (.error e, g')) : g.Keeps g' := by
  rw [http] at h
  cases hhttp : g.registry.httpIn g.scope tokens uri callback with
  | mk outcome reg =>
      rw [hhttp] at h
      cases h
      exact ⟨Registry.keeps_httpIn hhttp, rfl⟩

end Group

/-! ### Routers -/

theorem Router.atomic_add (route : Route γ) : Atomic (fun r : Router γ => r.add route) := by
  refine ⟨fun {r r' e} h => ?_⟩
  cases hsnapshot : r.snapshot with
  | some table =>
      rw [add, if_pos (isSealed_of_eq_some hsnapshot)] at h
      cases h
      rfl
  | none =>
      rw [add_of_unsealed hsnapshot] at h
      cases hadd : r.registry.add route with
      | mk outcome reg =>
          rw [hadd] at h
          cases h
          rw [(Registry.atomic_add route).unchanged hadd]

/-! ### Routes that a script registers -/

/-- The routes that a call in a group registers. A call that is refused registers none, and
neither does one that adds a route which is there already. -/
def Group.registers (g : Group γ) (hand : List (Route γ)) : RouteCall γ → List (Route γ)
  | .http tokens uri callback => (g.http tokens uri callback).1.toOption.toList
  | .verb method uri callback => (g.verb method uri callback).1.toOption.toList
  | .add place =>
    match hand[place]? with
    | none => []
    | some route =>
      if g.table.contains route.id then []
      else (route.compile.map fun _ => route.remember).toOption.toList
  | .make _ _ _ | .change _ _ => []

/-- The routes that a script registers in a group, in the order of its calls. -/
def Script.registered : Script γ → List (Route γ) → Group γ → List (Route γ)
  | .finish _, _, _ => []
  | .set d next, hand, g => next.registered hand (g.withDefault d)
  | .call c next, hand, g =>
    let ((answer, hand'), g') := g.perform hand c
    g.registers hand c ++ (next answer).registered hand' g'
  | .group base body next, hand, g =>
    let ((outcome, hand'), g') := g.group base (body.run hand)
    body.registered hand { registry := g.registry, scope := some (.new base) } ++
      (next outcome).registered hand' g'

@[simp] theorem Group.withDefault_table (g : Group γ) (d : GroupDefault) :
    (g.withDefault d).table = g.table := by
  cases d <;> rfl

/-- A route that is made for some methods is put at the end of the table, or not at all. -/
theorem Group.routes_http (g : Group γ) (tokens : List Text) (uri : Text) (callback : γ) :
    (g.http tokens uri callback).2.table.routes =
      g.table.routes ++ (g.http tokens uri callback).1.toOption.toList := by
  change (g.registry.httpIn g.scope tokens uri callback).2.table.routes =
    g.registry.table.routes ++ (g.registry.httpIn g.scope tokens uri callback).1.toOption.toList
  cases h : g.registry.httpIn g.scope tokens uri callback with
  | mk outcome reg =>
      cases outcome with
      | error e =>
          rw [(Registry.keeps_httpIn h).table]
          simp [Except.toOption]
      | ok route =>
          rw [Registry.httpIn_ok h]
          rfl

/-- A route that was made on its own is put at the end of the table if it is not there. -/
theorem Registry.routes_add (reg : Registry γ) (route : Route γ) :
    (reg.add route).2.table.routes = reg.table.routes ++
      if reg.table.contains route.id then []
      else (route.compile.map fun _ => route.remember).toOption.toList := by
  rw [add, Table.add_eq]
  by_cases hcontains : reg.table.contains route.id = true
  · rw [if_pos hcontains, if_pos hcontains, List.append_nil]
  · rw [if_neg hcontains, if_neg hcontains]
    cases route.compile with
    | error e => simp [Except.map, Except.toOption]
    | ok compiled => rfl

/-- One call. -/
theorem Group.routes_perform (g : Group γ) (hand : List (Route γ)) (c : RouteCall γ) :
    (g.perform hand c).2.table.routes = g.table.routes ++ g.registers hand c := by
  cases c with
  | make uri callback options =>
      change (g.registry.newRoute uri callback options).2.table.routes = g.table.routes ++ []
      rw [Registry.newRoute, Registry.mint, List.append_nil]
      split <;> rfl
  | change place op =>
      change (g.registry.perform hand (.change place op)).2.table.routes = g.table.routes ++ []
      rw [Registry.perform, List.append_nil]
      split <;> rfl
  | add place =>
      rw [perform, registers]
      cases hand[place]? with
      | none => exact (List.append_nil _).symm
      | some route => exact g.registry.routes_add route
  | http tokens uri callback => exact g.routes_http tokens uri callback
  | verb method uri callback => exact g.routes_http [method.token] uri callback

/-- **The routes of a script are those of its calls**, by induction on the script. -/
theorem Script.routes_run (script : Script γ) (hand : List (Route γ)) (g : Group γ) :
    (script.run hand g).2.table.routes = g.table.routes ++ script.registered hand g := by
  induction script generalizing hand g with
  | finish outcome => simp [run, registered]
  | set d next ih =>
      rw [run, registered, ih, Group.withDefault_table]
  | call c next ih =>
      rw [run, registered, ih, g.routes_perform hand c, List.append_assoc]
  | group base body next ihBody ihNext =>
      have hbody := ihBody hand { registry := g.registry, scope := some (.new base) }
      rw [run, registered, ihNext]
      change (body.run hand _).2.table.routes ++ _ = _
      rw [hbody, List.append_assoc]
      rfl

/-! ### Scripts that stop -/

/-- One script after another, unless the first ends with an error. -/
def Script.andThen : Script γ → Script γ → Script γ
  | .finish (.ok ()), later => later
  | .finish (.error e), _ => .finish (.error e)
  | .set d next, later => .set d (next.andThen later)
  | .call c next, later => .call c fun answer => (next answer).andThen later
  | .group base body next, later => .group base body fun outcome => (next outcome).andThen later

/-- Makes a call, and stops if it is refused. -/
def Script.callOrStop (c : RouteCall γ) (next : Script γ) : Script γ :=
  .call c fun
    | some (.error e) => .finish (.error e)
    | _ => next

/-- A script that ends well is followed by the next one. -/
theorem Script.run_andThen {script : Script γ} {hand hand' : List (Route γ)} {g g' : Group γ}
    (h : script.run hand g = ((.ok (), hand'), g')) (later : Script γ) :
    (script.andThen later).run hand g = later.run hand' g' := by
  induction script generalizing hand g with
  | finish outcome =>
      rw [run] at h
      cases h
      rfl
  | set d next ih => exact ih h
  | call c next ih => exact ih _ h
  | group base body next ihBody ihNext => exact ihNext _ h

/-- A call that is refused leaves the group as it was, but for an identity that may be used
up. -/
theorem Group.keeps_perform {g : Group γ} {hand : List (Route γ)} {c : RouteCall γ}
    {e : RoutingError} (h : (g.perform hand c).1.1 = some (.error e)) :
    g.Keeps (g.perform hand c).2 := by
  -- a call that makes a route under the scope is answered with the outcome of making it
  have hhttp {tokens : List Text} {uri : Text} {callback : γ}
      (h : answerOf (g.http tokens uri callback).1 = some (.error e)) :
      g.Keeps (g.http tokens uri callback).2 := by
    cases hmade : g.http tokens uri callback with
    | mk outcome g' =>
        rw [hmade] at h
        cases outcome with
        | error e' => exact keeps_http hmade
        | ok route => cases h
  cases c with
  | make uri callback options =>
      change answerOf (g.registry.newRoute uri callback options).1 = _ at h
      change g.Keeps { g with registry := (g.registry.newRoute uri callback options).2 }
      rw [Registry.newRoute, Registry.mint] at h ⊢
      split at h
      · cases h
      · exact ⟨.refl _, rfl⟩
  | change place op =>
      change (g.registry.perform hand (.change place op)).1.1 = _ at h
      rw [Registry.perform] at h
      split at h <;> cases h
  | add place =>
      rw [perform] at h ⊢
      cases hplace : hand[place]? with
      | none =>
          rw [hplace] at h
          cases h
      | some route =>
          rw [hplace] at h
          dsimp only at h ⊢
          cases hadd : g.add route with
          | mk outcome g' =>
              rw [hadd] at h
              cases h
              rw [(atomic_add route).unchanged hadd]
              exact ⟨.refl _, rfl⟩
  | http tokens uri callback => exact hhttp h
  | verb method uri callback => exact hhttp h

/-- **A script that stops at a call leaves what was done before it.** -/
theorem Script.run_stopsAt {before : Script γ} {hand hand' : List (Route γ)} {g g' : Group γ}
    (hbefore : before.run hand g = ((.ok (), hand'), g')) {c : RouteCall γ} {e : RoutingError}
    (hrefused : (g'.perform hand' c).1.1 = some (.error e)) (later : Script γ) :
    ((before.andThen (callOrStop c later)).run hand g).1.1 = .error e ∧
      g'.Keeps ((before.andThen (callOrStop c later)).run hand g).2 := by
  have hrun : (before.andThen (callOrStop c later)).run hand g =
      ((.error e, (g'.perform hand' c).1.2), (g'.perform hand' c).2) := by
    rw [run_andThen hbefore, callOrStop, run]
    dsimp only
    rw [hrefused]
    rfl
  rw [hrun]
  exact ⟨rfl, Group.keeps_perform hrefused⟩

/-! ### Calls that may be refused -/

/-- What holds of the calls that may be refused, whatever the state they are made in. -/
structure RefusalsLeaveNoTrace (γ : Type) : Prop where
  /-- An operation that writes field by field comes to what the function for routes says. -/
  routeWritten : ∀ (op : Route.Operation γ) (r : Route γ),
    Route.change op r = settle r (r.outcome op)
  /-- A route that an operation is refused is as before, with all that it keeps. -/
  route : ∀ op : Route.Operation γ, Atomic (Route.change op)
  /-- Adding a rule in two steps comes to what the function for rules says. -/
  rulesWritten : ∀ key rule s, RuleSet.addInPlace key rule s = settle s (s.add key rule)
  /-- A set of rules that a rule is refused is as before. -/
  rules : ∀ key rule, Atomic (RuleSet.addInPlace key rule)
  /-- A table that refuses a route that was made on its own is as before. -/
  add : ∀ route : Route γ, Atomic fun reg : Registry γ => reg.add route
  /-- A table that refuses to make a route for some methods has the same routes and settings;
  at most an identity is used up. -/
  http : ∀ {reg reg' : Registry γ} {tokens uri callback e},
    reg.http tokens uri callback = (.error e, reg') → reg.Keeps reg'
  /-- The same for a single method. -/
  verb : ∀ {reg reg' : Registry γ} {method uri callback e},
    reg.verb method uri callback = (.error e, reg') → reg.Keeps reg'
  /-- A group that refuses a route that was made on its own is as before. -/
  groupAdd : ∀ route : Route γ, Atomic fun g : Group γ => g.add route
  /-- A group that refuses to make a route for some methods has the same routes, settings and
  defaults. -/
  groupHttp : ∀ {g g' : Group γ} {tokens uri callback e},
    g.http tokens uri callback = (.error e, g') → g.Keeps g'
  /-- The same for a single method. -/
  groupVerb : ∀ {g g' : Group γ} {method uri callback e},
    g.verb method uri callback = (.error e, g') → g.Keeps g'
  /-- A router that refuses a route is as before. -/
  routerAdd : ∀ route : Route γ, Atomic fun r : Router γ => r.add route
  /-- A sealed router refuses every route, and stays as it is. -/
  sealedAdd : ∀ {r : Router γ}, r.isSealed = true → ∀ route,
    r.add route = (.error (.addWhileSealed route.uri), r)
  /-- A sealed router refuses to be configured, whatever was to be done, and stays as it is. -/
  sealedConfigure : ∀ {r : Router γ}, r.isSealed = true → ∀ {ρ : Type}
    (body : Registry γ → ρ × Registry γ), r.configure body = (.error .configureWhileSealed, r)
  /-- Whatever becomes of a group, the table has the routes from before, and behind them those
  of the calls in the group that were not refused. -/
  group : ∀ (reg : Registry γ) (base : Text) (script : Script γ) (hand : List (Route γ)),
    (reg.group base (script.run hand)).2.table.routes = reg.table.routes ++
      script.registered hand { registry := reg, scope := some (.new base) }
  /-- A group that stops at a refused call ends with the error, and the table is what the calls
  before it made of it. -/
  groupStops : ∀ {reg : Registry γ} {base : Text} {before : Script γ}
    {hand hand' : List (Route γ)} {reg' : Registry γ} {scope : Option Scope} {c e},
    before.run hand { registry := reg, scope := some (.new base) } =
      ((.ok (), hand'), { registry := reg', scope := scope }) →
    (Group.perform { registry := reg', scope := scope } hand' c).1.1 = some (.error e) →
    ∀ later, ∃ hand'' reg'', reg'.Keeps reg'' ∧
      reg.group base ((before.andThen (.callOrStop c later)).run hand) = ((.error e, hand''), reg'')

/-- **A call that is refused leaves no trace**, and a group that fails keeps the routes from
before it failed. -/
theorem refusals_leaveNoTrace (γ : Type) : RefusalsLeaveNoTrace γ where
  routeWritten := Route.change_eq
  route := Route.atomic_change
  rulesWritten := RuleSet.addInPlace_eq
  rules := RuleSet.atomic_addInPlace
  add := Registry.atomic_add
  http := Registry.keeps_httpIn
  verb := Registry.keeps_httpIn
  groupAdd := Group.atomic_add
  groupHttp := Group.keeps_http
  groupVerb := Group.keeps_http
  routerAdd := Router.atomic_add
  sealedAdd := fun hsealed => (Router.frozen_of_isSealed hsealed).add
  sealedConfigure := fun hsealed => (Router.frozen_of_isSealed hsealed).configure
  group := fun reg base script hand =>
    script.routes_run hand { registry := reg, scope := some (.new base) }
  groupStops := by
    intro reg base before hand hand' reg' scope c e hbefore hrefused later
    obtain ⟨houtcome, hkeeps⟩ := Script.run_stopsAt hbefore hrefused later
    cases hrun : (before.andThen (.callOrStop c later)).run hand
        { registry := reg, scope := some (.new base) } with
    | mk result g =>
        obtain ⟨outcome, hand''⟩ := result
        rw [hrun] at houtcome hkeeps
        cases houtcome
        refine ⟨hand'', g.registry, hkeeps.registry, ?_⟩
        rw [Registry.group, hrun]

/-- Refused are a route that is given one name twice, an empty name for a rule, a table a method
that is none, and a group its second route. The group keeps the first one. -/
theorem refusals_leaveNoTrace_items :
    let r : Route Unit := Route.ofUri ⟨1⟩ "/items/{id}".toList ()
    let reg : Registry Unit := .empty {}
    let get (uri : String) : RouteCall Unit := .verb .get uri.toList ()
    let script : Script Unit := .callOrStop (get "/x") (.callOrStop (get "/{a}/{a}")
      (.callOrStop (get "/y") (.finish (.ok ()))))
    (∃ e, Route.change (.withUri "/{a}/{a}".toList) r = (.error e, r)) ∧
      (∃ e, RuleSet.addInPlace [] .digit r.rules = (.error e, r.rules)) ∧
      (∃ e reg', reg.http ["BREW".toList] "/x".toList () = (.error e, reg') ∧ reg.Keeps reg') ∧
      ((reg.group "g".toList (script.run [])).1.1.toOption = none ∧
        (reg.group "g".toList (script.run [])).2.table.routes.map (·.uri) =
          ["/g/x".toList]) := by
  intro r reg get script
  have hleft := refusals_leaveNoTrace Unit
  refine ⟨(hleft.route _).eq_of_refused (by decide +kernel),
    (hleft.rules _ _).eq_of_refused (by decide +kernel), ?_, by decide +kernel, ?_⟩
  · obtain ⟨e, he⟩ : ∃ e, (reg.http ["BREW".toList] "/x".toList ()).1 = .error e :=
      ⟨.unsupportedMethod "BREW".toList, rfl⟩
    exact ⟨e, _, Prod.ext he rfl, hleft.http (Prod.ext he rfl)⟩
  · rw [hleft.group]
    decide +kernel

end UriRouting
