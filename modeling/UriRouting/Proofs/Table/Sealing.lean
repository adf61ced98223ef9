import UriRouting.Proofs.Table.Dispatch
import UriRouting.Table.Router

/-!
# UriRouting.Proofs.Table.Sealing

Routers under any calls (`Call`, `performAll`), and what sealing does to them.

* `compileRoutes_ok`, `compileRoutes_error` — sealing goes through the routes in order, and
  leaves each as it was but for what is kept of its template;
* `perform_of_isSealed` — no call changes a router that is sealed;
* `performAll_sealRoutes` — sealing changes no answer and is final; where it is refused, the
  router goes on as before.

A dispatch makes templates ready for matching as it goes. In a snapshot they are ready
already (`Settled`), which is why it stays the same.
-/

namespace UriRouting.Router

open Route (Alike IsReady)

variable {γ : Type}

/-! ### Calls -/

/-- What can be asked of a router. -/
inductive Call (γ : Type) : Type 1 where
  /-- To put a route at the end of the table. -/
  | add (route : Route γ)
  /-- To do something with the registry. -/
  | configure {ρ : Type} (body : Registry γ → ρ × Registry γ)
  /-- To be sealed. -/
  | sealRoutes
  /-- For the snapshot. -/
  | readonly
  /-- To dispatch a request. -/
  | dispatch (request : Request)

/-- The router after a call. -/
def perform (r : Router γ) : Call γ → Router γ
  | .add route => (r.add route).2
  | .configure body => (r.configure body).2
  | .sealRoutes => r.sealRoutes.2
  | .readonly => r
  | .dispatch request => r.afterDispatch request

/-- The router after some calls, one after another. -/
def performAll (r : Router γ) (calls : List (Call γ)) : Router γ :=
  calls.foldl perform r

/-! ### Making templates ready -/

theorem alike_compileRoutes (routes : List (Route γ)) :
    List.Forall₂ Alike routes (compileRoutes routes).2 := by
  induction routes with
  | nil => exact .nil
  | cons route routes ih =>
      rw [compileRoutes]
      split
      · exact List.forall₂_same.mpr fun r _ => .refl r
      · exact .cons (Route.alike_remember route) ih

/-- All templates can be made ready, and then they are. -/
theorem compileRoutes_ok {routes : List (Route γ)} (h : (compileRoutes routes).1 = .ok ()) :
    ∀ route ∈ (compileRoutes routes).2, route.IsReady := by
  induction routes with
  | nil => simp [compileRoutes]
  | cons route routes ih =>
      rw [compileRoutes] at h ⊢
      split at h
      · cases h
      · rename_i c hc
        exact List.forall_mem_cons.mpr ⟨Route.isReady_remember hc, ih h⟩

/-- What refuses the routes is the first of them whose template cannot be made ready. -/
theorem compileRoutes_error {routes : List (Route γ)} {e : RoutingError}
    (h : (compileRoutes routes).1 = .error e) :
    ∃ before route after, routes = before ++ route :: after ∧
      (∀ r ∈ before, ∃ c, r.compile = .ok c) ∧ route.compile = .error e := by
  induction routes with
  | nil => cases h
  | cons route routes ih =>
      rw [compileRoutes] at h
      split at h
      · rename_i e' he
        cases h
        exact ⟨[], route, routes, rfl, by simp, he⟩
      · rename_i c hc
        obtain ⟨before, route', after, rfl, hbefore, he⟩ := ih h
        exact ⟨route :: before, route', after, rfl, List.forall_mem_cons.mpr ⟨⟨c, hc⟩, hbefore⟩, he⟩

/-! ### Sealing -/

theorem isSealed_of_eq_some {r : Router γ} {table : Table γ} (h : r.snapshot = some table) :
    r.isSealed = true := by
  rw [isSealed, h]
  rfl

theorem not_isSealed_of_eq_none {r : Router γ} (h : r.snapshot = none) :
    ¬ r.isSealed = true := by
  rw [isSealed, h]
  exact Bool.false_ne_true

/-- The routes of the snapshot are ready for matching. -/
def Settled (r : Router γ) : Prop :=
  ∀ table, r.snapshot = some table → ∀ route ∈ table.routes, route.IsReady

/-- A router that has just been sealed has its routes in a snapshot, ready for matching. -/
theorem sealRoutes_ok {r s : Router γ} (hopen : r.snapshot = none)
    (h : r.sealRoutes = (.ok (), s)) :
    ∃ table, s.snapshot = some table ∧
      List.Forall₂ Alike r.registry.table.routes table.routes ∧
      ∀ route ∈ table.routes, route.IsReady := by
  rw [sealRoutes, if_neg (not_isSealed_of_eq_none hopen)] at h
  dsimp only at h
  split at h
  · cases h
  · rename_i hok
    cases h
    exact ⟨_, rfl, alike_compileRoutes _, compileRoutes_ok hok⟩

/-- A router that is refused to be sealed has the same routes as before, and is not sealed. -/
theorem sealRoutes_error {r s : Router γ} {e : RoutingError}
    (h : r.sealRoutes = (.error e, s)) :
    r.snapshot = none ∧ (compileRoutes r.registry.table.routes).1 = .error e ∧
      s = { r with registry := { r.registry with table := { r.registry.table with
        routes := (compileRoutes r.registry.table.routes).2 } } } := by
  rw [sealRoutes] at h
  split at h
  · cases h
  · rename_i hunsealed
    dsimp only at h
    split at h
    · rename_i e' he
      cases h
      exact ⟨by simpa [isSealed] using hunsealed, he, rfl⟩
    · cases h

/-! ### Before sealing -/

/-- A router that is not sealed hands a route on to its registry. -/
theorem add_of_unsealed {r : Router γ} (h : r.snapshot = none) (route : Route γ) :
    r.add route = ((r.registry.add route).1, { r with registry := (r.registry.add route).2 }) := by
  rw [add, if_neg (not_isSealed_of_eq_none h)]

theorem configure_of_unsealed {ρ : Type} {r : Router γ} (h : r.snapshot = none)
    (body : Registry γ → ρ × Registry γ) :
    r.configure body = (.ok (body r.registry).1, { r with registry := (body r.registry).2 }) := by
  rw [configure, if_neg (not_isSealed_of_eq_none h)]

/-! ### After sealing -/

/-- **No call changes a router that is sealed.** -/
theorem perform_of_isSealed {r : Router γ} (hsealed : r.isSealed = true) (hready : r.Settled)
    (call : Call γ) : r.perform call = r := by
  cases call with
  | add route => rw [perform, add, if_pos hsealed]
  | configure body => rw [perform, configure, if_pos hsealed]
  | sealRoutes => rw [perform, Router.sealRoutes, if_pos hsealed]
  | readonly => rfl
  | dispatch request =>
      obtain ⟨table, htable⟩ := Option.isSome_iff_exists.mp hsealed
      have hsame := Table.afterDispatch_of_isReady (hready table htable) request
      rw [perform, afterDispatch, htable]
      dsimp only
      rw [hsame, ← htable]

theorem performAll_of_isSealed {r : Router γ} (hsealed : r.isSealed = true)
    (hready : r.Settled) (calls : List (Call γ)) : r.performAll calls = r := by
  induction calls with
  | nil => rfl
  | cons call calls ih =>
      rw [performAll, List.foldl_cons, perform_of_isSealed hsealed hready]
      exact ih

/-! ### Before and after -/

/-- One call. Only sealing makes a snapshot, and it makes the routes ready. -/
theorem Settled.perform {r : Router γ} (hready : r.Settled) (call : Call γ) :
    (r.perform call).Settled := by
  cases hsealed : r.isSealed with
  | true =>
      rw [perform_of_isSealed hsealed hready]
      exact hready
  | false =>
      have hopen : r.snapshot = none := by
        simpa [isSealed] using hsealed
      cases call with
      | add route =>
          rw [Router.perform, add_of_unsealed hopen]
          exact hready
      | configure body =>
          rw [Router.perform, configure_of_unsealed hopen]
          exact hready
      | sealRoutes =>
          rw [Router.perform]
          cases h : r.sealRoutes with
          | mk outcome s =>
              cases outcome with
              | error e =>
                  obtain ⟨-, -, rfl⟩ := sealRoutes_error h
                  exact hready
              | ok _ =>
                  obtain ⟨table, htable, -, hroutes⟩ := sealRoutes_ok hopen h
                  intro table' htable'
                  rw [htable, Option.some.injEq] at htable'
                  exact htable' ▸ hroutes
      | readonly => exact hready
      | dispatch request =>
          rw [Router.perform, afterDispatch, hopen]
          exact fun table htable => hready table (hopen ▸ htable)

/-- Calls one after another. -/
theorem Settled.performAll {r : Router γ} (hready : r.Settled) (calls : List (Call γ)) :
    (r.performAll calls).Settled := by
  induction calls generalizing r with
  | nil => exact hready
  | cons call calls ih => exact ih (hready.perform call)

theorem settled_empty (options : TableOptions) : (empty options : Router γ).Settled :=
  fun _ h => by cases h

/-- What holds of a router `s'` that the sealed router `s` has become. -/
structure Frozen (s s' : Router γ) : Prop where
  /-- It is sealed. -/
  isSealed : s'.isSealed = true
  /-- No route is added. -/
  add : ∀ route, s'.add route = (.error (.addWhileSealed route.uri), s')
  /-- Nothing is done with the registry, whatever was to be done. -/
  configure : ∀ {ρ : Type} (body : Registry γ → ρ × Registry γ),
    s'.configure body = (.error .configureWhileSealed, s')
  /-- The snapshot is that of `s`. -/
  readonly : ∃ table, s.readonly = .ok table ∧ s'.readonly = .ok table
  /-- Requests are dispatched as by `s`. -/
  dispatch : ∀ request, s'.dispatch request = s.dispatch request

/-- What holds of a router `s` that was refused to be sealed when it was `r`. -/
structure StillOpen (r s : Router γ) (e : RoutingError) : Prop where
  /-- The first route whose template cannot be made ready is the cause. -/
  cause : ∃ before route after, r.registry.table.routes = before ++ route :: after ∧
    (∀ r' ∈ before, ∃ c, r'.compile = .ok c) ∧ route.compile = .error e
  /-- It is not sealed. -/
  isSealed : s.isSealed = false
  /-- There is no snapshot. -/
  readonly : s.readonly = .error .notSealed
  /-- The routes are those of `r`, in the same order. -/
  routes : List.Forall₂ Alike r.registry.table.routes s.registry.table.routes
  /-- The settings of the table are the same. -/
  options : s.registry.table.options = r.registry.table.options
  /-- The next route has the same number. -/
  next : s.registry.next = r.registry.next
  /-- Requests are dispatched to the same routes, with the same parameters. -/
  dispatch : ∀ request,
    (s.dispatch request).map RouteMatch.forget = (r.dispatch request).map RouteMatch.forget
  /-- Routes are added as to `r`. -/
  add : ∀ route, (s.add route).1 = (r.add route).1 ∧ List.Forall₂ Alike
    (r.add route).2.registry.table.routes (s.add route).2.registry.table.routes
  /-- What is to be done with the registry is done. -/
  configure : ∀ {ρ : Type} (body : Registry γ → ρ × Registry γ),
    s.configure body = (.ok (body s.registry).1, { s with registry := (body s.registry).2 })

theorem frozen_of_isSealed {s : Router γ} (hsealed : s.isSealed = true) : Frozen s s where
  isSealed := hsealed
  add := fun _ => by rw [Router.add, if_pos hsealed]
  configure := fun _ => by rw [Router.configure, if_pos hsealed]
  readonly := by
    obtain ⟨table, htable⟩ := Option.isSome_iff_exists.mp hsealed
    have hreadonly : s.readonly = .ok table := by rw [Router.readonly, htable]
    exact ⟨table, hreadonly, hreadonly⟩
  dispatch := fun _ => rfl

/-- A router that is refused to be sealed goes on as before. -/
theorem stillOpen_of_error {r s : Router γ} {e : RoutingError}
    (h : r.sealRoutes = (.error e, s)) : StillOpen r s e := by
  obtain ⟨hopen, herror, hs⟩ := sealRoutes_error h
  have hopen' : s.snapshot = none := by rw [hs, hopen]
  have halike : List.Forall₂ Alike r.registry.table.routes s.registry.table.routes := by
    rw [hs]
    exact alike_compileRoutes _
  exact
    { cause := compileRoutes_error herror
      isSealed := by rw [Router.isSealed, hopen']; rfl
      readonly := by rw [Router.readonly, hopen']
      routes := halike
      options := by rw [hs]
      next := by rw [hs]
      dispatch := by
        intro request
        rw [Router.dispatch, Router.dispatch, activeTable, activeTable, hopen, hopen']
        exact (Table.dispatch_alike halike request).symm
      add := by
        intro route
        obtain ⟨houtcome, hroutes⟩ := Registry.add_alike halike route
        rw [add_of_unsealed hopen, add_of_unsealed hopen']
        exact ⟨houtcome.symm, hroutes⟩
      configure := configure_of_unsealed hopen' }

/-- Sealing changes no answer. -/
theorem dispatch_sealRoutes {r s : Router γ} (h : r.sealRoutes = (.ok (), s))
    (request : Request) :
    (s.dispatch request).map RouteMatch.forget = (r.dispatch request).map RouteMatch.forget := by
  cases hsnapshot : r.snapshot with
  | some table =>
      have hsealed := isSealed_of_eq_some hsnapshot
      rw [sealRoutes, if_pos hsealed] at h
      cases h
      rfl
  | none =>
      obtain ⟨table, htable, halike, -⟩ := sealRoutes_ok hsnapshot h
      rw [dispatch, dispatch, activeTable, activeTable, htable, hsnapshot]
      exact (Table.dispatch_alike halike request).symm

theorem isSealed_sealRoutes {r s : Router γ} (h : r.sealRoutes = (.ok (), s)) :
    s.isSealed = true := by
  cases hsnapshot : r.snapshot with
  | some table =>
      have hsealed := isSealed_of_eq_some hsnapshot
      rw [sealRoutes, if_pos hsealed] at h
      cases h
      exact hsealed
  | none =>
      obtain ⟨table, htable, -, -⟩ := sealRoutes_ok hsnapshot h
      exact isSealed_of_eq_some htable

/-- **Sealing changes no answer and is final.** A router that came about by any calls answers
every request as before once it is sealed, and from then on stays the same under any calls. A
router that is refused to be sealed goes on as before. -/
theorem performAll_sealRoutes (options : TableOptions) (calls : List (Call γ)) :
    let r : Router γ := (empty options).performAll calls
    match r.sealRoutes with
    | (.ok (), s) =>
      (∀ request,
        (s.dispatch request).map RouteMatch.forget = (r.dispatch request).map RouteMatch.forget) ∧
      ∀ later : List (Call γ), Frozen s (s.performAll later)
    | (.error e, s) => StillOpen r s e := by
  intro r
  have hready : r.Settled := (settled_empty options).performAll calls
  split
  · rename_i s h
    refine ⟨dispatch_sealRoutes h, fun later => ?_⟩
    have hsealed := isSealed_sealRoutes h
    have hready' : s.Settled := by
      have hperform : r.perform .sealRoutes = s := by rw [perform, h]
      exact hperform ▸ hready.perform .sealRoutes
    -- no call changes `s`, so what is to be shown of later states is shown of `s`
    rw [performAll_of_isSealed hsealed hready']
    exact frozen_of_isSealed hsealed
  · rename_i e s h
    exact stillOpen_of_error h

end UriRouting.Router
