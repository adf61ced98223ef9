import Mathlib.Data.List.Forall2
import UriRouting.Proofs.Route.History
import UriRouting.Table.Registry

/-!
# UriRouting.Proofs.Table.Dispatch

Dispatching leaves its mark on a table: the routes that were tried keep what was made of their
templates. It is the only mark (`Route.Alike`), and it does not show.

* `alike_remember` — a route that keeps more of its template is alike in all else;
* `dispatch_alike` — routes that are alike one by one dispatch alike;
* `dispatch_afterDispatch` — so a dispatch does not show in the next one;
* `afterDispatch_of_isReady` — where every route is ready, dispatching leaves no mark.
-/

namespace UriRouting

variable {γ : Type}

/-- The match without what its route keeps of its template. -/
def RouteMatch.forget (m : RouteMatch γ) : RouteMatch γ :=
  { m with route := m.route.forget }

namespace Route

/-! ### Routes that are alike -/

/-- Two routes differ at most in what they keep of their template, and both make the same
of it. -/
structure Alike (r r' : Route γ) : Prop where
  /-- All else is the same. -/
  forget : r.forget = r'.forget
  /-- The template is compiled alike. -/
  compile : r.compile = r'.compile

theorem Alike.refl (r : Route γ) : Alike r r :=
  ⟨rfl, rfl⟩

theorem Alike.id {r r' : Route γ} (h : Alike r r') : r.id = r'.id := by
  have hforget := h.forget
  simp only [Route.forget, Route.mk.injEq] at hforget
  exact hforget.1

theorem Alike.sameSettings {r r' : Route γ} (h : Alike r r') : SameSettings r r' := by
  have hforget := h.forget
  simp only [Route.forget, Route.mk.injEq] at hforget
  obtain ⟨-, huri, -, -, hcase, hconstraints, hanything, hrules, -⟩ := hforget
  exact ⟨huri, hcase, fun key => by rw [hanything], hconstraints, fun key => by rw [hrules]⟩

theorem compile_of_eq_some {r : Route γ} {c : Template.Compiled} (h : r.compiled = some c) :
    r.compile = .ok c := by
  rw [compile, h]

theorem compile_of_eq_none {r : Route γ} (h : r.compiled = none) :
    r.compile =
      (Template.compilePieces r.uri r.pieces r.caseSensitive r.anything).mapError .template := by
  rw [compile, h]

@[simp] theorem forget_remember (r : Route γ) : r.remember.forget = r.forget := rfl

/-- What is kept is what would be made of the template again. -/
@[simp] theorem compile_remember (r : Route γ) : r.remember.compile = r.compile := by
  cases hmade : r.compile with
  | ok c =>
      refine compile_of_eq_some ?_
      rw [remember, hmade]
      rfl
  | error e =>
      have hnone : r.compiled = none := by
        cases hcompiled : r.compiled with
        | none => rfl
        | some c => rw [compile_of_eq_some hcompiled] at hmade; cases hmade
      have hnone' : r.remember.compiled = none := by
        rw [remember, hmade]
        rfl
      rw [← hmade, compile_of_eq_none hnone, compile_of_eq_none hnone']
      rfl

theorem alike_remember (r : Route γ) : Alike r r.remember :=
  ⟨(forget_remember r).symm, (compile_remember r).symm⟩

theorem alike_afterMatch (r : Route γ) (request : Request) : Alike r (r.afterMatch request) := by
  unfold afterMatch
  split
  · exact alike_remember r
  · exact .refl r

/-- Routes that are alike match the same requests, with the same parameters. -/
theorem Alike.tryMatch {r r' : Route γ} (h : Alike r r') (request : Request) :
    r.tryMatch request = r'.tryMatch request := by
  have hread : r.readParameters = r'.readParameters :=
    funext (readParameters_congr h.sameSettings)
  rw [Route.tryMatch, Route.tryMatch, h.sameSettings.constraints, h.compile, hread]

theorem Alike.matched {r r' : Route γ} (h : Alike r r') (request : Request) :
    (r.matched request).map RouteMatch.forget = (r'.matched request).map RouteMatch.forget := by
  rw [Route.matched, Route.matched, h.tryMatch, Option.map_map, Option.map_map]
  congr 1
  funext parameters
  exact congrArg (RouteMatch.mk · parameters) h.forget

/-! ### Routes that are ready -/

/-- The route keeps its template ready for matching. -/
def IsReady (r : Route γ) : Prop :=
  r.compiled.isSome = true

theorem IsReady.remember_eq {r : Route γ} (h : r.IsReady) : r.remember = r := by
  obtain ⟨c, hc⟩ := Option.isSome_iff_exists.mp h
  rw [remember, compile, hc, Except.toOption, ← hc]

theorem isReady_remember {r : Route γ} {c : Template.Compiled} (h : r.compile = .ok c) :
    r.remember.IsReady := by
  rw [IsReady, remember, h]
  rfl

theorem IsReady.afterMatch_eq {r : Route γ} (h : r.IsReady) (request : Request) :
    r.afterMatch request = r := by
  rw [afterMatch, h.remember_eq, ite_self]

end Route

namespace Table

open Route (Alike IsReady)

/-! ### Dispatching -/

theorem findSome?_matched_alike {routes routes' : List (Route γ)}
    (h : List.Forall₂ Alike routes routes') (request : Request) :
    (routes.findSome? (·.matched request)).map RouteMatch.forget =
      (routes'.findSome? (·.matched request)).map RouteMatch.forget := by
  induction h with
  | nil => rfl
  | @cons r r' routes routes' hr _ ih =>
      have hmatched := hr.matched request
      rw [List.findSome?_cons, List.findSome?_cons]
      cases hfound : r.matched request with
      | none =>
          rw [hfound, Option.map_none] at hmatched
          rw [Option.map_eq_none_iff.mp hmatched.symm]
          exact ih
      | some m =>
          rw [hfound, Option.map_some] at hmatched
          obtain ⟨m', hfound', hforget⟩ := Option.map_eq_some_iff.mp hmatched.symm
          rw [hfound', Option.map_some, Option.map_some, hforget]

/-- **Tables whose routes are alike one by one dispatch alike**: to the same route, with the
same parameters. -/
theorem dispatch_alike {t t' : Table γ} (h : List.Forall₂ Alike t.routes t'.routes)
    (request : Request) :
    (t.dispatch request).map RouteMatch.forget = (t'.dispatch request).map RouteMatch.forget :=
  findSome?_matched_alike h request

theorem alike_routesAfter (request : Request) (routes : List (Route γ)) :
    List.Forall₂ Alike routes (routesAfter request routes) := by
  induction routes with
  | nil => exact .nil
  | cons route routes ih =>
      refine .cons (Route.alike_afterMatch route request) ?_
      split
      · exact List.forall₂_same.mpr fun r _ => .refl r
      · exact ih

/-- A dispatch does not show in the next one. -/
theorem dispatch_afterDispatch (t : Table γ) (request next : Request) :
    ((t.afterDispatch request).dispatch next).map RouteMatch.forget =
      (t.dispatch next).map RouteMatch.forget :=
  (dispatch_alike (alike_routesAfter request t.routes) next).symm

theorem routesAfter_of_isReady (request : Request) {routes : List (Route γ)}
    (h : ∀ route ∈ routes, route.IsReady) : routesAfter request routes = routes := by
  induction routes with
  | nil => rfl
  | cons route routes ih =>
      obtain ⟨hroute, hroutes⟩ := List.forall_mem_cons.mp h
      rw [routesAfter, hroute.afterMatch_eq, ih hroutes, ite_self]

/-- **Where every route is ready, dispatching leaves no mark.** -/
theorem afterDispatch_of_isReady {t : Table γ} (h : ∀ route ∈ t.routes, route.IsReady)
    (request : Request) : t.afterDispatch request = t := by
  rw [afterDispatch, routesAfter_of_isReady request h]

/-! ### Adding -/

theorem any_id_alike {routes routes' : List (Route γ)} (h : List.Forall₂ Alike routes routes')
    (id : RouteId) : routes.any (·.id = id) = routes'.any (·.id = id) := by
  induction h with
  | nil => rfl
  | cons hr _ ih => rw [List.any_cons, List.any_cons, hr.id, ih]

/-- A route is added if it is not there and its template can be made ready. -/
theorem add_eq (t : Table γ) (route : Route γ) :
    t.add route = if t.contains route.id then .ok t
      else route.compile.map fun _ => t.append route.remember := by
  rw [add]
  split
  · rfl
  · cases route.compile <;> rfl

end Table

namespace Registry

open Route (Alike)

/-- A route is added to tables that are alike with the same outcome. -/
theorem add_alike {reg reg' : Registry γ}
    (h : List.Forall₂ Alike reg.table.routes reg'.table.routes) (route : Route γ) :
    (reg.add route).1 = (reg'.add route).1 ∧
      List.Forall₂ Alike (reg.add route).2.table.routes (reg'.add route).2.table.routes := by
  have hcontains : reg.table.contains route.id = reg'.table.contains route.id :=
    Table.any_id_alike h route.id
  rw [add, add, Table.add_eq, Table.add_eq, hcontains]
  cases reg'.table.contains route.id with
  | true => exact ⟨rfl, h⟩
  | false =>
      cases route.compile with
      | error e => exact ⟨rfl, h⟩
      | ok c => exact ⟨rfl, List.rel_append h (.cons (.refl _) .nil)⟩

end Registry

end UriRouting
