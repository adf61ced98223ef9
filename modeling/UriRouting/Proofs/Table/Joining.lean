import UriRouting.Proofs.Route.Reported
import UriRouting.Proofs.Table.Atomicity
import UriRouting.Proofs.Template.Joining

/-!
# UriRouting.Proofs.Table.Joining

The templates of routes in groups.

* `Registry.httpIn_made` — a route that is made under a scope is for the URI below its base path,
  and its template is ready for matching;
* `Route.Reachable.joins` — the markers and the variables of a route below a base path, whatever
  has been set since (`Route.Joins`);
* `http_joins` — those of a route that is made in a group are the ones of the base path, and after
  them the ones of its own URI.
-/

namespace UriRouting

variable {γ : Type}

open Template (Marker namesIn variablesIn namesOf variablesOf)

namespace Registry

theorem reachable_prepare {route : Route γ} (h : route.Reachable) (options : TableOptions)
    (scope : Option Scope) (methods : Option (List Method)) :
    (prepare options scope methods route).Reachable := by
  have hcase := h.withCaseSensitive ((scope.bind (·.caseSensitive)).getD options.caseSensitive)
  cases methods with
  | none =>
      cases scope with
      | none => exact hcase
      | some s => exact ((hcase.withScheme s.scheme).withHost s.host).withPort s.port
  | some methods =>
      have hmethod := hcase.withMethod (methods.map Method.token)
      cases scope with
      | none => exact hmethod
      | some s => exact ((hmethod.withScheme s.scheme).withHost s.host).withPort s.port

theorem prepare_uri (options : TableOptions) (scope : Option Scope)
    (methods : Option (List Method)) (route : Route γ) :
    (prepare options scope methods route).uri = route.uri := by
  rw [← Route.withCaseSensitive_uri route
    ((scope.bind (·.caseSensitive)).getD options.caseSensitive)]
  cases scope <;> cases methods <;> rfl

/-- **A route that is made under a scope** is for the URI below its base path. -/
theorem httpIn_made {reg : Registry γ} {scope : Option Scope} {tokens : List Text} {uri : Text}
    {callback : γ} {route : Route γ} (h : (reg.httpIn scope tokens uri callback).1 = .ok route) :
    route.Reachable ∧ route.uri = Uri.normalize (Scope.uriIn scope uri) ∧
      ∃ c, route.compile = .ok c := by
  rw [httpIn_eq] at h
  split at h
  · cases h
  · rename_i methods _
    split at h
    · cases h
    · rename_i made hnew
      split at h
      · cases h
      · rename_i c hcompile
        cases h
        refine ⟨(reachable_prepare (.new hnew) ..).remember, ?_, c, ?_⟩
        · refine (prepare_uri ..).trans ?_
          rw [(Route.new_eq_ok_iff.mp hnew).2]
          rfl
        · rw [Route.compile_remember, hcompile]

end Registry

namespace Route

/-- What a route has of two templates, the second of which starts after a number of bytes. -/
structure Joins (r : Route γ) (front back : Text) (seam : Nat) : Prop where
  /-- The markers are those of both, in their places. -/
  markers : r.markers = Marker.find front ++ (Marker.find back).map (·.shift seam)
  /-- The names are those of both. -/
  names : ∀ c, r.compile = .ok c → c.names = namesIn front ++ namesIn back
  /-- The variables are those of both, with the same separators and the same values. -/
  vars : ∀ c, r.compile = .ok c →
    variablesOf c.tokens = variablesIn front r.anything ++ variablesIn back r.anything

namespace Reachable

/-- A route has the tokens of its template, with the names in them. -/
theorem tokens_of_compile {r : Route γ} (hr : r.Reachable) {c : Template.Compiled}
    (hc : r.compile = .ok c) : c.tokens = r.tokens ∧ c.names = namesOf r.tokens := by
  rcases hr.eq_of_compile hc with ⟨hnames, rfl⟩ | rfl
  · exact ⟨rfl, hnames.symm⟩
  · exact ⟨rfl, rfl⟩

/-- **A route has what its template has of two others.** -/
theorem joins {r : Route γ} (hr : r.Reachable) {front back : Text} {seam : Nat}
    (h : Template.Joins front back r.uri seam) : r.Joins front back seam where
  markers := by
    rw [markers, hr.pieces_eq]
    exact h.markers
  names := fun c hc => by
    rw [(hr.tokens_of_compile hc).2, hr.namesOf_tokens]
    exact Template.names_of_find_eq h.markers
  vars := fun c hc => by
    rw [(hr.tokens_of_compile hc).1, tokens, hr.pieces_eq]
    exact h.vars r.anything

end Reachable

end Route

/-- **A path below the base path of a group** has the markers of the base path, and after them its
own. Nothing is made or lost where they meet, and the variables take the same texts as they do in
the base path alone and in the path alone. The names are in order if they are in both, and none is
in both. So it is with the routes that are made in the group, also after they have been changed. -/
theorem http_joins {base : Text} (hbase : Uri.normalize base = base) (uri : Text) :
    Template.Joins base (Uri.normalize uri) (Uri.join base uri) (Uri.stem base).utf8Size ∧
    (∀ route : Route γ, route.Reachable → route.uri = Uri.join base uri →
      route.Joins base (Uri.normalize uri) (Uri.stem base).utf8Size) ∧
    ∀ (g : Group γ) (tokens : List Text) (callback : γ) (route : Route γ),
      g.base? = some base → (g.http tokens uri callback).1 = .ok route →
      route.Reachable ∧ route.uri = Uri.join base uri ∧
        route.Joins base (Uri.normalize uri) (Uri.stem base).utf8Size ∧
        ∃ c, route.compile = .ok c := by
  have hjoins := Template.joins_join hbase uri
  refine ⟨hjoins, fun route hroute huri => hroute.joins (huri ▸ hjoins), ?_⟩
  intro g tokens callback route hg hok
  obtain ⟨hroute, hmade, hcompile⟩ := Registry.httpIn_made hok
  obtain ⟨s, hscope, rfl⟩ := Option.map_eq_some_iff.mp hg
  have huri : route.uri = Uri.join s.base uri := by
    rw [hmade, hscope, Scope.uriIn, Uri.normalize_join]
  exact ⟨hroute, huri, hroute.joins (huri ▸ hjoins), hcompile⟩

/-- The base path of a group has a variable, and so has the path of a route in it: the marker of the
latter is eight bytes further on than in the path alone. -/
theorem http_joins_users :
    let g : Group Unit := { registry := .empty {}, scope := some (.new " api/{v}/".toList) }
    ∃ route c, (g.http ["GET".toList] "users/{id?}/".toList ()).1 = .ok route ∧
      route.markers = [⟨⟨['v'], false⟩, 5⟩, ⟨⟨['i', 'd'], true⟩, 15⟩] ∧
      route.compile = .ok c ∧ c.names = [['v'], ['i', 'd']] := by
  intro g
  obtain ⟨-, -, hmade⟩ := http_joins (Uri.normalize_normalizeBase " api/{v}/".toList)
    "users/{id?}/".toList
  cases houtcome : (g.http ["GET".toList] "users/{id?}/".toList ()).1 with
  | error e =>
      have hok : (g.http ["GET".toList] "users/{id?}/".toList ()).1.toOption.isSome = true := by
        decide +kernel
      rw [houtcome] at hok
      cases hok
  | ok route =>
      obtain ⟨-, -, hjoins, c, hcompile⟩ := hmade g _ () route rfl houtcome
      refine ⟨route, c, rfl, hjoins.markers.trans ?_, hcompile, (hjoins.names c hcompile).trans ?_⟩
      · decide +kernel
      · decide +kernel

end UriRouting
