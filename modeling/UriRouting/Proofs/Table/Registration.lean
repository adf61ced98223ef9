import UriRouting.Proofs.Table.Dispatch
import UriRouting.Proofs.Table.Script

/-!
# UriRouting.Proofs.Table.Registration

Registering routes only ever puts new ones behind those that are there.

* `Registry.Distinct` — no identity is given out twice, so no two routes of a table share one;
* `Registry.Extends` — what one call does to a registry, and so what a script does;
* `run_orderly` — in a table that was filled by a script, routes are found by their identity,
  and no later registration changes how a request is dispatched.
-/

namespace UriRouting

variable {γ : Type}

/-! ### Identities -/

namespace Route

theorem new_id {id : RouteId} {uri : Text} {callback : γ} {r : Route γ}
    (h : Route.new id uri callback = .ok r) : r.id = id := by
  obtain ⟨-, rfl⟩ := new_eq_ok_iff.mp h
  rfl

@[simp] theorem withCaseSensitive_id (r : Route γ) (on : Bool) :
    (r.withCaseSensitive on).id = r.id := by
  unfold Route.withCaseSensitive
  split <;> rfl

theorem withOptions_id {id : RouteId} {uri : Text} {callback : γ} {options : RouteOptions}
    {r : Route γ} (h : Route.withOptions id uri callback options = .ok r) : r.id = id := by
  obtain ⟨r', hnew, hr⟩ := bind_eq_ok.mp h
  cases hr
  rw [← new_id hnew]
  cases options.caseSensitive with
  | none => rfl
  | some on => exact withCaseSensitive_id r' on

theorem withRule_id {r r' : Route γ} {key : Text} {rule : ValueRule}
    (h : r.withRule key rule = .ok r') : r'.id = r.id := by
  obtain ⟨rules, -, hr'⟩ := bind_eq_ok.mp h
  cases hr'
  rfl

/-- A change that may be refused keeps the identity. -/
theorem getD_id {r : Route γ} {outcome : Except RoutingError (Route γ)}
    (h : ∀ r', outcome = .ok r' → r'.id = r.id) : (outcome.toOption.getD r).id = r.id := by
  cases outcome with
  | error e => rfl
  | ok r' => exact h r' rfl

/-- No operation changes the identity. -/
@[simp] theorem perform_id (r : Route γ) (op : Operation γ) : (r.perform op).id = r.id := by
  cases op with
  | withUri uri =>
      refine getD_id fun r' h => ?_
      obtain ⟨ps, -, hr'⟩ := bind_eq_ok.mp h
      cases hr'
      rfl
  | withAnything key =>
      refine getD_id fun r' h => ?_
      unfold Route.withAnything at h
      split at h
      · cases h
      · split at h <;> cases h <;> rfl
  | withRule key rule => exact getD_id fun _ h => withRule_id h
  | withRegex key raw =>
      refine getD_id fun r' h => ?_
      unfold Route.withRegex at h
      split at h
      · cases h
      · obtain ⟨regex, -, h⟩ := bind_eq_ok.mp h
        exact withRule_id h
  | withCaseSensitive on => exact withCaseSensitive_id r on
  | tryMatch request =>
      rw [perform, afterMatch]
      split <;> rfl
  | withCallback callback | withMethod values | withScheme values | withHost values
  | withPort values | compile => rfl

@[simp] theorem performAll_id (r : Route γ) (ops : List (Operation γ)) :
    (r.performAll ops).id = r.id := by
  induction ops generalizing r with
  | nil => rfl
  | cons op ops ih => exact (ih (r.perform op)).trans (perform_id r op)

theorem matched_eq_some_iff {r : Route γ} {request : Request} {m : RouteMatch γ} :
    r.matched request = some m ↔ r = m.route ∧ r.tryMatch request = some m.parameters := by
  rw [matched, Option.map_eq_some_iff]
  constructor
  · rintro ⟨parameters, hmatch, rfl⟩
    exact ⟨rfl, hmatch⟩
  · rintro ⟨rfl, hmatch⟩
    exact ⟨_, hmatch, rfl⟩

theorem matched_eq_none_iff {r : Route γ} {request : Request} :
    r.matched request = none ↔ r.tryMatch request = none :=
  Option.map_eq_none_iff

end Route

/-! ### Places -/

namespace Table

theorem contains_eq_true_iff {t : Table γ} {id : RouteId} :
    t.contains id = true ↔ id ∈ t.routes.map (·.id) := by
  simp [contains]

/-- The identity of a route leads to its own place. -/
structure FoundAt (t : Table γ) (before : List (Route γ)) (route : Route γ)
    (after : List (Route γ)) : Prop where
  /-- The route is there. -/
  contains : t.contains route.id = true
  /-- It is the route that is found. -/
  route? : t.route? route.id = some route
  /-- It is the route that is replaced. -/
  replace : ∀ other, (t.replace route.id other).routes = before ++ other :: after

/-- An identity that no route has leads nowhere. -/
structure Missing (t : Table γ) (id : RouteId) : Prop where
  /-- No route is there. -/
  contains : t.contains id = false
  /-- No route is found. -/
  route? : t.route? id = none
  /-- No route is replaced. -/
  replace : ∀ other, (t.replace id other).routes = t.routes

theorem replaceFirst_append {id : RouteId} {before : List (Route γ)}
    (h : id ∉ before.map (·.id)) (other : Route γ) (routes : List (Route γ)) :
    replaceFirst id other (before ++ routes) = before ++ replaceFirst id other routes := by
  induction before with
  | nil => rfl
  | cons r before ih =>
      rw [List.map_cons, List.mem_cons, not_or] at h
      rw [List.cons_append, replaceFirst, if_neg (Ne.symm h.1), ih h.2, List.cons_append]

theorem find?_id_eq_none {id : RouteId} {routes : List (Route γ)}
    (h : id ∉ routes.map (·.id)) : routes.find? (·.id = id) = none := by
  rw [List.find?_eq_none]
  intro r hr hid
  exact h (decide_eq_true_iff.mp hid ▸ List.mem_map_of_mem hr)

theorem foundAt {t : Table γ} (hnodup : (t.routes.map (·.id)).Nodup)
    {before after : List (Route γ)} {route : Route γ} (h : t.routes = before ++ route :: after) :
    t.FoundAt before route after := by
  -- no route before it has the same identity
  have hbefore : route.id ∉ before.map (·.id) := by
    rw [h, List.map_append, List.map_cons, List.nodup_append] at hnodup
    exact fun hmem => hnodup.2.2 _ hmem _ (List.mem_cons_self ..) rfl
  refine ⟨?_, ?_, fun other => ?_⟩
  · rw [contains_eq_true_iff, h]
    simp
  · rw [route?, h, List.find?_append, find?_id_eq_none hbefore, Option.none_or,
      List.find?_cons_of_pos (by simp)]
  · rw [replace, h, replaceFirst_append hbefore, replaceFirst, if_pos rfl]

theorem missing {t : Table γ} {id : RouteId} (h : id ∉ t.routes.map (·.id)) : t.Missing id where
  contains := by
    rw [← Bool.not_eq_true, contains_eq_true_iff]
    exact h
  route? := find?_id_eq_none h
  replace := fun other => by
    have hnone := replaceFirst_append h other []
    rwa [replaceFirst, List.append_nil] at hnone

/-- A request is dispatched to the first route that matches it. -/
theorem dispatch_eq_some_iff {t : Table γ} {request : Request} {m : RouteMatch γ} :
    t.dispatch request = some m ↔
      ∃ before after, t.routes = before ++ m.route :: after ∧
        m.route.tryMatch request = some m.parameters ∧
        ∀ r ∈ before, r.tryMatch request = none := by
  simp only [dispatch, List.findSome?_eq_some_iff, Route.matched_eq_some_iff,
    Route.matched_eq_none_iff]
  constructor
  · rintro ⟨before, route, after, hroutes, ⟨rfl, hmatch⟩, hbefore⟩
    exact ⟨before, after, hroutes, hmatch, hbefore⟩
  · rintro ⟨before, after, hroutes, hmatch, hbefore⟩
    exact ⟨before, m.route, after, hroutes, ⟨rfl, hmatch⟩, hbefore⟩

/-- Routes that are put behind others do not change what these are dispatched. -/
theorem dispatch_of_prefix {t t' : Table γ} (h : t.routes <+: t'.routes) {request : Request}
    {m : RouteMatch γ} (hm : t.dispatch request = some m) : t'.dispatch request = some m := by
  obtain ⟨more, hroutes⟩ := h
  rw [dispatch] at hm
  rw [dispatch, ← hroutes, List.findSome?_append, hm, Option.some_or]

/-- A route that is there is not added again. -/
theorem add_of_contains {t : Table γ} {route : Route γ} (h : t.contains route.id = true) :
    t.add route = .ok t := by
  rw [add_eq, if_pos h]

end Table

/-! ### Registering -/

namespace Registry

/-- No identity is given out twice: those of the routes in the table differ, and all that
were given out, to them and to the routes at hand, are below the next one. -/
structure Distinct (reg : Registry γ) (hand : List (Route γ)) : Prop where
  /-- No two routes of the table share an identity. -/
  nodup : (reg.table.routes.map (·.id)).Nodup
  /-- The identities in the table were given out. -/
  table : ∀ r ∈ reg.table.routes, r.id.number < reg.next
  /-- The identities at hand were given out. -/
  hand : ∀ r ∈ hand, r.id.number < reg.next

/-- What registering does to a registry and the routes at hand. -/
structure Extends (reg : Registry γ) (hand : List (Route γ)) (reg' : Registry γ)
    (hand' : List (Route γ)) : Prop where
  /-- The routes stay where they are, as they are. -/
  routes : reg.table.routes <+: reg'.table.routes
  /-- No identity is given out twice. -/
  distinct : reg.Distinct hand → reg'.Distinct hand'

namespace Extends

variable {reg reg' reg'' : Registry γ} {hand hand' hand'' : List (Route γ)}

theorem refl (reg : Registry γ) (hand : List (Route γ)) : Extends reg hand reg hand :=
  ⟨List.prefix_rfl, id⟩

theorem trans (h : Extends reg hand reg' hand') (h' : Extends reg' hand' reg'' hand'') :
    Extends reg hand reg'' hand'' :=
  ⟨h.routes.trans h'.routes, h'.distinct ∘ h.distinct⟩

/-- An identity is used up. -/
theorem next (reg : Registry γ) (hand : List (Route γ)) :
    Extends reg hand { reg with next := reg.next + 1 } hand where
  routes := List.prefix_rfl
  distinct := fun h =>
    ⟨h.nodup, fun r hr => Nat.lt_succ_of_lt (h.table r hr),
      fun r hr => Nat.lt_succ_of_lt (h.hand r hr)⟩

/-- Another route is at hand, with an identity that was given out. -/
theorem cons {route : Route γ} (h : reg.Distinct hand → route.id.number < reg.next) :
    Extends reg hand reg (route :: hand) where
  routes := List.prefix_rfl
  distinct := fun hdistinct =>
    ⟨hdistinct.nodup, hdistinct.table, List.forall_mem_cons.mpr ⟨h hdistinct, hdistinct.hand⟩⟩

/-- A route is put at the end of the table, with an identity that was given out by then and
that is not there. -/
theorem append {route : Route γ} {number : Nat} (hle : reg.next ≤ number)
    (hnumber : reg.Distinct hand → route.id.number < number)
    (hnew : reg.Distinct hand → route.id ∉ reg.table.routes.map (·.id)) :
    Extends reg hand { table := reg.table.append route, next := number } hand where
  routes := List.prefix_append _ _
  distinct := by
    intro h
    refine ⟨?_, ?_, fun r hr => Nat.lt_of_lt_of_le (h.hand r hr) hle⟩
    · rw [Table.append, List.map_append, List.nodup_append]
      refine ⟨h.nodup, by simp, fun a ha b hb hab => hnew h ?_⟩
      rw [List.map_singleton, List.mem_singleton] at hb
      rwa [← hb, ← hab]
    · rw [Table.append, List.forall_mem_append]
      exact ⟨fun r hr => Nat.lt_of_lt_of_le (h.table r hr) hle,
        List.forall_mem_singleton.mpr (hnumber h)⟩

end Extends

/-- The next identity is not in the table. -/
theorem Distinct.next_not_mem {reg : Registry γ} {hand : List (Route γ)} (h : reg.Distinct hand) :
    ⟨reg.next⟩ ∉ reg.table.routes.map (·.id) := by
  intro hmem
  obtain ⟨r, hr, hid⟩ := List.mem_map.mp hmem
  have hlt := h.table r hr
  rw [hid] at hlt
  exact Nat.lt_irrefl _ hlt

variable (reg : Registry γ) (hand : List (Route γ))

theorem extends_mint {make : RouteId → Except RoutingError (Route γ)}
    (hid : ∀ id route, make id = .ok route → route.id = id) :
    Extends reg hand (reg.mint make).2 (handOf (reg.mint make).1 hand) := by
  rw [mint]
  cases hmade : make ⟨reg.next⟩ with
  | error e => exact .refl reg hand
  | ok route =>
      refine (Extends.next reg hand).trans (.cons fun _ => ?_)
      rw [hid _ _ hmade]
      exact Nat.lt_succ_self reg.next

theorem extends_newRoute (uri : Text) (callback : γ) (options : Option RouteOptions) :
    Extends reg hand (reg.newRoute uri callback options).2
      (handOf (reg.newRoute uri callback options).1 hand) := by
  refine extends_mint reg hand fun id route hmade => ?_
  cases options with
  | none => exact Route.new_id hmade
  | some options => exact Route.withOptions_id hmade

theorem extends_add {route : Route γ} (hroute : route ∈ hand) :
    Extends reg hand (reg.add route).2 hand := by
  rw [add, Table.add_eq]
  cases hcontains : reg.table.contains route.id with
  | true => exact .refl reg hand
  | false =>
      cases route.compile with
      | error e => exact .refl reg hand
      | ok compiled =>
          refine .append (Nat.le_refl _) (fun h => h.hand route hroute) fun _ => ?_
          rw [← Table.contains_eq_true_iff]
          exact Bool.eq_false_iff.mp hcontains

theorem prepare_id (options : TableOptions) (scope : Option Scope)
    (methods : Option (List Method)) (route : Route γ) :
    (prepare options scope methods route).id = route.id := by
  rw [← Route.withCaseSensitive_id route ((scope.bind (·.caseSensitive)).getD options.caseSensitive)]
  cases scope <;> cases methods <;> rfl

/-- A route that is made for some methods is put at the end of the table, or is refused; then
its identity may be used up. -/
theorem extends_httpIn (scope : Option Scope) (tokens : List Text) (uri : Text) (callback : γ) :
    Extends reg hand (reg.httpIn scope tokens uri callback).2
      (handOf (reg.httpIn scope tokens uri callback).1 hand) := by
  rw [httpIn]
  cases Method.parseList tokens uri with
  | error e => exact .refl reg hand
  | ok methods =>
      unfold insert
      extract_lets uri
      rw [mint]
      cases hmade : Route.new ⟨reg.next⟩ uri callback with
      | error e => exact .refl reg hand
      | ok route =>
          have hid : (prepare reg.table.options scope methods route).remember.id = ⟨reg.next⟩ :=
            (prepare_id ..).trans (Route.new_id hmade)
          have hnumber : (prepare reg.table.options scope methods route).remember.id.number <
              reg.next + 1 := hid ▸ Nat.lt_succ_self reg.next
          dsimp only
          cases hcompile : (prepare reg.table.options scope methods route).compile with
          | error e => exact .next reg hand
          | ok compiled =>
              refine (Extends.append (Nat.le_succ _) (fun _ => hnumber) fun h => ?_).trans
                (.cons fun _ => hnumber)
              exact hid ▸ h.next_not_mem

/-- **A call extends the registry**, whatever its answer. -/
theorem extends_perform (c : RouteCall γ) :
    Extends reg hand (reg.perform hand c).2 (reg.perform hand c).1.2 := by
  cases c with
  | make uri callback options => exact extends_newRoute reg hand uri callback options
  | change place op =>
      rw [perform]
      cases hplace : hand[place]? with
      | none => exact .refl reg hand
      | some route =>
          refine .cons fun h => ?_
          rw [Route.perform_id]
          exact h.hand route (List.mem_of_getElem? hplace)
  | add place =>
      rw [perform]
      cases hplace : hand[place]? with
      | none => exact .refl reg hand
      | some route => exact extends_add reg hand (List.mem_of_getElem? hplace)
  | http tokens uri callback => exact extends_httpIn reg hand none tokens uri callback
  | verb method uri callback => exact extends_httpIn reg hand none [method.token] uri callback

end Registry

/-- A call in a group is one at the table itself, or makes a route under the scope. -/
theorem Group.extends_perform (g : Group γ) (hand : List (Route γ)) (c : RouteCall γ) :
    Registry.Extends g.registry hand (g.perform hand c).2.registry (g.perform hand c).1.2 := by
  cases c with
  | make uri callback options => exact g.registry.extends_perform hand (.make uri callback options)
  | change place op => exact g.registry.extends_perform hand (.change place op)
  | add place =>
      have hplain := g.registry.extends_perform hand (.add place)
      rw [Registry.perform] at hplain
      rw [Group.perform]
      cases hplace : hand[place]? with
      | none => exact .refl g.registry hand
      | some route => rwa [hplace] at hplain
  | http tokens uri callback =>
      exact Registry.extends_httpIn g.registry hand g.scope tokens uri callback
  | verb method uri callback =>
      exact Registry.extends_httpIn g.registry hand g.scope [method.token] uri callback

@[simp] theorem Group.withDefault_registry (g : Group γ) (d : GroupDefault) :
    (g.withDefault d).registry = g.registry := by
  cases d <;> rfl

/-- **A script extends the registry**, by induction on the script: so does each of its calls,
and so does each of its groups. -/
theorem Script.extends_run (script : Script γ) (hand : List (Route γ)) (g : Group γ) :
    Registry.Extends g.registry hand (script.run hand g).2.registry (script.run hand g).1.2 := by
  induction script generalizing hand g with
  | finish outcome => exact .refl g.registry hand
  | set d next ih =>
      have hnext := ih hand (g.withDefault d)
      rwa [Group.withDefault_registry] at hnext
  | call c next ih => exact (g.extends_perform hand c).trans (ih _ _ _)
  | group base body next ihBody ihNext =>
      have hbody := ihBody hand { registry := g.registry, scope := some (.new base) }
      -- what comes after the group starts from its registry, under no scope
      exact hbody.trans (ihNext _ _ { registry := _, scope := none })

/-! ### Tables that were filled by a script -/

namespace Registry

/-- What holds of a table in which no two routes share an identity. -/
structure Orderly (reg : Registry γ) : Prop where
  /-- No two routes share an identity. -/
  nodup : (reg.table.routes.map (·.id)).Nodup
  /-- The identity of a route leads to its own place. -/
  found : ∀ before route after, reg.table.routes = before ++ route :: after →
    reg.table.FoundAt before route after
  /-- An identity that no route has leads nowhere. -/
  missing : ∀ id, id ∉ reg.table.routes.map (·.id) → reg.table.Missing id
  /-- A copy of a route of the table is not added, however it was changed. The answer is the
  identity of the route. -/
  copies : ∀ route ∈ reg.table.routes, ∀ copy : Route γ, copy.id = route.id →
    ∀ ops, reg.add (copy.performAll ops) = (.ok route.id, reg)
  /-- A request is dispatched to the first route that matches it. -/
  dispatch : ∀ request m, reg.table.dispatch request = some m ↔
    ∃ before after, reg.table.routes = before ++ m.route :: after ∧
      m.route.tryMatch request = some m.parameters ∧ ∀ r ∈ before, r.tryMatch request = none

/-- What a later registration leaves as it is. -/
structure Continues (reg reg' : Registry γ) : Prop where
  /-- The routes stay where they are, as they are. -/
  routes : reg.table.routes <+: reg'.table.routes
  /-- A request that is dispatched to a route still is, with the same parameters. -/
  dispatch : ∀ request m, reg.table.dispatch request = some m →
    reg'.table.dispatch request = some m

theorem Distinct.orderly {reg : Registry γ} {hand : List (Route γ)} (h : reg.Distinct hand) :
    reg.Orderly where
  nodup := h.nodup
  found := fun _ _ _ hroutes => Table.foundAt h.nodup hroutes
  missing := fun _ hid => Table.missing hid
  copies := fun route hroute copy hid ops => by
    have hcontains : reg.table.contains (copy.performAll ops).id = true := by
      rw [Route.performAll_id, hid, Table.contains_eq_true_iff]
      exact List.mem_map_of_mem hroute
    rw [add, Table.add_of_contains hcontains, Route.performAll_id, hid]
  dispatch := fun _ _ => Table.dispatch_eq_some_iff

theorem Extends.continues {reg reg' : Registry γ} {hand hand' : List (Route γ)}
    (h : Extends reg hand reg' hand') : reg.Continues reg' where
  routes := h.routes
  dispatch := fun _ _ => Table.dispatch_of_prefix h.routes

/-- What a script does outside of all groups extends the registry. -/
theorem extends_run (reg : Registry γ) (hand : List (Route γ)) (script : Script γ) :
    Extends reg hand (reg.run hand script).2 (reg.run hand script).1.2 :=
  script.extends_run hand { registry := reg, scope := none }

theorem distinct_empty (options : TableOptions) (next : Nat) :
    Distinct ({ table := .empty options, next := next } : Registry γ) [] :=
  ⟨List.nodup_nil, List.forall_mem_nil _, List.forall_mem_nil _⟩

/-- **Registering keeps a table orderly and diverts no requests.** When a script has filled an
empty table, the table is orderly; and whatever script comes after it, with the routes that are
then at hand, leaves the routes in front and the requests that they are dispatched. -/
theorem run_orderly (options : TableOptions) (next : Nat) (script : Script γ) :
    let ((_, hand), reg) := Registry.run { table := .empty options, next := next } [] script
    reg.Orderly ∧ ∀ later, reg.Continues (reg.run hand later).2 :=
  ⟨((extends_run _ [] script).distinct (distinct_empty options next)).orderly,
    fun later => (extends_run _ _ later).continues⟩

end Registry

end UriRouting
