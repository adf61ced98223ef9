import UriRouting.Proofs.Route.Reachable

/-!
# UriRouting.Proofs.Route.History

Routes with a history. A route is made and then changed, compiled and matched in any order
(`Operation`, `performAll`), where an operation that is refused leaves it as it was.

* `tryMatch_congr` — what a route matches depends on its settings only (`SameSettings`);
* `performAll_upToDate` — whatever was done with a route, what it keeps of its template is up
  to date, and it matches like one that was made anew with its settings.

What a route keeps is coherent after each operation (`Reachable.perform`), and so after all
of them. A copy of a route has the history of the route up to then.
-/

namespace UriRouting.Template

/-! ### Names of variables that take every text -/

/-- Only which names are among those that take every text matters for the tokens. -/
theorem ofPieces_congr {anything anything' : List Text}
    (h : ∀ key, key ∈ anything ↔ key ∈ anything') (reversed : Text) (ps : List Piece) :
    Token.ofPieces anything reversed ps = Token.ofPieces anything' reversed ps := by
  induction ps generalizing reversed with
  | nil => rfl
  | cons p ps ih =>
      cases p with
      | char c => exact ih (c :: reversed)
      | slot s =>
          have helem : anything.elem s.name = anything'.elem s.name := by
            rw [Bool.eq_iff_iff, List.elem_iff, List.elem_iff]
            exact h s.name
          rw [ofPieces_slot, ofPieces_slot, ih, slotVariable, slotVariable, helem]

theorem compilePieces_congr {anything anything' : List Text}
    (h : ∀ key, key ∈ anything ↔ key ∈ anything') (pattern : Text) (ps : List Piece)
    (caseSensitive : Bool) :
    compilePieces pattern ps caseSensitive anything =
      compilePieces pattern ps caseSensitive anything' := by
  have htokens : tokenize ps anything = tokenize ps anything' := ofPieces_congr h [] ps
  rw [compilePieces, compilePieces, htokens]

end UriRouting.Template

namespace UriRouting.Route

variable {γ : Type}

/-! ### Settings -/

/-- Two routes have the same template, the same regard to case, the same variables that take
every text, the same constraints and the same rules. -/
structure SameSettings (r r' : Route γ) : Prop where
  /-- The templates are the same. -/
  uri : r.uri = r'.uri
  /-- Case counts for both or for none. -/
  caseSensitive : r.caseSensitive = r'.caseSensitive
  /-- The same variables take every text. -/
  anything : ∀ key, key ∈ r.anything ↔ key ∈ r'.anything
  /-- The constraints are the same. -/
  constraints : r.constraints = r'.constraints
  /-- Each variable has the same rules, in the same order. -/
  rules : ∀ key, r.rules.rules key = r'.rules.rules key

/-- Coherent routes with the same settings are compiled alike. -/
theorem compile_congr {r r' : Route γ} (hr : Coherent r) (hr' : Coherent r')
    (h : SameSettings r r') : r.compile = r'.compile := by
  have hpieces : r.pieces = r'.pieces := by
    have hscan := hr.scanned
    rw [h.uri, hr'.scanned] at hscan
    exact (Except.ok.inj hscan).symm
  rw [hr.compile_eq, hr'.compile_eq, h.uri, hpieces, h.caseSensitive,
    Template.compilePieces_congr h.anything]

theorem readParameters_congr {r r' : Route γ} (h : SameSettings r r')
    (captures : List (Template.Variable × Option Text)) :
    r.readParameters captures = r'.readParameters captures := by
  induction captures with
  | nil => rfl
  | cons p captures ih =>
      obtain ⟨v, value⟩ := p
      cases value with
      | some value =>
          have haccepts : r.rules.accepts v.name value r.caseSensitive =
              r'.rules.accepts v.name value r'.caseSensitive := by
            rw [RuleSet.accepts, RuleSet.accepts, h.rules, h.caseSensitive]
          rw [readParameters, readParameters, haccepts, ih]
      | none => rw [readParameters, readParameters, ih]

/-- **Matching depends on the settings of a route only.** -/
theorem tryMatch_congr {r r' : Route γ} (hr : Coherent r) (hr' : Coherent r')
    (h : SameSettings r r') (request : Request) : r.tryMatch request = r'.tryMatch request := by
  have hread : r.readParameters = r'.readParameters := funext (readParameters_congr h)
  rw [tryMatch, tryMatch, h.constraints, compile_congr hr hr' h, hread]

/-! ### Operations -/

/-- What can be done with a route. -/
inductive Operation (γ : Type) where
  /-- Another template. -/
  | withUri (uri : Text)
  /-- Another callback. -/
  | withCallback (callback : γ)
  /-- With or without regard to case. -/
  | withCaseSensitive (on : Bool)
  /-- Other methods. -/
  | withMethod (values : List Text)
  /-- Other schemes. -/
  | withScheme (values : List Text)
  /-- Other hosts. -/
  | withHost (values : List Text)
  /-- Other ports. -/
  | withPort (values : List Text)
  /-- A variable more that takes every text. -/
  | withAnything (key : Text)
  /-- A rule more. -/
  | withRule (key : Text) (rule : ValueRule)
  /-- A rule more that is an expression. -/
  | withRegex (key raw : Text)
  /-- Making the template ready for matching. -/
  | compile
  /-- Matching a request. -/
  | tryMatch (request : Request)

/-- The route after an operation. One that is refused leaves the route as it was. -/
def perform (r : Route γ) : Operation γ → Route γ
  | .withUri uri => (r.withUri uri).toOption.getD r
  | .withCallback callback => r.withCallback callback
  | .withCaseSensitive on => r.withCaseSensitive on
  | .withMethod values => r.withMethod values
  | .withScheme values => r.withScheme values
  | .withHost values => r.withHost values
  | .withPort values => r.withPort values
  | .withAnything key => (r.withAnything key).toOption.getD r
  | .withRule key rule => (r.withRule key rule).toOption.getD r
  | .withRegex key raw => (r.withRegex key raw).toOption.getD r
  | .compile => r.remember
  | .tryMatch request => r.afterMatch request

/-- The route after some operations, one after another. -/
def performAll (r : Route γ) (ops : List (Operation γ)) : Route γ :=
  ops.foldl perform r

/-- A route of which nothing is known but how it was made. -/
inductive Made : Route γ → Prop where
  | new {id : RouteId} {uri : Text} {callback : γ} {r : Route γ}
      (h : Route.new id uri callback = .ok r) : Made r
  | withOptions {id : RouteId} {uri : Text} {callback : γ} {options : RouteOptions}
      {r : Route γ} (h : Route.withOptions id uri callback options = .ok r) : Made r

theorem Made.reachable {r : Route γ} (h : Made r) : Reachable r := by
  cases h with
  | new h => exact .new h
  | withOptions h => exact .withOptions h

/-- A change that may be refused. -/
theorem Reachable.getD {r : Route γ} (hr : Reachable r) {outcome : Except RoutingError (Route γ)}
    (h : ∀ r', outcome = .ok r' → Reachable r') : Reachable (outcome.toOption.getD r) := by
  cases outcome with
  | error e => exact hr
  | ok r' => exact h r' rfl

theorem Reachable.afterMatch {r : Route γ} (hr : Reachable r) (request : Request) :
    Reachable (r.afterMatch request) := by
  unfold Route.afterMatch
  split
  · exact hr.remember
  · exact hr

/-- One operation. -/
theorem Reachable.perform {r : Route γ} (hr : Reachable r) (op : Operation γ) :
    Reachable (r.perform op) := by
  cases op with
  | withUri uri => exact hr.getD fun _ h => hr.withUri h
  | withCallback callback => exact hr.withCallback callback
  | withCaseSensitive on => exact hr.withCaseSensitive on
  | withMethod values => exact hr.withMethod values
  | withScheme values => exact hr.withScheme values
  | withHost values => exact hr.withHost values
  | withPort values => exact hr.withPort values
  | withAnything key => exact hr.getD fun _ h => hr.withAnything h
  | withRule key rule => exact hr.getD fun _ h => hr.withRule h
  | withRegex key raw => exact hr.getD fun _ h => hr.withRegex h
  | compile => exact hr.remember
  | tryMatch request => exact hr.afterMatch request

/-- Operations one after another. -/
theorem Reachable.performAll {r : Route γ} (hr : Reachable r) (ops : List (Operation γ)) :
    Reachable (r.performAll ops) := by
  induction ops generalizing r with
  | nil => exact hr
  | cons op ops ih => exact ih (hr.perform op)

/-! ### Routes that are up to date -/

/-- A route that is made anew, with an identity and a callback of its own, and is given the
settings of another. -/
def fresh (r : Route γ) (id : RouteId) (callback : γ) : Except RoutingError (Route γ) := do
  let made ← Route.new id r.uri callback
  return { made with
    caseSensitive := r.caseSensitive
    anything := r.anything
    constraints := r.constraints
    rules := r.rules }

/-- Nothing that a route keeps is out of date. -/
structure UpToDate (r : Route γ) : Prop where
  /-- The markers are those of the template. -/
  markers : Template.scanMarkers r.uri = .ok r.markers
  /-- The template that is ready for matching, if there is one, is that of the settings. -/
  compiled : ∀ c, r.compiled = some c →
    Template.compile r.uri r.caseSensitive r.anything = .ok c
  /-- A route with the same settings that was never compiled can be made, and it matches the
  same requests with the same parameters. -/
  fresh : ∀ id callback, ∃ made, r.fresh id callback = .ok made ∧ made.compiled = none ∧
    ∀ request, r.tryMatch request = made.tryMatch request

/-- A route anew is the route but for its identity and its callback, and nothing is known of
its template. -/
theorem Reachable.fresh_eq {r : Route γ} (hr : Reachable r) (id : RouteId) (callback : γ) :
    r.fresh id callback =
      .ok { r with id := id, callback := callback, compiled := none } := by
  have hscan := hr.coherent.scanned
  have hpieces := hr.pieces_eq
  -- the template is in normal form and has been scanned, so it is taken as it is
  have hnew : Route.new id r.uri callback = .ok (ofUri id r.uri callback) := by
    refine new_eq_ok_iff.mpr ⟨?_, rfl⟩
    rw [hr.normalize_uri, ← hpieces, hscan]
  have hmade : ofUri id r.uri callback =
      { id := id, uri := r.uri, pieces := r.pieces, callback := callback } := by
    rw [ofUri, hr.normalize_uri, ← hpieces]
  rw [fresh, hnew, hmade]
  rfl

theorem Reachable.upToDate {r : Route γ} (hr : Reachable r) : UpToDate r where
  markers := by
    rw [Template.scanMarkers, hr.coherent.scanned]
    rfl
  compiled := fun c hc =>
    bind_eq_ok.mpr ⟨r.pieces, hr.coherent.scanned, hr.coherent.cached c hc⟩
  fresh := by
    intro id callback
    refine ⟨_, hr.fresh_eq id callback, rfl, tryMatch_congr hr.coherent ?_ ?_⟩
    · exact ⟨hr.coherent.scanned, by simp⟩
    · exact ⟨rfl, rfl, fun _ => Iff.rfl, rfl, fun _ => rfl⟩

/-- **What a route keeps is up to date whatever was done with it**, and routes with different
histories but the same settings match alike. -/
theorem performAll_upToDate {start : Route γ} (hstart : Made start) (ops : List (Operation γ)) :
    UpToDate (start.performAll ops) ∧
      ∀ {start' : Route γ} {ops' : List (Operation γ)}, Made start' →
        SameSettings (start.performAll ops) (start'.performAll ops') →
        ∀ request, (start.performAll ops).tryMatch request =
          (start'.performAll ops').tryMatch request := by
  have hr := hstart.reachable.performAll ops
  refine ⟨hr.upToDate, fun hstart' hsame => ?_⟩
  exact tryMatch_congr hr.coherent (hstart'.reachable.performAll _).coherent hsame

/-- A route that was compiled, changed, matched and refused a template matches like one that
came to the same settings in another way. -/
theorem performAll_upToDate_items :
    ∃ (start start' : Route Unit) (ops ops' : List (Operation Unit)),
      Made start ∧ Made start' ∧
      SameSettings (start.performAll ops) (start'.performAll ops') ∧
      (start.performAll ops).compiled.isSome = true ∧ UpToDate (start.performAll ops) ∧
      ∀ request, (start.performAll ops).tryMatch request =
        (start'.performAll ops').tryMatch request := by
  have hstart : Made (ofUri ⟨1⟩ "/items/{id}".toList ()) :=
    .new (new_eq_ok_iff.mpr ⟨by decide +kernel, rfl⟩)
  have hstart' : Made (ofUri ⟨2⟩ "/".toList ()) :=
    .new (new_eq_ok_iff.mpr ⟨by decide +kernel, rfl⟩)
  let ops : List (Operation Unit) :=
    [.compile, .withAnything "id".toList, .withUri "/{a}/{a}".toList,
      .tryMatch { path := "/items/1/2".toList }]
  let ops' : List (Operation Unit) :=
    [.withCaseSensitive true, .withUri "items/{id}/".toList, .compile,
      .withAnything "id".toList, .withAnything [], .withCaseSensitive false]
  have hsame : SameSettings ((ofUri ⟨1⟩ "/items/{id}".toList ()).performAll ops)
      ((ofUri ⟨2⟩ "/".toList ()).performAll ops') := by
    have hanything : ((ofUri ⟨1⟩ "/items/{id}".toList ()).performAll ops).anything =
        ((ofUri ⟨2⟩ "/".toList ()).performAll ops').anything := by
      decide +kernel
    have hrules : ((ofUri ⟨1⟩ "/items/{id}".toList ()).performAll ops).rules =
        ((ofUri ⟨2⟩ "/".toList ()).performAll ops').rules := by
      decide +kernel
    exact ⟨by decide +kernel, by decide +kernel, fun key => by rw [hanything],
      by decide +kernel, fun key => by rw [hrules]⟩
  obtain ⟨hupToDate, hmatch⟩ := performAll_upToDate hstart ops
  exact ⟨_, _, ops, ops', hstart, hstart', hsame, by decide +kernel, hupToDate,
    hmatch hstart' hsame⟩

end UriRouting.Route
