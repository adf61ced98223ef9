import UriRouting.Proofs.Request.Constraints
import UriRouting.Proofs.Route.History

/-!
# UriRouting.Proofs.Route.Constraints

What the constraints of a route demand, whatever was done with the route. A route is made and
then changed in any order, and on each of four axes (`Axis`) only the list that was set last
counts (`lastSet`).

* `listOf_performAll` — the list that is kept on an axis is that of the values set last;
* `constraints_admits` — a request is permitted if that list permits it on each axis, so that
  the spelling and the order of values make no difference, a list that is read back and set
  again changes nothing, and neither does setting one axis on another.
-/

namespace UriRouting

/-! ### Axes -/

/-- What a request can be constrained by. -/
inductive Axis where
  /-- The method. -/
  | method
  /-- The scheme. -/
  | scheme
  /-- The host. -/
  | host
  /-- The port. -/
  | port
  deriving DecidableEq, Repr

namespace Axis

/-- The form that the values of an axis are kept in. -/
def fold : Axis → Text → Text
  | method => Text.upper
  | scheme | host | port => Text.lower

/-- The list of some constraints. -/
def listOf (c : Constraints) : Axis → AllowList
  | method => c.method
  | scheme => c.scheme
  | host => c.host
  | port => c.port

/-- The value of a request. -/
def valueOf (r : Request) : Axis → Option Text
  | method => r.method
  | scheme => r.scheme
  | host => r.host
  | port => r.port

/-- The values that a route is made with. -/
def given (options : RouteOptions) : Axis → List Text
  | method => options.method
  | scheme => options.scheme
  | host => options.host
  | port => options.port

theorem folds (axis : Axis) : Folds axis.fold := by
  cases axis with
  | method => exact folds_upper
  | scheme => exact folds_lower
  | host => exact folds_lower
  | port => exact folds_lower

end Axis

theorem Constraints.admits_iff (c : Constraints) (request : Request) :
    c.admits request = true ↔
      ∀ axis : Axis, (axis.listOf c).admits axis.fold (axis.valueOf request) = true := by
  rw [Constraints.admits]
  simp only [Bool.and_eq_true]
  constructor
  · intro h axis
    cases axis with
    | method => exact h.1.1.1
    | scheme => exact h.1.1.2
    | host => exact h.1.2
    | port => exact h.2
  · intro h
    exact ⟨⟨⟨h .method, h .scheme⟩, h .host⟩, h .port⟩

namespace Route

variable {γ : Type}

/-- The route for other values on an axis. -/
def withAxis (r : Route γ) : Axis → List Text → Route γ
  | .method, values => r.withMethod values
  | .scheme, values => r.withScheme values
  | .host, values => r.withHost values
  | .port, values => r.withPort values

theorem listOf_withAxis (r : Route γ) (axis axis' : Axis) (values : List Text) :
    axis'.listOf (r.withAxis axis values).constraints =
      if axis' = axis then .ofValues axis.fold values else axis'.listOf r.constraints := by
  cases axis <;> cases axis' <;> rfl

/-- A route is the same if it is given the list that it has. -/
theorem withAxis_eq_self {r : Route γ} {axis : Axis} {values : List Text}
    (h : .ofValues axis.fold values = axis.listOf r.constraints) : r.withAxis axis values = r := by
  cases axis with
  | method => exact congrArg (fun list => { r with constraints.method := list }) h
  | scheme => exact congrArg (fun list => { r with constraints.scheme := list }) h
  | host => exact congrArg (fun list => { r with constraints.host := list }) h
  | port => exact congrArg (fun list => { r with constraints.port := list }) h

/-! ### The list that was set last -/

/-- The axis that an operation sets, and the values that it sets it to. -/
def Operation.setting? : Operation γ → Option (Axis × List Text)
  | .withMethod values => some (.method, values)
  | .withScheme values => some (.scheme, values)
  | .withHost values => some (.host, values)
  | .withPort values => some (.port, values)
  | _ => none

/-- The values of an axis after an operation. -/
def Operation.valuesAfter (op : Operation γ) (axis : Axis) (before : List Text) : List Text :=
  match op.setting? with
  | some (axis', values) => if axis = axis' then values else before
  | none => before

/-- The values that some operations set last on an axis, or those from before. -/
def lastSet (axis : Axis) (before : List Text) (ops : List (Operation γ)) : List Text :=
  ops.foldl (fun values op => op.valuesAfter axis values) before

/-- A route that is made with some settings, or with none. -/
inductive MadeWith : RouteOptions → Route γ → Prop where
  | new {id : RouteId} {uri : Text} {callback : γ} {r : Route γ}
      (h : Route.new id uri callback = .ok r) : MadeWith {} r
  | withOptions {id : RouteId} {uri : Text} {callback : γ} {options : RouteOptions}
      {r : Route γ} (h : Route.withOptions id uri callback options = .ok r) : MadeWith options r

theorem new_constraints {id : RouteId} {uri : Text} {callback : γ} {r : Route γ}
    (h : Route.new id uri callback = .ok r) : r.constraints = {} := by
  rw [(new_eq_ok_iff.mp h).2]
  rfl

@[simp] theorem withCaseSensitive_constraints (r : Route γ) (on : Bool) :
    (r.withCaseSensitive on).constraints = r.constraints := by
  unfold withCaseSensitive
  split <;> rfl

theorem MadeWith.listOf {options : RouteOptions} {r : Route γ} (h : MadeWith options r)
    (axis : Axis) : axis.listOf r.constraints = .ofValues axis.fold (axis.given options) := by
  cases h with
  | new h =>
      rw [new_constraints h]
      cases axis <;> rfl
  | withOptions h =>
      obtain ⟨made, -, h⟩ := bind_eq_ok.mp h
      cases h
      cases axis <;> rfl

/-- A change that may be refused keeps the constraints if it keeps them where it is not. -/
theorem getD_constraints {r : Route γ} {outcome : Except RoutingError (Route γ)}
    (h : ∀ r', outcome = .ok r' → r'.constraints = r.constraints) :
    (outcome.toOption.getD r).constraints = r.constraints := by
  cases outcome with
  | error e => rfl
  | ok r' => exact h r' rfl

theorem withUri_constraints {r r' : Route γ} {uri : Text} (h : r.withUri uri = .ok r') :
    r'.constraints = r.constraints := by
  obtain ⟨ps, -, h⟩ := bind_eq_ok.mp h
  cases h
  rfl

theorem withAnything_constraints {r r' : Route γ} {key : Text} (h : r.withAnything key = .ok r') :
    r'.constraints = r.constraints := by
  rw [withAnything] at h
  split_ifs at h
  · cases h
    rfl
  · cases h
    rfl

theorem withRule_constraints {r r' : Route γ} {key : Text} {rule : ValueRule}
    (h : r.withRule key rule = .ok r') : r'.constraints = r.constraints := by
  obtain ⟨rules, -, h⟩ := bind_eq_ok.mp h
  cases h
  rfl

theorem withRegex_constraints {r r' : Route γ} {key raw : Text}
    (h : r.withRegex key raw = .ok r') : r'.constraints = r.constraints := by
  rw [withRegex] at h
  split_ifs at h
  · cases h
  · obtain ⟨e, -, h⟩ := bind_eq_ok.mp h
    exact withRule_constraints h

theorem perform_of_setting? {op : Operation γ} {axis : Axis} {values : List Text}
    (h : op.setting? = some (axis, values)) (r : Route γ) :
    r.perform op = r.withAxis axis values := by
  cases op <;> cases h <;> rfl

/-- An operation that sets no axis keeps the constraints. -/
theorem perform_constraints {op : Operation γ} (h : op.setting? = none) (r : Route γ) :
    (r.perform op).constraints = r.constraints := by
  cases op with
  | withUri uri => exact getD_constraints fun _ => withUri_constraints
  | withCallback callback => rfl
  | withCaseSensitive on => exact withCaseSensitive_constraints r on
  | withMethod values => cases h
  | withScheme values => cases h
  | withHost values => cases h
  | withPort values => cases h
  | withAnything key => exact getD_constraints fun _ => withAnything_constraints
  | withRule key rule => exact getD_constraints fun _ => withRule_constraints
  | withRegex key raw => exact getD_constraints fun _ => withRegex_constraints
  | compile => rfl
  | tryMatch request =>
      show (r.afterMatch request).constraints = r.constraints
      unfold afterMatch
      split <;> rfl

/-- **One operation** sets the list of an axis or leaves it as it is. -/
theorem listOf_perform {r : Route γ} {axis : Axis} {before : List Text}
    (h : axis.listOf r.constraints = .ofValues axis.fold before) (op : Operation γ) :
    axis.listOf (r.perform op).constraints = .ofValues axis.fold (op.valuesAfter axis before) := by
  unfold Operation.valuesAfter
  cases hset : op.setting? with
  | none =>
      show axis.listOf (r.perform op).constraints = .ofValues axis.fold before
      rw [perform_constraints hset, h]
  | some setting =>
      obtain ⟨axis', values⟩ := setting
      rw [perform_of_setting? hset, listOf_withAxis]
      by_cases haxis : axis = axis'
      · simp [haxis]
      · simp [haxis, h]

/-- **The list of an axis is that of the values set last.** -/
theorem listOf_performAll {r : Route γ} {axis : Axis} {before : List Text}
    (h : axis.listOf r.constraints = .ofValues axis.fold before) (ops : List (Operation γ)) :
    axis.listOf (r.performAll ops).constraints = .ofValues axis.fold (lastSet axis before ops) := by
  induction ops generalizing r before with
  | nil => exact h
  | cons op ops ih => exact ih (listOf_perform h op)

/-- What a route that was made with settings and then changed permits. -/
theorem admits_performAll {options : RouteOptions} {start : Route γ} (h : MadeWith options start)
    (ops : List (Operation γ)) (request : Request) :
    (start.performAll ops).constraints.admits request = true ↔
      ∀ axis : Axis, Permits (lastSet axis (axis.given options) ops) (axis.valueOf request) := by
  rw [Constraints.admits_iff]
  refine forall_congr' fun axis => ?_
  rw [listOf_performAll (h.listOf axis) ops, AllowList.admits_ofValues axis.folds]

/-- **A request is permitted if on each axis the list that was set last permits it.** Two routes
whose lists are written differently permit the same requests, however their values are spelled; a
list that is read back and set again leaves the route as it is; and setting one axis leaves the
others as they are. -/
theorem constraints_admits {options : RouteOptions} {start : Route γ}
    (h : MadeWith options start) (ops : List (Operation γ)) :
    (∀ request, (start.performAll ops).constraints.admits request = true ↔
      ∀ axis : Axis, Permits (lastSet axis (axis.given options) ops) (axis.valueOf request)) ∧
    (∀ {options' : RouteOptions} {start' : Route γ} {ops' : List (Operation γ)}
      {request request' : Request}, MadeWith options' start' →
        (∀ axis : Axis, Rewritten (lastSet axis (axis.given options) ops)
          (lastSet axis (axis.given options') ops')) →
        (∀ axis : Axis, Option.Rel SameSpelling (axis.valueOf request) (axis.valueOf request')) →
        (start.performAll ops).constraints.admits request =
          (start'.performAll ops').constraints.admits request') ∧
    (∀ axis : Axis, (start.performAll ops).withAxis axis
      ((axis.listOf (start.performAll ops).constraints).getD []) = start.performAll ops) ∧
    ∀ (axis axis' : Axis) (values : List Text), axis' ≠ axis →
      axis'.listOf ((start.performAll ops).withAxis axis values).constraints =
        axis'.listOf (start.performAll ops).constraints := by
  refine ⟨admits_performAll h ops, ?_, ?_, ?_⟩
  · intro options' start' ops' request request' h' hlists hvalues
    rw [Bool.eq_iff_iff, admits_performAll h, admits_performAll h']
    exact forall_congr' fun axis => (hlists axis).permits_iff (hvalues axis)
  · intro axis
    refine withAxis_eq_self ?_
    rw [listOf_performAll (h.listOf axis) ops]
    exact AllowList.ofValues_getD axis.folds _
  · intro axis axis' values hne
    rw [listOf_withAxis, if_neg hne]

/-- Two routes for a host and a method, of which the first was for a scheme in between. -/
theorem constraints_admits_hosts :
    ∃ start : Route Unit, MadeWith {} start ∧
      let r := start.performAll [.withScheme ["ftp".toList], .withHost ["\tFoo.com ".toList, []],
        .withMethod ["get".toList], .withScheme [" ".toList]]
      let r' := start.performAll [.withMethod ["GET".toList], .withHost ["foo.COM".toList]]
      (∀ path, r.constraints.admits
        { path := path, method := some "Get".toList, host := some "foo.com".toList } = true) ∧
      ∀ request, r.constraints.admits request = r'.constraints.admits request := by
  have hstart : MadeWith {} (ofUri ⟨1⟩ ['/'] ()) :=
    .new (new_eq_ok_iff.mpr ⟨by decide +kernel, rfl⟩)
  refine ⟨_, hstart, ?_, ?_⟩
  · intro path
    refine ((constraints_admits hstart _).1 _).mpr ?_
    intro axis
    cases axis with
    | method => exact .inr ⟨_, rfl, _, List.mem_cons_self .., by decide, by decide⟩
    | scheme => exact .inl (by decide)
    | host => exact .inr ⟨_, rfl, _, List.mem_cons_self .., by decide, by decide⟩
    | port => exact .inl (by decide)
  · intro request
    refine (constraints_admits hstart _).2.1 hstart ?_ ?_
    · intro axis
      cases axis with
      | method => exact .respell (.cons (by decide) .nil)
      | scheme => exact .symm (.pad (by decide))
      | host =>
          -- the blank entry is moved to the front and left out
          refine .trans (.reorder (List.Perm.swap ..)) (.trans (.symm (.pad rfl)) ?_)
          exact .respell (.cons (by decide) .nil)
      | port => exact .reorder (List.Perm.refl _)
    · intro axis
      cases axis.valueOf request with
      | none => exact .none
      | some value => exact .some rfl

end Route

end UriRouting
