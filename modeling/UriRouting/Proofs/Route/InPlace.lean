import UriRouting.Proofs.Route.History

/-!
# UriRouting.Proofs.Route.InPlace

Routes that are changed in place. The functions for routes give a new route or none at all;
here the same changes are made field by field to a route that stays where it is, so that a
change which is refused halfway would leave its traces.

* `Route.change` — an operation as a sequence of writes to the route;
* `change_eq` — the writes come to what the functions for routes say (`Route.outcome`), and so
  to `Route.perform`;
* `atomic_change`, `RuleSet.atomic_addInPlace` — where one is refused, no field was written.
-/

namespace UriRouting

/-! ### Changes in place -/

/-- Something that is done to a state in place. It has an outcome, and leaves a state behind
whatever the outcome is. -/
abbrev InPlace (σ ε α : Type) :=
  ExceptT ε (StateM σ) α

theorem InPlace.get_bind {σ ε α : Type} (f : σ → InPlace σ ε α) (s : σ) :
    (get >>= f) s = f s s :=
  rfl

/-- Something that is done to a state as a whole or not at all. -/
structure Atomic {σ ε α : Type} (change : σ → Except ε α × σ) : Prop where
  /-- Where it is refused, the state is as before. -/
  unchanged : ∀ {s s' : σ} {e : ε}, change s = (.error e, s') → s' = s

theorem Atomic.eq_of_refused {σ ε α : Type} {change : σ → Except ε α × σ} (h : Atomic change)
    {s : σ} (hrefused : (change s).1.toOption = none) : ∃ e, change s = (.error e, s) := by
  cases hchange : change s with
  | mk outcome s' =>
      rw [hchange] at hrefused
      cases outcome with
      | error e => exact ⟨e, by rw [h.unchanged hchange]⟩
      | ok a => cases hrefused

/-- What becomes of a state that is replaced if there is a new one. -/
def settle {σ ε : Type} (s : σ) (outcome : Except ε σ) : Except ε Unit × σ :=
  (outcome.map fun _ => (), outcome.toOption.getD s)

theorem atomic_of_eq_settle {σ ε : Type} {change : σ → Except ε Unit × σ}
    {result : σ → Except ε σ} (h : ∀ s, change s = settle s (result s)) : Atomic change := by
  refine ⟨fun {s s' e} hrefused => ?_⟩
  rw [h] at hrefused
  cases houtcome : result s with
  | error e' =>
      rw [houtcome] at hrefused
      cases hrefused
      rfl
  | ok new =>
      rw [houtcome] at hrefused
      cases hrefused

/-! ### Rules -/

namespace RuleSet

/-- The entries with one for a name, which has no rules yet if it is new. -/
def openEntry (key : Text) : List (Text × List ValueRule) → List (Text × List ValueRule)
  | [] => [(key, [])]
  | (k, rules) :: entries =>
    if k = key then (k, rules) :: entries else (k, rules) :: openEntry key entries

/-- The entries with a rule more in the one for a name. -/
def push (key : Text) (rule : ValueRule) :
    List (Text × List ValueRule) → List (Text × List ValueRule)
  | [] => []
  | (k, rules) :: entries =>
    if k = key then (k, rules ++ [rule]) :: entries else (k, rules) :: push key rule entries

/-- Adds a rule in place: the entry of the name is made first, and the rule is put into it. -/
def addInPlace (key : Text) (rule : ValueRule) : InPlace RuleSet RuleError Unit := do
  if key.isEmpty then throw .emptyKey
  modify fun s => ⟨openEntry key s.entries⟩
  modify fun s => ⟨push key rule s.entries⟩

theorem push_openEntry (key : Text) (rule : ValueRule) (entries : List (Text × List ValueRule)) :
    push key rule (openEntry key entries) = insert key rule entries := by
  induction entries with
  | nil => simp [openEntry, push, insert]
  | cons entry entries ih =>
      obtain ⟨k, rules⟩ := entry
      by_cases hk : k = key
      · simp [openEntry, push, insert, hk]
      · simp [openEntry, push, insert, hk, ih]

theorem addInPlace_eq (key : Text) (rule : ValueRule) (s : RuleSet) :
    addInPlace key rule s = settle s (s.add key rule) := by
  rw [add]
  by_cases hkey : key.isEmpty = true
  · rw [addInPlace, if_pos hkey, if_pos hkey]
    rfl
  · rw [addInPlace, if_neg hkey, if_neg hkey, ← push_openEntry]
    rfl

/-- **A rule that is refused leaves no entry behind.** -/
theorem atomic_addInPlace (key : Text) (rule : ValueRule) : Atomic (addInPlace key rule) :=
  atomic_of_eq_settle (addInPlace_eq key rule)

end RuleSet

/-! ### Routes -/

namespace Route

variable {γ : Type}

/-- Changes the template in place. -/
def changeUri (uri : Text) : InPlace (Route γ) RoutingError Unit := do
  let uri := Uri.normalize uri
  let pieces ← MonadExcept.ofExcept (scanUri uri)
  modify fun r => { r with pieces := pieces }
  modify fun r => { r with uri := uri }
  modify forget

/-- Lets a variable take every text, in place. What is known of the template is forgotten if
the name is new. -/
def changeAnything (key : Text) : InPlace (Route γ) RoutingError Unit := do
  if key.isEmpty then throw (.rule .emptyKey)
  if !(← get).anything.elem key then
    modify fun r => { r with anything := r.anything ++ [key] }
    modify forget

/-- Adds a rule to those of the route, in place. -/
def changeRules (key : Text) (rule : ValueRule) : InPlace (Route γ) RoutingError Unit :=
  fun r =>
    let (outcome, rules) := RuleSet.addInPlace key rule r.rules
    (outcome.mapError .rule, { r with rules := rules })

/-- Adds an expression to the rules of the route, in place. The name of the variable is looked
at first, and once more with the rules. -/
def changeRegex (key raw : Text) : InPlace (Route γ) RoutingError Unit := do
  if key.isEmpty then throw (.rule .emptyKey)
  let expression ← MonadExcept.ofExcept ((CustomRegex.build key raw).mapError .rule)
  changeRules key (.regex expression)

theorem changeUri_eq (uri : Text) (r : Route γ) :
    changeUri uri r = settle r (r.withUri uri) := by
  rw [withUri, changeUri]
  cases scanUri (Uri.normalize uri) <;> rfl

theorem changeAnything_eq (key : Text) (r : Route γ) :
    changeAnything key r = settle r (r.withAnything key) := by
  rw [withAnything]
  by_cases hkey : key.isEmpty = true
  · rw [changeAnything, if_pos hkey, if_pos hkey]
    rfl
  · rw [changeAnything, if_neg hkey, if_neg hkey]
    beta_reduce
    rw [InPlace.get_bind]
    cases r.anything.elem key <;> rfl

theorem changeRules_eq (key : Text) (rule : ValueRule) (r : Route γ) :
    changeRules key rule r = settle r (r.withRule key rule) := by
  rw [changeRules, RuleSet.addInPlace_eq, withRule]
  cases r.rules.add key rule <;> rfl

theorem changeRegex_eq (key raw : Text) (r : Route γ) :
    changeRegex key raw r = settle r (r.withRegex key raw) := by
  rw [withRegex]
  by_cases hkey : key.isEmpty = true
  · rw [changeRegex, if_pos hkey, if_pos hkey]
    rfl
  · rw [changeRegex, if_neg hkey, if_neg hkey]
    cases hbuild : (CustomRegex.build key raw).mapError RoutingError.rule with
    | error e => rfl
    | ok expression => exact changeRules_eq key (.regex expression) r

/-! ### Operations -/

/-- What an operation makes of a route, unless it is refused. -/
def outcome (r : Route γ) : Operation γ → Except RoutingError (Route γ)
  | .withUri uri => r.withUri uri
  | .withAnything key => r.withAnything key
  | .withRule key rule => r.withRule key rule
  | .withRegex key raw => r.withRegex key raw
  | op => .ok (r.perform op)

/-- An operation on a route that stays where it is. -/
def change : Operation γ → InPlace (Route γ) RoutingError Unit
  | .withUri uri => changeUri uri
  | .withAnything key => changeAnything key
  | .withRule key rule => changeRules key rule
  | .withRegex key raw => changeRegex key raw
  | op => modify (·.perform op)

theorem change_eq (op : Operation γ) (r : Route γ) : change op r = settle r (r.outcome op) := by
  cases op with
  | withUri uri => exact changeUri_eq uri r
  | withAnything key => exact changeAnything_eq key r
  | withRule key rule => exact changeRules_eq key rule r
  | withRegex key raw => exact changeRegex_eq key raw r
  | withCallback callback | withCaseSensitive on | withMethod values | withScheme values
  | withHost values | withPort values | compile | tryMatch request => rfl

/-- Writing field by field comes to what `perform` says. -/
theorem change_snd (op : Operation γ) (r : Route γ) : (change op r).2 = r.perform op := by
  rw [change_eq]
  cases op <;> rfl

/-- **An operation that is refused writes nothing.** -/
theorem atomic_change (op : Operation γ) : Atomic (change op) :=
  atomic_of_eq_settle (change_eq op)

end Route

end UriRouting
