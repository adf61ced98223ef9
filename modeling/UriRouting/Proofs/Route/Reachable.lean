import UriRouting.Proofs.Template.Names
import UriRouting.Proofs.Uri.Path
import UriRouting.Route.Basic

/-!
# UriRouting.Proofs.Route.Reachable

The routes that a program can come by (`Route.Reachable`): those that are made and changed
by the functions for routes, in any order. What a route keeps of its template is up to
date in all of them (`Route.Coherent`), so it makes no difference whether it was matched
before (`Coherent.compile_eq`). Their templates are in normal form (`Reachable.normalize_uri`).
-/

namespace UriRouting.Route

variable {γ : Type}

/-- The routes that are made and changed by the functions for routes. -/
inductive Reachable : Route γ → Prop where
  | new {id : RouteId} {uri : Text} {callback : γ} {r : Route γ}
      (h : Route.new id uri callback = .ok r) : Reachable r
  | withOptions {id : RouteId} {uri : Text} {callback : γ} {options : RouteOptions}
      {r : Route γ} (h : Route.withOptions id uri callback options = .ok r) : Reachable r
  | withUri {r r' : Route γ} (hr : Reachable r) {uri : Text} (h : r.withUri uri = .ok r') :
      Reachable r'
  | withCallback {r : Route γ} (hr : Reachable r) (callback : γ) :
      Reachable (r.withCallback callback)
  | withCaseSensitive {r : Route γ} (hr : Reachable r) (on : Bool) :
      Reachable (r.withCaseSensitive on)
  | withMethod {r : Route γ} (hr : Reachable r) (values : List Text) :
      Reachable (r.withMethod values)
  | withScheme {r : Route γ} (hr : Reachable r) (values : List Text) :
      Reachable (r.withScheme values)
  | withHost {r : Route γ} (hr : Reachable r) (values : List Text) :
      Reachable (r.withHost values)
  | withPort {r : Route γ} (hr : Reachable r) (values : List Text) :
      Reachable (r.withPort values)
  | withAnything {r r' : Route γ} (hr : Reachable r) {key : Text}
      (h : r.withAnything key = .ok r') : Reachable r'
  | withRule {r r' : Route γ} (hr : Reachable r) {key : Text} {rule : ValueRule}
      (h : r.withRule key rule = .ok r') : Reachable r'
  | withRegex {r r' : Route γ} (hr : Reachable r) {key raw : Text}
      (h : r.withRegex key raw = .ok r') : Reachable r'
  | remember {r : Route γ} (hr : Reachable r) : Reachable r.remember

/-- What a route keeps is up to date. -/
structure Coherent (r : Route γ) : Prop where
  /-- The pieces are those of the template, whose names are in order. -/
  scanned : Template.scan r.uri = .ok r.pieces
  /-- What is kept of the template is what would be made of it. -/
  cached : ∀ c, r.compiled = some c →
    Template.compilePieces r.uri r.pieces r.caseSensitive r.anything = .ok c

theorem scanUri_eq_ok {uri : Text} {ps : List Template.Piece} :
    scanUri uri = .ok ps ↔ Template.scan uri = .ok ps :=
  mapError_eq_ok

/-- The route for a URI, before any change. -/
def ofUri (id : RouteId) (uri : Text) (callback : γ) : Route γ :=
  { id := id, uri := Uri.normalize uri, pieces := Template.Piece.scan (Uri.normalize uri)
    callback := callback }

/-- A route is made for every URI with names that are in order. -/
theorem new_eq_ok_iff {id : RouteId} {uri : Text} {callback : γ} {r : Route γ} :
    Route.new id uri callback = .ok r ↔
      Template.scan (Uri.normalize uri) = .ok (Template.Piece.scan (Uri.normalize uri)) ∧
        r = ofUri id uri callback := by
  constructor
  · intro h
    obtain ⟨ps, hscan, hr⟩ := bind_eq_ok.mp h
    have hps := scanUri_eq_ok.mp hscan
    obtain ⟨rfl, -⟩ := Template.scan_eq_ok hps
    cases hr
    exact ⟨hps, rfl⟩
  · intro h
    obtain ⟨hscan, rfl⟩ := h
    exact bind_eq_ok.mpr ⟨_, scanUri_eq_ok.mpr hscan, rfl⟩

theorem reachable_ofUri (id : RouteId) {uri : Text} (callback : γ)
    (h : Template.scan (Uri.normalize uri) = .ok (Template.Piece.scan (Uri.normalize uri))) :
    Reachable (ofUri id uri callback) :=
  .new (new_eq_ok_iff.mpr ⟨h, rfl⟩)

theorem coherent_new {id : RouteId} {uri : Text} {callback : γ} {r : Route γ}
    (h : Route.new id uri callback = .ok r) : Coherent r := by
  obtain ⟨hscan, rfl⟩ := new_eq_ok_iff.mp h
  exact ⟨hscan, by simp [ofUri]⟩

/-- A change that leaves the template and what is kept of it alone. -/
theorem Coherent.congr {r r' : Route γ} (hr : Coherent r) (huri : r'.uri = r.uri)
    (hpieces : r'.pieces = r.pieces) (hcase : r'.caseSensitive = r.caseSensitive)
    (hanything : r'.anything = r.anything) (hcompiled : r'.compiled = r.compiled) :
    Coherent r' where
  scanned := by
    rw [huri, hpieces]
    exact hr.scanned
  cached := by
    rw [huri, hpieces, hcase, hanything, hcompiled]
    exact hr.cached

theorem Coherent.withConstraints {r : Route γ} (hr : Coherent r) (constraints : Constraints) :
    Coherent { r with constraints := constraints } :=
  hr.congr rfl rfl rfl rfl rfl

/-- A change that takes back what is kept of the template. -/
theorem coherent_forget {r : Route γ} (h : Template.scan r.uri = .ok r.pieces) :
    Coherent r.forget :=
  ⟨h, by simp [forget]⟩

theorem Coherent.withCaseSensitive {r : Route γ} (hr : Coherent r) (on : Bool) :
    Coherent (r.withCaseSensitive on) := by
  unfold Route.withCaseSensitive
  split
  · exact hr
  · exact coherent_forget hr.scanned

theorem coherent_withOptions {id : RouteId} {uri : Text} {callback : γ}
    {options : RouteOptions} {r : Route γ}
    (h : Route.withOptions id uri callback options = .ok r) : Coherent r := by
  obtain ⟨r', hnew, hr⟩ := bind_eq_ok.mp h
  have hnew := coherent_new hnew
  cases hr
  -- the methods, schemes, hosts and ports are constraints, all four of them
  refine .withConstraints (.withConstraints (.withConstraints (.withConstraints ?_ _) _) _) _
  cases options.caseSensitive with
  | none => exact hnew
  | some on => exact hnew.withCaseSensitive on

theorem coherent_withUri {r r' : Route γ} {uri : Text} (h : r.withUri uri = .ok r') :
    Coherent r' := by
  obtain ⟨ps, hscan, hr⟩ := bind_eq_ok.mp h
  cases hr
  exact coherent_forget (scanUri_eq_ok.mp hscan)

theorem Coherent.withAnything {r r' : Route γ} (hr : Coherent r) {key : Text}
    (h : r.withAnything key = .ok r') : Coherent r' := by
  unfold Route.withAnything at h
  split at h
  · cases h
  · split at h
    · cases h
      exact hr
    · cases h
      exact coherent_forget hr.scanned

theorem Coherent.withRule {r r' : Route γ} (hr : Coherent r) {key : Text} {rule : ValueRule}
    (h : r.withRule key rule = .ok r') : Coherent r' := by
  obtain ⟨rules, -, hr'⟩ := bind_eq_ok.mp h
  cases hr'
  exact hr.congr rfl rfl rfl rfl rfl

theorem Coherent.withRegex {r r' : Route γ} (hr : Coherent r) {key raw : Text}
    (h : r.withRegex key raw = .ok r') : Coherent r' := by
  unfold Route.withRegex at h
  split at h
  · cases h
  · obtain ⟨regex, -, h⟩ := bind_eq_ok.mp h
    exact hr.withRule h

/-- A coherent route is compiled as if nothing were kept. -/
theorem Coherent.compile_eq {r : Route γ} (hr : Coherent r) :
    r.compile =
      (Template.compilePieces r.uri r.pieces r.caseSensitive r.anything).mapError .template := by
  unfold Route.compile
  cases hcompiled : r.compiled with
  | none => rfl
  | some c => rw [hr.cached c hcompiled, Except.mapError]

theorem Coherent.remember {r : Route γ} (hr : Coherent r) : Coherent r.remember where
  scanned := hr.scanned
  cached := by
    intro c hc
    have hcompile : r.compile = .ok c := by
      cases h : r.compile with
      | error e => rw [Route.remember, h] at hc; cases hc
      | ok c' => rw [Route.remember, h] at hc; cases hc; rfl
    rw [hr.compile_eq] at hcompile
    exact mapError_eq_ok.mp hcompile

/-- **What a route keeps is never out of date.** -/
theorem Reachable.coherent {r : Route γ} (hr : Reachable r) : Coherent r := by
  induction hr with
  | new h => exact coherent_new h
  | withOptions h => exact coherent_withOptions h
  | withUri _ h _ => exact coherent_withUri h
  | withCallback _ _ ih => exact ih.congr rfl rfl rfl rfl rfl
  | withMethod _ _ ih | withScheme _ _ ih | withHost _ _ ih | withPort _ _ ih =>
      exact ih.withConstraints _
  | withCaseSensitive _ on ih => exact ih.withCaseSensitive on
  | withAnything _ h ih => exact ih.withAnything h
  | withRule _ h ih => exact ih.withRule h
  | withRegex _ h ih => exact ih.withRegex h
  | remember _ ih => exact ih.remember

/-- The pieces that a route keeps are those of its template. -/
theorem Reachable.pieces_eq {r : Route γ} (hr : r.Reachable) :
    r.pieces = Template.Piece.scan r.uri :=
  (Template.scan_eq_ok hr.coherent.scanned).1

/-! ### The template is in normal form -/

@[simp] theorem withCaseSensitive_uri (r : Route γ) (on : Bool) :
    (r.withCaseSensitive on).uri = r.uri := by
  unfold Route.withCaseSensitive
  split <;> rfl

theorem withOptions_uri {id : RouteId} {uri : Text} {callback : γ} {options : RouteOptions}
    {r : Route γ} (h : Route.withOptions id uri callback options = .ok r) :
    r.uri = Uri.normalize uri := by
  obtain ⟨r', hnew, hr⟩ := bind_eq_ok.mp h
  obtain ⟨-, rfl⟩ := new_eq_ok_iff.mp hnew
  cases hr
  cases options.caseSensitive with
  | none => rfl
  | some on => exact withCaseSensitive_uri _ on

theorem withUri_uri {r r' : Route γ} {uri : Text} (h : r.withUri uri = .ok r') :
    r'.uri = Uri.normalize uri := by
  obtain ⟨ps, -, hr⟩ := bind_eq_ok.mp h
  cases hr
  rfl

theorem withAnything_uri {r r' : Route γ} {key : Text} (h : r.withAnything key = .ok r') :
    r'.uri = r.uri := by
  unfold Route.withAnything at h
  split at h
  · cases h
  · split at h <;> cases h <;> rfl

theorem withRule_uri {r r' : Route γ} {key : Text} {rule : ValueRule}
    (h : r.withRule key rule = .ok r') : r'.uri = r.uri := by
  obtain ⟨rules, -, hr'⟩ := bind_eq_ok.mp h
  cases hr'
  rfl

theorem withRegex_uri {r r' : Route γ} {key raw : Text} (h : r.withRegex key raw = .ok r') :
    r'.uri = r.uri := by
  unfold Route.withRegex at h
  split at h
  · cases h
  · obtain ⟨regex, -, h⟩ := bind_eq_ok.mp h
    exact withRule_uri h

theorem Reachable.normalize_uri {r : Route γ} (hr : Reachable r) :
    Uri.normalize r.uri = r.uri := by
  induction hr with
  | new h =>
      obtain ⟨-, rfl⟩ := new_eq_ok_iff.mp h
      exact Uri.normalize_normalize _
  | withOptions h => rw [withOptions_uri h, Uri.normalize_normalize]
  | withUri _ h _ => rw [withUri_uri h, Uri.normalize_normalize]
  | withCaseSensitive _ on ih => rw [withCaseSensitive_uri, ih]
  | withAnything _ h ih => rw [withAnything_uri h, ih]
  | withRule _ h ih => rw [withRule_uri h, ih]
  | withRegex _ h ih => rw [withRegex_uri h, ih]
  | withCallback _ _ ih | withMethod _ _ ih | withScheme _ _ ih | withHost _ _ ih
  | withPort _ _ ih | remember _ ih => exact ih

end UriRouting.Route
