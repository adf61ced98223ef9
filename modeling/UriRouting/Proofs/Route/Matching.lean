import UriRouting.Proofs.Route.Reachable
import UriRouting.Proofs.Template.Captures

/-!
# UriRouting.Proofs.Route.Matching

When a route without constraints and rules matches a request, in terms of the splits of
its path:

* `tryMatch_static` — a route without variables compares its template with the path;
* `tryMatch_variables` — a route with variables takes the greatest split, and then looks
  whether it leaves a variable empty that has to be there;
* `tryMatch_isSome_iff` — when there is a match.

A lesser split that would leave no such variable empty is not tried
(`tryMatch_misses_split`).
-/

namespace UriRouting.Template

/-- Every variable that may not be left out has a value that is not empty. -/
def Filled (ts : List Token) (values : List (Option Text)) : Prop :=
  ∀ v value, (v, value) ∈ (variablesOf ts).zip values → v.optional = false →
    ∃ text, value = some text ∧ text ≠ []

/-- Whether a variable that is reported has a value, or may be left out. -/
def isSatisfied (entry : Variable × Option Text) : Bool :=
  entry.1.optional || entry.2.isSome

theorem isSatisfied_iff (v : Variable) (value : Option Text) :
    isSatisfied (v, reported value) = true ↔
      (v.optional = false → ∃ text, value = some text ∧ text ≠ []) := by
  cases value with
  | none => simp [isSatisfied, reported]
  | some text => cases hv : v.optional <;> cases text <;> simp [isSatisfied, reported, hv]

theorem filled_iff {ts : List Token} {values : List (Option Text)} :
    Filled ts values ↔ (report ts values).all isSatisfied = true := by
  unfold Filled report
  induction variablesOf ts generalizing values with
  | nil => simp
  | cons v vs ih =>
      cases values with
      | nil => simp
      | cons value values =>
          rw [List.map_cons, List.zip_cons_cons, List.zip_cons_cons, List.all_cons,
            Bool.and_eq_true, isSatisfied_iff, ← ih]
          simp only [List.mem_cons, Prod.mk.injEq]
          constructor
          · intro h
            exact ⟨h v value (.inl ⟨rfl, rfl⟩), fun v' value' hmem => h v' value' (.inr hmem)⟩
          · intro h v' value' hmem
            rcases hmem with ⟨rfl, rfl⟩ | hmem
            · exact h.1
            · exact h.2 v' value' hmem

end UriRouting.Template

namespace UriRouting.Route

open Template (GreatestSplit Split Filled namesOf tokenize leadOf splits report isSatisfied
  Variable)

variable {γ : Type}

/-- The tokens of a route's template. -/
def tokens (r : Route γ) : List Template.Token :=
  tokenize r.pieces r.anything

/-- What a route without rules makes of the variables and their values. -/
theorem readParameters_of_isEmpty {r : Route γ} (hrules : r.rules.isEmpty = true)
    (captures : List (Variable × Option Text)) :
    r.readParameters captures =
      if captures.all isSatisfied then some (captures.map fun p => (p.1.name, p.2)) else none := by
  have haccepts : ∀ key value, r.rules.accepts key value r.caseSensitive = true := by
    intro key value
    have hentries : r.rules.entries = [] := List.isEmpty_iff.mp hrules
    simp [RuleSet.accepts, RuleSet.rules, hentries]
  induction captures with
  | nil => rfl
  | cons p captures ih =>
      obtain ⟨v, value⟩ := p
      rw [List.all_cons, List.map_cons]
      cases value with
      | some value =>
          rw [readParameters, haccepts, if_pos rfl, ih]
          by_cases hall : captures.all isSatisfied = true <;> simp [hall, isSatisfied]
      | none =>
          rw [readParameters, ih]
          by_cases hall : captures.all isSatisfied = true <;>
            by_cases hv : v.optional = true <;> simp [hall, hv, isSatisfied]

/-- A route without constraints and rules, for any outcome of its template. -/
theorem tryMatch_of_isOpen {r : Route γ} (hopen : r.constraints.isOpen = true)
    (hrules : r.rules.isEmpty = true) (request : Request) :
    r.tryMatch request = r.compile.toOption.bind fun c =>
      (c.captures (Uri.normalize request.path)).bind fun captures =>
        if captures.all isSatisfied then some ⟨captures.map fun p => (p.1.name, p.2)⟩
        else none := by
  have hadmits : r.constraints.admits request = true := by
    simp only [Constraints.isOpen, Bool.and_eq_true, Option.isNone_iff_eq_none] at hopen
    obtain ⟨⟨⟨hmethod, hscheme⟩, hhost⟩, hport⟩ := hopen
    simp [Constraints.admits, AllowList.admits, hmethod, hscheme, hhost, hport]
  rw [tryMatch, if_pos hadmits]
  congr 1
  funext c
  congr 1
  funext captures
  rw [readParameters_of_isEmpty hrules]
  split <;> rfl

/-- The parameters for the values of a split. -/
def parametersOf (ts : List Template.Token) (values : List (Option Text)) : Parameters :=
  ⟨(report ts values).map fun p => (p.1.name, p.2)⟩

/-- What a route makes of its template. -/
theorem Reachable.compile_eq {r : Route γ} (hr : r.Reachable) :
    r.compile =
      if namesOf r.tokens = [] then .ok (.plain r.uri r.tokens r.caseSensitive)
      else if Template.withinLimits (!r.caseSensitive) r.tokens then
        .ok (.ofTokens r.uri r.tokens r.caseSensitive)
      else .error (.template (.uncompilable r.uri)) := by
  rw [hr.coherent.compile_eq, Template.compilePieces_eq hr.coherent.scanned, ← tokens]
  split
  · rfl
  · split <;> rfl

/-- A template that has been compiled, with variables or without. -/
theorem Reachable.eq_of_compile {r : Route γ} (hr : r.Reachable) {c : Template.Compiled}
    (h : r.compile = .ok c) :
    (namesOf r.tokens = [] ∧ c = .plain r.uri r.tokens r.caseSensitive) ∨
      c = .ofTokens r.uri r.tokens r.caseSensitive := by
  rw [hr.compile_eq] at h
  split at h
  · rename_i hnames
    cases h
    exact .inl ⟨hnames, rfl⟩
  · split at h
    · cases h
      exact .inr rfl
    · cases h

/-- A route with variables can be compiled if its expression stays within the limits. -/
theorem Reachable.compiles_iff {r : Route γ} (hr : r.Reachable) (hvars : namesOf r.tokens ≠ []) :
    (∃ c, r.compile = .ok c) ↔ Template.withinLimits (!r.caseSensitive) r.tokens = true := by
  rw [hr.compile_eq, if_neg hvars]
  split
  · rename_i h
    exact iff_of_true ⟨_, rfl⟩ h
  · rename_i h
    exact iff_of_false (fun ⟨_, hc⟩ => by cases hc) h

/-- **A route without variables** compares its template with the path. -/
theorem tryMatch_static {r : Route γ} (hr : r.Reachable)
    (hopen : r.constraints.isOpen = true) (hrules : r.rules.isEmpty = true)
    (hvars : namesOf r.tokens = []) (request : Request) :
    r.tryMatch request =
      if Uri.eqFolded r.uri (Uri.normalize request.path) r.caseSensitive then some {}
      else none := by
  rw [tryMatch_of_isOpen hopen hrules, hr.compile_eq, if_pos hvars, Except.toOption,
    Option.bind_some, Template.captures_plain]
  split
  · rfl
  · rfl

/-- **A route with variables** takes the greatest split of a path. Only then does it look
whether the variables that may not be left out have got something. -/
theorem tryMatch_variables {r : Route γ} (hr : r.Reachable)
    (hopen : r.constraints.isOpen = true) (hrules : r.rules.isEmpty = true)
    (hvars : namesOf r.tokens ≠ []) (request : Request) :
    r.tryMatch request = r.compile.toOption.bind fun _ =>
      if (leadOf r.tokens).all
          (Uri.startsWithFolded (Uri.normalize request.path) · r.caseSensitive) then
        (splits r.caseSensitive r.tokens (Uri.normalize request.path)).head?.bind fun values =>
          if (report r.tokens values).all isSatisfied then some (parametersOf r.tokens values)
          else none
      else none := by
  rw [tryMatch_of_isOpen hopen hrules, hr.compile_eq, if_neg hvars]
  split
  · rw [Except.toOption, Option.bind_some, Option.bind_some, tokens,
      Template.captures_ofTokens hr.coherent.scanned]
    split
    · rw [Option.bind_map]
      rfl
    · rfl
  · rfl

/-- **When a route without constraints and rules matches.** Its template has to be one that
can be compiled. If it has variables, the path has to start with its literal text, and the
greatest split of the path has to leave none of them empty that may not be left out. -/
theorem tryMatch_isSome_iff {r : Route γ} (hr : r.Reachable)
    (hopen : r.constraints.isOpen = true) (hrules : r.rules.isEmpty = true)
    (request : Request) :
    (r.tryMatch request).isSome = true ↔
      (∃ c, r.compile = .ok c) ∧
        if namesOf r.tokens = [] then
          Uri.eqFolded r.uri (Uri.normalize request.path) r.caseSensitive = true
        else
          (∀ lead, leadOf r.tokens = some lead →
            Uri.startsWithFolded (Uri.normalize request.path) lead r.caseSensitive = true) ∧
          ∃ values,
            GreatestSplit r.caseSensitive r.tokens (Uri.normalize request.path) values ∧
              Filled r.tokens values := by
  by_cases hvars : namesOf r.tokens = []
  · have hcompile : ∃ c, r.compile = .ok c := ⟨_, hr.compile_eq.trans (if_pos hvars)⟩
    rw [tryMatch_static hr hopen hrules hvars, if_pos hvars, iff_true_intro hcompile, true_and]
    split
    · rename_i h
      exact iff_of_true rfl h
    · rename_i h
      exact iff_of_false (by decide) h
  · rw [tryMatch_variables hr hopen hrules hvars, if_neg hvars]
    have hne := Template.ne_nil_of_namesOf hvars
    have hlead : (leadOf r.tokens).all
        (Uri.startsWithFolded (Uri.normalize request.path) · r.caseSensitive) = true ↔
          ∀ lead, leadOf r.tokens = some lead →
            Uri.startsWithFolded (Uri.normalize request.path) lead r.caseSensitive = true :=
      Option.all_eq_true _ _
    rw [← hlead]
    simp only [← Template.head?_splits_eq_some_iff hne, Template.filled_iff]
    cases hcompile : r.compile with
    | error e => simp [Except.toOption]
    | ok c =>
        cases (splits r.caseSensitive r.tokens (Uri.normalize request.path)).head? with
        | none => simp [Except.toOption]
        | some values =>
            simp only [Except.toOption, Option.bind_some, Except.ok.injEq, exists_eq', true_and,
              Option.some.injEq, exists_eq_left']
            split
            · rename_i hlead'
              split
              · rename_i hall
                exact iff_of_true rfl ⟨hlead', hall⟩
              · rename_i hall
                exact iff_of_false (by decide) fun h => hall h.2
            · rename_i hlead'
              exact iff_of_false (by decide) fun h => hlead' h.1

/-- A slash at the end of the path does not count. -/
theorem tryMatch_isSome_items :
    ∃ r : Route Unit, r.Reachable ∧ r.constraints.isOpen = true ∧ r.rules.isEmpty = true ∧
      (r.tryMatch { path := "/items/7/".toList }).isSome = true := by
  have hr : Reachable (ofUri ⟨1⟩ "/items/{id}".toList ()) :=
    reachable_ofUri ⟨1⟩ () (by decide +kernel)
  have hvars : namesOf (ofUri ⟨1⟩ "/items/{id}".toList ()).tokens ≠ [] := by
    decide +kernel
  have hcompile : ∃ c, (ofUri ⟨1⟩ "/items/{id}".toList ()).compile = .ok c :=
    ⟨_, hr.compile_eq.trans ((if_neg hvars).trans (if_pos (by decide +kernel)))⟩
  refine ⟨_, hr, rfl, rfl, (tryMatch_isSome_iff hr rfl rfl _).mpr ⟨hcompile, ?_⟩⟩
  rw [if_neg hvars]
  refine ⟨?_, [some ['7']], ?_, ?_⟩
  · exact (Option.all_eq_true _ _).mp (by decide +kernel)
  · exact (Template.head?_splits_eq_some_iff (by decide +kernel)).mp (by decide +kernel)
  · exact Template.filled_iff.mpr (by decide +kernel)

/-- Of two variables side by side, the first one takes all there is. The second one has to
be there and goes without, although the text would do for both. -/
theorem tryMatch_misses_split :
    ∃ (r : Route Unit) (values : List (Option Text)),
      r.Reachable ∧ r.constraints.isOpen = true ∧ r.rules.isEmpty = true ∧
        Split r.caseSensitive r.tokens (Uri.normalize "/xy".toList) values ∧
        Filled r.tokens values ∧ r.tryMatch { path := "/xy".toList } = none := by
  have hr : Reachable (ofUri ⟨1⟩ "/{a}{b}".toList ()) :=
    reachable_ofUri ⟨1⟩ () (by decide +kernel)
  have hanything : (ofUri ⟨1⟩ "/{a}{b}".toList ()).withAnything "b".toList =
      .ok { ofUri ⟨1⟩ "/{a}{b}".toList () with anything := ["b".toList] } := rfl
  refine ⟨_, [some ['x'], some ['y']], hr.withAnything hanything, rfl, rfl, ?_, ?_, ?_⟩
  · exact (Template.mem_splits (by decide +kernel)).mp (by decide +kernel)
  · exact Template.filled_iff.mpr (by decide +kernel)
  · decide +kernel

end UriRouting.Route
