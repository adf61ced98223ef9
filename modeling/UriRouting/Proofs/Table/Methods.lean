import UriRouting.Proofs.Route.Constraints
import UriRouting.Proofs.Table.Atomicity

/-!
# UriRouting.Proofs.Table.Methods

The methods that a route is declared for, from the texts that name them to the requests that
are permitted.

* `Method.parse?_eq_some_iff` — a text names the method that it agrees with in all but case and
  white space at the ends;
* `Method.readsNames_parseAll` — the names that are read are those of the texts in capitals, each
  once and in the order in which they come first, or else the first text that is no name is the
  error; `Method.readsList_parseList` is the same for all that is done with a list;
* `http_declaresMethods` — what comes of a call, on a table or in a group (`DeclaresMethods`).
-/

namespace UriRouting

/-! ### Names -/

namespace Method

/-- A text is the name of a method, in any spelling. -/
def IsName (t : Text) : Prop :=
  ∃ m ∈ all, m.token.lower = t.trim.lower

/-- A text is the name that stands for all methods, in any spelling. -/
def IsAny (t : Text) : Prop :=
  any.token.lower = t.trim.lower

theorem mem_all (m : Method) : m ∈ all := by
  cases m <;> decide

theorem token_inj {m m' : Method} (h : m.token.lower = m'.token.lower) : m = m' := by
  cases m <;> cases m' <;> first | rfl | exact absurd h (by decide)

@[simp] theorem token_upper (m : Method) : m.token.upper = m.token := by
  cases m <;> decide

@[simp] theorem token_trim (m : Method) : m.token.trim = m.token := by
  cases m <;> decide

theorem token_ne_nil (m : Method) : m.token ≠ [] := by
  cases m <;> decide

theorem parse?_eq_some_iff {t : Text} {m : Method} :
    parse? t = some m ↔ m.token.lower = t.trim.lower := by
  constructor
  · intro h
    have hfound := List.find?_some h
    exact beq_iff_eq.mp hfound
  · intro h
    cases hfind : parse? t with
    | none =>
        have hnone := List.find?_eq_none.mp hfind m (mem_all m)
        exact absurd (beq_iff_eq.mpr h) hnone
    | some m' =>
        have hfound := List.find?_some hfind
        rw [token_inj ((beq_iff_eq.mp hfound).trans h.symm)]

theorem parse?_eq_none_iff {t : Text} : parse? t = none ↔ ¬ IsName t := by
  rw [Option.eq_none_iff_forall_ne_some]
  constructor
  · rintro h ⟨m, -, hm⟩
    exact h m (parse?_eq_some_iff.mpr hm)
  · intro h m hm
    exact h ⟨m, mem_all m, parse?_eq_some_iff.mp hm⟩

/-- The name of a method is what names it, in capitals. -/
theorem token_of_parse? {t : Text} {m : Method} (h : parse? t = some m) :
    t.trim.upper = m.token := by
  rw [← token_upper m, Text.upper_eq_upper_iff]
  exact (parse?_eq_some_iff.mp h).symm

/-! ### Lists of names -/

/-- The names in capitals. -/
def names (tokens : List Text) : List Text :=
  tokens.map fun t => t.trim.upper

@[simp] theorem names_cons (t : Text) (tokens : List Text) :
    names (t :: tokens) = t.trim.upper :: names tokens := rfl

/-- The first text of a list that is no name. -/
def Offends (token : Text) (tokens : List Text) : Prop :=
  ∃ before after, tokens = before ++ token :: after ∧ (∀ t ∈ before, IsName t) ∧ ¬ IsName token

theorem not_offends_nil (token : Text) : ¬ Offends token [] := by
  rintro ⟨before, after, h, -⟩
  simp at h

theorem offends_cons_of_isName {t token : Text} {tokens : List Text} (ht : IsName t) :
    Offends token (t :: tokens) ↔ Offends token tokens := by
  constructor
  · rintro ⟨before, after, h, hbefore, htoken⟩
    cases before with
    | nil =>
        obtain ⟨rfl, -⟩ := List.cons.inj h
        exact absurd ht htoken
    | cons b before =>
        obtain ⟨-, h⟩ := List.cons.inj h
        exact ⟨before, after, h, fun t ht => hbefore t (List.mem_cons_of_mem _ ht), htoken⟩
  · rintro ⟨before, after, rfl, hbefore, htoken⟩
    exact ⟨t :: before, after, rfl, List.forall_mem_cons.mpr ⟨ht, hbefore⟩, htoken⟩

theorem offends_cons_of_not_isName {t token : Text} {tokens : List Text} (ht : ¬ IsName t) :
    Offends token (t :: tokens) ↔ t = token := by
  constructor
  · rintro ⟨before, after, h, hbefore, -⟩
    cases before with
    | nil => exact (List.cons.inj h).1
    | cons b before =>
        obtain ⟨rfl, -⟩ := List.cons.inj h
        exact absurd (hbefore t (List.mem_cons_self ..)) ht
  · rintro rfl
    exact ⟨[], tokens, rfl, by simp, ht⟩

theorem Offends.not_isName {token : Text} {tokens : List Text} (h : Offends token tokens) :
    ∃ t ∈ tokens, ¬ IsName t := by
  obtain ⟨before, after, rfl, -, htoken⟩ := h
  exact ⟨token, by simp, htoken⟩

theorem Offends.unique {token token' : Text} {tokens : List Text} (h : Offends token tokens)
    (h' : Offends token' tokens) : token = token' := by
  induction tokens with
  | nil => exact absurd h (not_offends_nil token)
  | cons t tokens ih =>
      by_cases ht : IsName t
      · rw [offends_cons_of_isName ht] at h h'
        exact ih h h'
      · rw [offends_cons_of_not_isName ht] at h h'
        rw [← h, ← h']

theorem exists_offends {tokens : List Text} (h : ∃ t ∈ tokens, ¬ IsName t) :
    ∃ token, Offends token tokens := by
  induction tokens with
  | nil => simp at h
  | cons t tokens ih =>
      by_cases ht : IsName t
      · simp only [offends_cons_of_isName ht]
        refine ih ?_
        simpa [ht] using h
      · exact ⟨t, (offends_cons_of_not_isName ht).mpr rfl⟩

/-- What comes of reading some names after others: all names in capitals, each once and where it
comes first, or the first text that is no name. -/
inductive ReadsNames (seen : List Method) (tokens : List Text) :
    Except RoutingError (List Method) → Prop where
  | names {methods : List Method} (hnames : ∀ t ∈ tokens, IsName t)
      (heq : methods.map token = (seen.map token ++ names tokens).eraseDups) :
      ReadsNames seen tokens (.ok methods)
  | offends {token : Text} (h : Offends token tokens) :
      ReadsNames seen tokens (.error (.unsupportedMethod token))

theorem token_mem_iff {m : Method} {ms : List Method} : m.token ∈ ms.map token ↔ m ∈ ms := by
  rw [List.mem_map]
  constructor
  · rintro ⟨m', hm', h⟩
    rwa [← token_inj (congrArg Text.lower h)]
  · intro h
    exact ⟨m, h, rfl⟩

theorem eraseDups_append_cons_of_mem {x : Text} {s : List Text} (h : x ∈ s) (r : List Text) :
    (s ++ x :: r).eraseDups = (s ++ r).eraseDups := by
  simp [List.eraseDups_append, List.removeAll, h]

theorem eraseDups_concat_of_not_mem {x : Text} {s : List Text} (hs : s.eraseDups = s) (h : x ∉ s) :
    (s ++ [x]).eraseDups = s ++ [x] := by
  simp [List.eraseDups_append, List.removeAll, List.eraseDups_cons, h, hs]

/-- **Names are read from left to right**, by induction on the texts that are left. The names
before them are distinct, and stay so. -/
theorem readsNames_parseAll {seen : List Method}
    (hseen : (seen.map token).eraseDups = seen.map token) (tokens : List Text) :
    ReadsNames seen tokens (parseAll seen tokens) := by
  induction tokens generalizing seen with
  | nil => exact .names (by simp) (by simp [names, hseen])
  | cons t tokens ih =>
      rw [parseAll]
      cases hparse : parse? t with
      | none =>
          exact .offends ((offends_cons_of_not_isName (parse?_eq_none_iff.mp hparse)).mpr rfl)
      | some m =>
          have ht : IsName t := ⟨m, mem_all m, parse?_eq_some_iff.mp hparse⟩
          -- reading on after the name is reading on after the names with it
          have hnext {seen' : List Method} {outcome : Except RoutingError (List Method)}
              (h : ReadsNames seen' tokens outcome)
              (hseen' : (seen'.map token ++ names tokens).eraseDups =
                (seen.map token ++ names (t :: tokens)).eraseDups) :
              ReadsNames seen (t :: tokens) outcome := by
            cases h with
            | names hnames heq =>
                exact .names (List.forall_mem_cons.mpr ⟨ht, hnames⟩) (heq.trans hseen')
            | offends h => exact .offends ((offends_cons_of_isName ht).mpr h)
          show ReadsNames seen (t :: tokens)
            (parseAll (if seen.elem m then seen else seen ++ [m]) tokens)
          rw [names_cons, token_of_parse? hparse] at hnext
          by_cases hm : m ∈ seen
          · rw [if_pos (List.elem_iff.mpr hm)]
            refine hnext (ih hseen) ?_
            rw [eraseDups_append_cons_of_mem (token_mem_iff.mpr hm)]
          · rw [if_neg (mt List.elem_iff.mp hm)]
            have hmap : (seen ++ [m]).map token = seen.map token ++ [m.token] := by simp
            refine hnext (ih ?_) ?_
            · rw [hmap]
              exact eraseDups_concat_of_not_mem hseen (mt token_mem_iff.mp hm)
            · rw [hmap, List.append_assoc, List.singleton_append]

/-- Capitals tell whether a name stands for all methods. -/
theorem any_mem_names_iff {tokens : List Text} :
    any.token ∈ names tokens ↔ ∃ t ∈ tokens, IsAny t := by
  have hany (t : Text) : t.trim.upper = any.token ↔ IsAny t := by
    rw [← token_upper any, Text.upper_eq_upper_iff, IsAny, eq_comm]
  simp only [names, List.mem_map, hany]

/-- **What comes of a list of texts**: nothing if it is empty, else the first one that is no name,
else all methods or the names. -/
inductive ReadsList (tokens : List Text) (uri : Text) :
    Except RoutingError (Option (List Method)) → Prop where
  | empty (h : tokens = []) : ReadsList tokens uri (.error (.emptyMethods uri))
  | offends {token : Text} (h : Offends token tokens) :
      ReadsList tokens uri (.error (.unsupportedMethod token))
  | any (hne : tokens ≠ []) (hnames : ∀ t ∈ tokens, IsName t) (hany : ∃ t ∈ tokens, IsAny t) :
      ReadsList tokens uri (.ok none)
  | methods {methods : List Method} (hne : tokens ≠ []) (hnames : ∀ t ∈ tokens, IsName t)
      (hany : ¬ ∃ t ∈ tokens, IsAny t) (heq : methods.map token = (names tokens).eraseDups) :
      ReadsList tokens uri (.ok (some methods))

theorem readsList_parseList (tokens : List Text) (uri : Text) :
    ReadsList tokens uri (parseList tokens uri) := by
  have hread := @readsNames_parseAll [] rfl tokens
  rw [parseList]
  cases hall : parseAll [] tokens with
  | error e =>
      rw [hall] at hread
      cases hread with
      | offends h => exact .offends h
  | ok methods =>
      rw [hall] at hread
      cases hread with
      | names hnames heq =>
          rw [List.map_nil, List.nil_append] at heq
          have hempty : methods = [] ↔ tokens = [] := by
            rw [← List.map_eq_nil_iff (f := token), heq]
            cases tokens with
            | nil => simp [names]
            | cons t tokens => simp [List.eraseDups_cons]
          have hany : Method.any ∈ methods ↔ ∃ t ∈ tokens, IsAny t := by
            rw [← token_mem_iff, heq, List.mem_eraseDups, any_mem_names_iff]
          show ReadsList tokens uri (if methods.isEmpty then .error (.emptyMethods uri)
            else .ok (if methods.elem .any then none else some methods))
          by_cases hnil : tokens = []
          · rw [if_pos (by simpa using hempty.mpr hnil)]
            exact .empty hnil
          · rw [if_neg (by simpa using mt hempty.mp hnil)]
            by_cases hmem : Method.any ∈ methods
            · rw [if_pos (List.elem_iff.mpr hmem)]
              exact .any hnil hnames (hany.mp hmem)
            · rw [if_neg (mt List.elem_iff.mp hmem)]
              exact .methods hnil hnames (mt hany.mpr hmem) heq

theorem parseList_eq_emptyMethods_iff {tokens : List Text} {uri path : Text} :
    parseList tokens uri = .error (.emptyMethods path) ↔ tokens = [] ∧ path = uri := by
  have hread := readsList_parseList tokens uri
  constructor
  · intro h
    rw [h] at hread
    cases hread with
    | empty hnil => exact ⟨hnil, rfl⟩
  · rintro ⟨rfl, rfl⟩
    rfl

theorem parseList_eq_unsupportedMethod_iff {tokens : List Text} {uri token : Text} :
    parseList tokens uri = .error (.unsupportedMethod token) ↔ Offends token tokens := by
  have hread := readsList_parseList tokens uri
  constructor
  · intro h
    rw [h] at hread
    cases hread with
    | offends h => exact h
  · intro h
    obtain ⟨t, ht, hname⟩ := h.not_isName
    generalize parseList tokens uri = read at hread ⊢
    cases hread with
    | empty hnil =>
        rw [hnil] at h
        exact absurd h (not_offends_nil token)
    | offends h' => rw [h.unique h']
    | any hne hnames _ => exact absurd (hnames t ht) hname
    | methods hne hnames _ _ => exact absurd (hnames t ht) hname

theorem exists_parseList_iff {tokens : List Text} {uri : Text} :
    (∃ methods, parseList tokens uri = .ok methods) ↔
      tokens ≠ [] ∧ ∀ t ∈ tokens, IsName t := by
  have hread := readsList_parseList tokens uri
  constructor
  · rintro ⟨methods, h⟩
    rw [h] at hread
    cases hread with
    | any hne hnames _ => exact ⟨hne, hnames⟩
    | methods hne hnames _ _ => exact ⟨hne, hnames⟩
  · intro ⟨hne, hnames⟩
    generalize parseList tokens uri = read at hread ⊢
    cases hread with
    | empty hnil => exact absurd hnil hne
    | offends h =>
        obtain ⟨t, ht, hname⟩ := h.not_isName
        exact absurd (hnames t ht) hname
    | any _ _ _ => exact ⟨none, rfl⟩
    | methods _ _ _ _ => exact ⟨_, rfl⟩

/-- The list that methods make, which are neither blank nor in small letters. -/
theorem ofValues_token {methods : List Method} (h : methods ≠ []) :
    AllowList.ofValues Text.upper (methods.map token) = some (methods.map token) := by
  have hkept : ((methods.map token).map Text.trim).filter (!·.isEmpty) = methods.map token := by
    have htrim : Text.trim ∘ token = token := funext token_trim
    rw [List.map_map, htrim, List.filter_eq_self]
    intro t ht
    obtain ⟨m, -, rfl⟩ := List.mem_map.mp ht
    simpa using token_ne_nil m
  have hupper : Text.upper ∘ token = token := funext token_upper
  rw [AllowList.ofValues, hkept, if_neg (by simpa using h), List.map_map, hupper]

/-- What a route is declared for: some methods, or all. -/
def listOf (methods : Option (List Method)) : AllowList :=
  methods.bind fun methods => AllowList.ofValues Text.upper (methods.map token)

theorem listOf_parseList_of_any {tokens : List Text} {uri : Text} {methods : Option (List Method)}
    (h : parseList tokens uri = .ok methods) (hany : ∃ t ∈ tokens, IsAny t) :
    listOf methods = none := by
  have hread := readsList_parseList tokens uri
  rw [h] at hread
  cases hread with
  | any _ _ _ => rfl
  | methods _ _ hnot _ => exact absurd hany hnot

theorem listOf_parseList {tokens : List Text} {uri : Text} {methods : Option (List Method)}
    (h : parseList tokens uri = .ok methods) (hany : ¬ ∃ t ∈ tokens, IsAny t) :
    listOf methods = some (names tokens).eraseDups := by
  have hread := readsList_parseList tokens uri
  rw [h] at hread
  cases hread with
  | any _ _ hsome => exact absurd hsome hany
  | @methods methods hne _ _ heq =>
      have hmethods : methods ≠ [] := by
        rintro rfl
        obtain ⟨t, tokens, rfl⟩ := List.exists_cons_of_ne_nil hne
        simp [List.eraseDups_cons] at heq
      rw [← heq]
      exact ofValues_token hmethods

/-- Whether the names in capitals have one among them that is spelled differently. -/
theorem mem_names_iff {tokens : List Text} {v : Text} :
    v.trim.upper ∈ names tokens ↔ ∃ t ∈ tokens, t.trim.lower = v.trim.lower := by
  simp only [names, List.mem_map, Text.upper_eq_upper_iff]

end Method

/-! ### Routes -/

namespace Registry

variable {γ : Type}

/-- A route can be made of a URI under a scope, for all methods, and made ready for matching. -/
def Registers (reg : Registry γ) (scope : Option Scope) (uri : Text) (callback : γ) : Prop :=
  ∃ route compiled, Route.new ⟨reg.next⟩ (Scope.uriIn scope uri) callback = .ok route ∧
    (prepare reg.table.options scope none route).compile = .ok compiled

/-- The methods do not matter for the template. -/
theorem compile_prepare (options : TableOptions) (scope : Option Scope)
    (methods : Option (List Method)) (route : Route γ) :
    (prepare options scope methods route).compile = (prepare options scope none route).compile := by
  cases methods <;> cases scope <;> rfl

theorem prepare_method (options : TableOptions) (scope : Option Scope)
    (methods : Option (List Method)) (route : Route γ) :
    (prepare options scope methods route).constraints.method =
      match methods with
      | some methods => .ofValues Text.upper (methods.map Method.token)
      | none => route.constraints.method := by
  cases methods <;> cases scope <;> simp [prepare, Route.withMethod, Route.withScheme,
    Route.withHost, Route.withPort, Constraints.withMethod, Constraints.withScheme,
    Constraints.withHost, Constraints.withPort]

/-- A route is refused for what is wrong with its template, and for nothing else. -/
theorem exists_template_of_new {id : RouteId} {uri : Text} {callback : γ} {e : RoutingError}
    (h : Route.new id uri callback = .error e) : ∃ cause, e = .template cause := by
  rw [Route.new] at h
  cases hscan : Route.scanUri (Uri.normalize uri) with
  | ok pieces =>
      rw [hscan] at h
      cases h
  | error e' =>
      rw [hscan] at h
      cases h
      rw [Route.scanUri] at hscan
      cases hcause : Template.scan (Uri.normalize uri) with
      | ok pieces =>
          rw [hcause] at hscan
          cases hscan
      | error cause =>
          rw [hcause] at hscan
          cases hscan
          exact ⟨cause, rfl⟩

theorem exists_template_of_compile {route : Route γ} {e : RoutingError}
    (h : route.compile = .error e) : ∃ cause, e = .template cause := by
  rw [Route.compile] at h
  cases hknown : route.compiled with
  | some compiled =>
      rw [hknown] at h
      cases h
  | none =>
      rw [hknown] at h
      cases hcause : Template.compilePieces route.uri route.pieces route.caseSensitive
          route.anything with
      | ok compiled =>
          rw [hcause] at h
          cases h
      | error cause =>
          rw [hcause] at h
          cases h
          exact ⟨cause, rfl⟩

/-! ### Calls -/

/-- **What comes of declaring a route for a list of methods**, under a scope or without one: the
outcome and the registry after it. -/
structure DeclaresMethods (reg : Registry γ) (scope : Option Scope) (tokens : List Text)
    (uri : Text) (callback : γ) (outcome : Except RoutingError (Route γ)) (reg' : Registry γ) :
    Prop where
  /-- An empty list is refused as such, and no other one is. -/
  empty : ∀ path, outcome = .error (.emptyMethods path) ↔ tokens = [] ∧ path = uri
  /-- A text is refused if it is the first one that is no name. It is reported as it stands. -/
  unsupported : ∀ token, outcome = .error (.unsupportedMethod token) ↔
    Method.Offends token tokens
  /-- A text is refused if and only if some text is no name. -/
  unsupported_iff : (∃ token, outcome = .error (.unsupportedMethod token)) ↔
    ∃ t ∈ tokens, ¬ Method.IsName t
  /-- Apart from that the URI decides. -/
  registers : (∃ route, outcome = .ok route) ↔
    tokens ≠ [] ∧ (∀ t ∈ tokens, Method.IsName t) ∧ reg.Registers scope uri callback
  /-- The route is put at the end of the table. -/
  table : ∀ {route}, outcome = .ok route → reg'.table.routes = reg.table.routes ++ [route]
  /-- It is for all methods if some text stands for all, wherever it is in the list. -/
  any : ∀ {route}, outcome = .ok route → (∃ t ∈ tokens, Method.IsAny t) →
    route.constraints.method = none
  /-- Otherwise it is for the names in capitals, each once, in the order in which they come
  first. -/
  names : ∀ {route}, outcome = .ok route → (¬ ∃ t ∈ tokens, Method.IsAny t) →
    route.constraints.method = some (Method.names tokens).eraseDups
  /-- It permits the methods that agree with a text in all but case and white space at the ends,
  and every request if some text stands for all. -/
  admits : ∀ {route}, outcome = .ok route → ∀ value,
    route.constraints.method.admits Text.upper value = true ↔
      (∃ t ∈ tokens, Method.IsAny t) ∨
        ∃ v, value = some v ∧ ∃ t ∈ tokens, t.trim.lower = v.trim.lower

/-- A route whose methods are those of a list permits what the list says. -/
theorem admits_of_method {tokens : List Text} {allowed : AllowList}
    (hany : (∃ t ∈ tokens, Method.IsAny t) → allowed = none)
    (hnames : (¬ ∃ t ∈ tokens, Method.IsAny t) → allowed = some (Method.names tokens).eraseDups)
    (value : Option Text) :
    allowed.admits Text.upper value = true ↔ (∃ t ∈ tokens, Method.IsAny t) ∨
      ∃ v, value = some v ∧ ∃ t ∈ tokens, t.trim.lower = v.trim.lower := by
  by_cases h : ∃ t ∈ tokens, Method.IsAny t
  · simp [hany h, AllowList.admits, h]
  · rw [hnames h, or_iff_right h]
    cases value with
    | none => simp [AllowList.admits]
    | some v => simp [AllowList.admits, Method.mem_names_iff]

/-- What comes of a call once its texts have been read. -/
inductive Declares (reg : Registry γ) (scope : Option Scope) (uri : Text) (callback : γ) :
    Except RoutingError (Option (List Method)) →
      Except RoutingError (Route γ) × Registry γ → Prop where
  | methods {e : RoutingError} : Declares reg scope uri callback (.error e) (.error e, reg)
  | template {methods : Option (List Method)} {cause : Template.TemplateError}
      {reg' : Registry γ} (h : ¬ reg.Registers scope uri callback) :
      Declares reg scope uri callback (.ok methods) (.error (.template cause), reg')
  | made {methods : Option (List Method)} {route : Route γ} {reg' : Registry γ}
      (h : reg.Registers scope uri callback)
      (hmethod : route.constraints.method = Method.listOf methods)
      (htable : reg'.table.routes = reg.table.routes ++ [route]) :
      Declares reg scope uri callback (.ok methods) (.ok route, reg')

theorem declares_httpIn (reg : Registry γ) (scope : Option Scope) (tokens : List Text)
    (uri : Text) (callback : γ) :
    reg.Declares scope uri callback (Method.parseList tokens uri)
      (reg.httpIn scope tokens uri callback) := by
  rw [httpIn_eq]
  cases Method.parseList tokens uri with
  | error e => exact .methods
  | ok methods =>
      cases hnew : Route.new ⟨reg.next⟩ (Scope.uriIn scope uri) callback with
      | error e =>
          obtain ⟨cause, rfl⟩ := exists_template_of_new hnew
          refine .template ?_
          rintro ⟨route, compiled, hroute, -⟩
          rw [hnew] at hroute
          cases hroute
      | ok route =>
          dsimp only
          cases hcompile : (prepare reg.table.options scope methods route).compile with
          | error e =>
              obtain ⟨cause, rfl⟩ := exists_template_of_compile hcompile
              refine .template ?_
              rintro ⟨route', compiled, hroute, hcompiled⟩
              rw [hnew] at hroute
              cases hroute
              rw [← compile_prepare _ _ methods, hcompile] at hcompiled
              cases hcompiled
          | ok compiled =>
              rw [compile_prepare] at hcompile
              refine .made ⟨route, compiled, hnew, hcompile⟩ ?_ rfl
              show (prepare reg.table.options scope methods route).constraints.method = _
              cases methods with
              | none => rw [prepare_method, Route.new_constraints hnew]; rfl
              | some methods => rw [prepare_method]; rfl

/-- An error that is not one of a template is one of the list. -/
theorem Declares.error_iff {reg : Registry γ} {scope : Option Scope} {uri : Text} {callback : γ}
    {read : Except RoutingError (Option (List Method))}
    {result : Except RoutingError (Route γ) × Registry γ}
    (h : reg.Declares scope uri callback read result) {e : RoutingError}
    (he : ∀ cause, e ≠ .template cause) : result.1 = .error e ↔ read = .error e := by
  cases h with
  | methods => simp
  | template _ =>
      constructor
      · intro h
        cases h
        exact absurd rfl (he _)
      · intro h
        cases h
  | made _ _ _ => simp

theorem Declares.exists_ok_iff {reg : Registry γ} {scope : Option Scope} {uri : Text}
    {callback : γ} {read : Except RoutingError (Option (List Method))}
    {result : Except RoutingError (Route γ) × Registry γ}
    (h : reg.Declares scope uri callback read result) :
    (∃ route, result.1 = .ok route) ↔
      (∃ methods, read = .ok methods) ∧ reg.Registers scope uri callback := by
  cases h with
  | methods => simp
  | template hnot => simp [hnot]
  | made h _ _ => simp [h]

theorem Declares.of_ok {reg : Registry γ} {scope : Option Scope} {uri : Text} {callback : γ}
    {read : Except RoutingError (Option (List Method))}
    {result : Except RoutingError (Route γ) × Registry γ}
    (h : reg.Declares scope uri callback read result) {route : Route γ}
    (hok : result.1 = .ok route) :
    ∃ methods, read = .ok methods ∧ route.constraints.method = Method.listOf methods ∧
      result.2.table.routes = reg.table.routes ++ [route] := by
  cases h with
  | methods => cases hok
  | template _ => cases hok
  | made _ hmethod htable =>
      cases hok
      exact ⟨_, rfl, hmethod, htable⟩

theorem declaresMethods_httpIn (reg : Registry γ) (scope : Option Scope) (tokens : List Text)
    (uri : Text) (callback : γ) :
    reg.DeclaresMethods scope tokens uri callback (reg.httpIn scope tokens uri callback).1
      (reg.httpIn scope tokens uri callback).2 := by
  have hdeclares := reg.declares_httpIn scope tokens uri callback
  have hunsupported (token : Text) :
      (reg.httpIn scope tokens uri callback).1 = .error (.unsupportedMethod token) ↔
        Method.Offends token tokens := by
    rw [hdeclares.error_iff (by simp), Method.parseList_eq_unsupportedMethod_iff]
  have hany {route : Route γ} (hok : (reg.httpIn scope tokens uri callback).1 = .ok route)
      (hany : ∃ t ∈ tokens, Method.IsAny t) : route.constraints.method = none := by
    obtain ⟨methods, hread, hmethod, -⟩ := hdeclares.of_ok hok
    rw [hmethod, Method.listOf_parseList_of_any hread hany]
  have hnames {route : Route γ} (hok : (reg.httpIn scope tokens uri callback).1 = .ok route)
      (hany : ¬ ∃ t ∈ tokens, Method.IsAny t) :
      route.constraints.method = some (Method.names tokens).eraseDups := by
    obtain ⟨methods, hread, hmethod, -⟩ := hdeclares.of_ok hok
    rw [hmethod, Method.listOf_parseList hread hany]
  exact {
    empty := fun path => by
      rw [hdeclares.error_iff (by simp), Method.parseList_eq_emptyMethods_iff]
    unsupported := hunsupported
    unsupported_iff := by
      simp only [hunsupported]
      exact ⟨fun ⟨token, h⟩ => h.not_isName, Method.exists_offends⟩
    registers := by
      rw [hdeclares.exists_ok_iff, Method.exists_parseList_iff, and_assoc]
    table := fun hok => by
      obtain ⟨methods, -, -, htable⟩ := hdeclares.of_ok hok
      exact htable
    any := hany
    names := hnames
    admits := fun hok => admits_of_method (hany hok) (hnames hok) }

/-- **Declaring a route for a list of methods**, on a table and in a group. -/
theorem http_declaresMethods (tokens : List Text) (uri : Text) (callback : γ) :
    (∀ reg : Registry γ, reg.DeclaresMethods none tokens uri callback
      (reg.http tokens uri callback).1 (reg.http tokens uri callback).2) ∧
    ∀ g : Group γ, g.registry.DeclaresMethods g.scope tokens uri callback
      (g.http tokens uri callback).1 (g.http tokens uri callback).2.registry :=
  ⟨fun reg => declaresMethods_httpIn reg none tokens uri callback,
    fun g => declaresMethods_httpIn g.registry g.scope tokens uri callback⟩

end Registry

end UriRouting
