import UriRouting.Proofs.Route.Matching
import UriRouting.Proofs.Template.Filling
import UriRouting.Proofs.Template.Scanning
import UriRouting.Proofs.Uri.Comparison

/-!
# UriRouting.Proofs.Route.RoundTrip

Values that are put into a delimited template come back when the path is matched
(`tryMatch_pathOf`). The path has a split with these values and every split of it has
them, so it does not matter which one the route takes.
-/

namespace UriRouting.Template

/-! ### Templates without variables -/

/-- A template without variables is one literal. -/
theorem tokenize_of_namesOf_eq_nil {template : Text} {ps : List Piece}
    (hscan : scan template = .ok ps) {anything : List Text}
    (h : namesOf (tokenize ps anything) = []) :
    tokenize ps anything = literalToken template.reverse := by
  obtain ⟨rfl, -⟩ := scan_eq_ok hscan
  have hnames : slotNames (Piece.scan template) = [] := by
    rw [← namesOf_ofPieces anything []]
    exact h
  rw [tokenize, scan_of_slotNames_eq_nil hnames, ← List.append_nil (template.map Piece.char),
    ofPieces_append_chars, List.append_nil, Token.ofPieces]

/-- The only path for a template without variables is the template. -/
theorem pathOf_literalToken {t : Text} {m : Nat} {values : List Text}
    (hfits : Fits (literalToken t.reverse) m values)
    (hleast : firstOptional (literalToken t.reverse) ≤ m) :
    pathOf (literalToken t.reverse) m values = t ∧ values = [] := by
  cases t with
  | nil =>
      cases hfits
      exact ⟨rfl, rfl⟩
  | cons c t =>
      have htoken : literalToken (c :: t).reverse = [.literal (c :: t)] := by
        simp [literalToken]
      rw [htoken] at hfits hleast ⊢
      cases hfits with
      | stop => cases hleast
      | literal h =>
          cases h
          exact ⟨List.append_nil _, rfl⟩

/-! ### Reports -/

theorem Fits.length_values {ts : List Token} {m : Nat} {values : List Text}
    (h : Fits ts m values) : values.length = (variablesOf (ts.take m)).length := by
  induction h with
  | stop ts => rfl
  | literal _ ih => exact ih
  | var _ _ _ ih => exact congrArg Nat.succ ih

/-- Where only variables at the end that may be left out are left out, all is well. -/
theorem all_isSatisfied {ts : List Token} {m : Nat} {values : List Text}
    (hfits : Fits ts m values) (hleast : firstOptional ts ≤ m) :
    ((variablesOf ts).zip (values.map some ++ leftOut (ts.drop m))).all isSatisfied = true := by
  have hvars : variablesOf ts = variablesOf (ts.take m) ++ variablesOf (ts.drop m) := by
    rw [← variablesOf_append, List.take_append_drop]
  rw [hvars, List.zip_append (by rw [List.length_map, hfits.length_values]), List.all_append,
    Bool.and_eq_true, List.all_eq_true, List.all_eq_true]
  constructor
  · intro entry hmem
    obtain ⟨v, value⟩ := entry
    obtain ⟨text, -, rfl⟩ := List.mem_map.mp (List.of_mem_zip hmem).2
    rw [isSatisfied, Option.isSome_some, Bool.or_true]
  · intro entry hmem
    obtain ⟨v, value⟩ := entry
    have htoken := mem_variablesOf.mp (List.of_mem_zip hmem).1
    have hlater : Token.var v ∈ ts.drop (firstOptional ts) := by
      obtain ⟨k, rfl⟩ := Nat.exists_eq_add_of_le hleast
      rw [← List.drop_drop] at htoken
      exact List.mem_of_mem_drop htoken
    have hoptional : v.optional = true := isOptional_of_mem_drop hlater
    rw [isSatisfied, hoptional, Bool.true_or]

/-- The path starts with the literal text of the template. -/
theorem startsWithFolded_pathOf {ts : List Token} {m : Nat} {values : List Text}
    (hleast : firstOptional ts ≤ m) (caseSensitive : Bool) {lead : Text}
    (hlead : leadOf ts = some lead) :
    Uri.startsWithFolded (pathOf ts m values) lead caseSensitive = true := by
  cases ts with
  | nil => cases hlead
  | cons token ts =>
      cases token with
      | var v => cases hlead
      | literal text =>
          cases hlead
          obtain ⟨n, rfl⟩ := Nat.exists_eq_succ_of_ne_zero (Nat.ne_of_gt
            (Nat.lt_of_lt_of_le (firstOptional_literal_pos lead ts) hleast))
          exact Uri.startsWithFolded_append lead _ caseSensitive

end UriRouting.Template

namespace UriRouting.Route

open Template (Delimited Fits firstOptional leftOut namesOf pathOf variablesOf)

variable {γ : Type}

theorem cut_tokens (r : Route γ) : Template.Cut r.tokens :=
  Template.cut_ofPieces r.anything [] r.pieces

/-- **Values that are put into a delimited template come back.** A route that can compile
its template gives them for the path that is built from them, in order and with nothing for
the variables that are left out. -/
theorem tryMatch_pathOf {r : Route γ} (hr : r.Reachable)
    (hopen : r.constraints.isOpen = true) (hrules : r.rules.isEmpty = true)
    (hdelimited : Delimited r.tokens) {m : Nat} {values : List Text}
    (hfits : Fits r.tokens m values) (hleast : firstOptional r.tokens ≤ m)
    (hnormal : Uri.normalize (pathOf r.tokens m values) = pathOf r.tokens m values)
    {request : Request} (hpath : request.path = pathOf r.tokens m values) :
    r.tryMatch request = r.compile.toOption.map fun _ =>
      ⟨List.zipWith (fun v value => (v.name, value)) (variablesOf r.tokens)
        (values.map some ++ leftOut (r.tokens.drop m))⟩ := by
  have hpath' : Uri.normalize request.path = pathOf r.tokens m values := by
    rw [hpath, hnormal]
  by_cases hvars : namesOf r.tokens = []
  · -- the template is the only path there is
    have htokens : r.tokens = Template.literalToken r.uri.reverse :=
      Template.tokenize_of_namesOf_eq_nil hr.coherent.scanned hvars
    have huri : pathOf r.tokens m values = r.uri := by
      rw [htokens] at hfits hleast ⊢
      exact (Template.pathOf_literalToken hfits hleast).1
    have hnone : variablesOf r.tokens = [] := List.map_eq_nil_iff.mp hvars
    rw [tryMatch_static hr hopen hrules hvars, hpath', huri, if_pos (Uri.eqFolded_self _ _),
      hr.compile_eq, if_pos hvars, hnone]
    rfl
  · have hne := Template.ne_nil_of_namesOf hvars
    have hsplit := Template.split_pathOf r.caseSensitive hne hfits hleast r.cut_tokens hdelimited
    have hlead : (Template.leadOf r.tokens).all
        (Uri.startsWithFolded (pathOf r.tokens m values) · r.caseSensitive) = true :=
      (Option.all_eq_true _ _).mpr fun lead h =>
        Template.startsWithFolded_pathOf hleast r.caseSensitive h
    rw [tryMatch_variables hr hopen hrules hvars, hpath', if_pos hlead]
    -- whichever split comes first, it has the values that were put in
    cases hsplits : Template.splits r.caseSensitive r.tokens (pathOf r.tokens m values) with
    | nil =>
        rw [← Template.mem_splits hne, hsplits] at hsplit
        cases hsplit
    | cons found others =>
        have hfound : Template.Split r.caseSensitive r.tokens (pathOf r.tokens m values) found := by
          rw [← Template.mem_splits hne, hsplits]
          exact List.mem_cons_self ..
        have hreport : Template.report r.tokens found =
            (variablesOf r.tokens).zip (values.map some ++ leftOut (r.tokens.drop m)) := by
          rw [Template.report,
            Template.reported_of_split hfits hleast r.cut_tokens hdelimited hfound]
        rw [List.head?_cons, Option.bind_some, parametersOf, hreport,
          if_pos (Template.all_isSatisfied hfits hleast), List.map_zip_eq_zipWith]
        cases r.compile <;> rfl

/-- Two values with a comma between them. -/
theorem tryMatch_pathOf_pair :
    ∃ r : Route Unit, r.Reachable ∧ r.constraints.isOpen = true ∧ r.rules.isEmpty = true ∧
      Delimited r.tokens ∧ Fits r.tokens 2 ["x.y".toList, "z".toList] ∧
      firstOptional r.tokens ≤ 2 ∧
      Uri.normalize (pathOf r.tokens 2 ["x.y".toList, "z".toList]) =
        pathOf r.tokens 2 ["x.y".toList, "z".toList] ∧
      r.tryMatch { path := "/x.y,z".toList } =
        some ⟨[("a".toList, some "x.y".toList), ("b".toList, some "z".toList)]⟩ := by
  have hr : Reachable (ofUri ⟨1⟩ "/{a},{b?}".toList ()) :=
    reachable_ofUri ⟨1⟩ () (by decide +kernel)
  have hdelimited : Delimited (ofUri ⟨1⟩ "/{a},{b?}".toList ()).tokens := by
    decide +kernel
  have htokens : (ofUri ⟨1⟩ "/{a},{b?}".toList ()).tokens =
      [.var ⟨some '/', .segment (some ','), "a".toList, false⟩,
        .var ⟨some ',', .segment none, "b".toList, true⟩] := by
    decide +kernel
  have hfits : Fits (ofUri ⟨1⟩ "/{a},{b?}".toList ()).tokens 2 ["x.y".toList, "z".toList] := by
    rw [htokens]
    refine .var (by decide) (fun _ => ⟨by decide, fun c hc => ?_⟩)
      (.var (by decide) (fun _ => ⟨by decide, fun c hc => ?_⟩) (.stop _))
    · cases hc
      decide
    · cases hc
  have hnormal : Uri.normalize
      (pathOf (ofUri ⟨1⟩ "/{a},{b?}".toList ()).tokens 2 ["x.y".toList, "z".toList]) =
        pathOf (ofUri ⟨1⟩ "/{a},{b?}".toList ()).tokens 2 ["x.y".toList, "z".toList] := by
    decide +kernel
  refine ⟨_, hr, rfl, rfl, hdelimited, hfits, by decide +kernel, hnormal, ?_⟩
  refine (tryMatch_pathOf hr rfl rfl hdelimited hfits (by decide +kernel) hnormal
    (by decide +kernel)).trans ?_
  decide +kernel

/-- A template that ends with `n` variables that may be left out. -/
def longTemplate (n : Nat) : Text :=
  "/r".toList ++ (List.range n).flatMap fun i =>
    ['/', '{', 'v'] ++ Nat.toDigits 10 i ++ ['?', '}']

/-- Each variable that may be left out is nested in those before it. With 83 of them the
expression is too deep, and a route that cannot compile its template matches nothing. -/
theorem tryMatch_pathOf_too_deep :
    ∃ r : Route Unit, r.Reachable ∧ r.constraints.isOpen = true ∧ r.rules.isEmpty = true ∧
      Delimited r.tokens ∧ Fits r.tokens 1 [] ∧ firstOptional r.tokens ≤ 1 ∧
      Uri.normalize (pathOf r.tokens 1 []) = pathOf r.tokens 1 [] ∧
      r.tryMatch { path := pathOf r.tokens 1 [] } = none := by
  have hr : Reachable (ofUri ⟨1⟩ (longTemplate 83) ()) :=
    reachable_ofUri ⟨1⟩ () (by decide +kernel)
  have hfacts : (ofUri ⟨1⟩ (longTemplate 83) ()).constraints.isOpen = true ∧
      (ofUri ⟨1⟩ (longTemplate 83) ()).rules.isEmpty = true ∧
      (ofUri ⟨1⟩ (longTemplate 83) ()).tokens =
        .literal "/r".toList :: (ofUri ⟨1⟩ (longTemplate 83) ()).tokens.tail ∧
      Delimited (ofUri ⟨1⟩ (longTemplate 83) ()).tokens ∧
      firstOptional (ofUri ⟨1⟩ (longTemplate 83) ()).tokens ≤ 1 ∧
      Uri.normalize (pathOf (ofUri ⟨1⟩ (longTemplate 83) ()).tokens 1 []) =
        pathOf (ofUri ⟨1⟩ (longTemplate 83) ()).tokens 1 [] ∧
      namesOf (ofUri ⟨1⟩ (longTemplate 83) ()).tokens ≠ [] ∧
      ¬ Template.withinLimits (!(ofUri ⟨1⟩ (longTemplate 83) ()).caseSensitive)
        (ofUri ⟨1⟩ (longTemplate 83) ()).tokens = true := by
    decide +kernel
  -- from here on the route is just any route with these facts
  generalize ofUri ⟨1⟩ (longTemplate 83) () = r at hr hfacts
  obtain ⟨hopen, hrules, htokens, hdelimited, hleast, hnormal, hvars, hlimits⟩ := hfacts
  refine ⟨r, hr, hopen, hrules, hdelimited, ?_, hleast, hnormal, ?_⟩
  · rw [htokens]
    exact .literal (.stop _)
  · rw [tryMatch_variables hr hopen hrules hvars, hr.compile_eq, if_neg hvars, if_neg hlimits]
    rfl

end UriRouting.Route
