import UriRouting.Proofs.Route.RoundTrip
import UriRouting.Proofs.Template.LeftOut
import UriRouting.Proofs.Uri.Path

/-!
# UriRouting.Proofs.Route.LeftOut

Which variables at the end of a template a match reports as left out.

* `tryMatch_eq_some` — a match reports the values of the greatest split of its path;
* `tryMatch_absentLast` — the variables that are left out are the last ones, with or
  without the first token of the template, depending on the template (`KeepsRun`);
* `exists_tryMatch_not_absentLast` — every other template has a match that leaves out its
  first variable and gives a value to a later one, as in `tryMatch_skips_first`.
-/

namespace UriRouting

open Template (Variable)

/-! ### Parameters that are left out -/

/-- Of some variables in a row, those that the parameters report as left out come last. -/
def Parameters.AbsentLast (p : Parameters) (vs : List Variable) : Prop :=
  vs.Pairwise fun v w => p.get? v.name = some none → p.get? w.name = some none

/-- Whether the variables that are left out come last. -/
instance (p : Parameters) (vs : List Variable) : Decidable (p.AbsentLast vs) :=
  inferInstanceAs (Decidable (vs.Pairwise fun v w =>
    p.get? v.name = some none → p.get? w.name = some none))

/-- Under the name of a variable is its value, if no other variable has this name. -/
theorem Parameters.get?_zip {vs : List Variable} (hnodup : (vs.map (·.name)).Nodup)
    {values : List (Option Text)} {i : Nat} (hvs : i < vs.length) (hvalues : i < values.length) :
    (⟨(vs.zip values).map fun p => (p.1.name, p.2)⟩ : Parameters).get? vs[i].name =
      some values[i] := by
  induction vs generalizing values i with
  | nil => exact absurd hvs (Nat.not_lt_zero i)
  | cons v vs ih =>
      cases values with
      | nil => exact absurd hvalues (Nat.not_lt_zero i)
      | cons value values =>
          rw [List.map_cons, List.nodup_cons] at hnodup
          cases i with
          | zero => simp [get?]
          | succ i =>
              have hi : i < vs.length := Nat.lt_of_succ_lt_succ hvs
              have hne : v.name ≠ vs[i].name := fun heq =>
                hnodup.1 (heq ▸ List.mem_map_of_mem (List.getElem_mem hi))
              have hrest := ih hnodup.2 hi (Nat.lt_of_succ_lt_succ hvalues)
              simpa [get?, hne] using hrest

/-- The variables from some place on are left out last if their values are missing last. -/
theorem Parameters.absentLast_zip_iff {vs : List Variable} (hnodup : (vs.map (·.name)).Nodup)
    {values : List (Option Text)} (hlength : values.length = vs.length) (n : Nat) :
    (⟨(vs.zip values).map fun p => (p.1.name, p.2)⟩ : Parameters).AbsentLast (vs.drop n) ↔
      Template.AbsentLast (values.drop n) := by
  simp only [AbsentLast, Template.AbsentLast, List.pairwise_iff_getElem, List.getElem_drop,
    List.length_drop, hlength]
  refine forall_congr' fun i => forall_congr' fun j => forall_congr' fun hi =>
    forall_congr' fun hj => imp_congr_right fun _ => ?_
  rw [get?_zip hnodup (by omega) (by omega), get?_zip hnodup (by omega) (by omega),
    Option.some.injEq, Option.some.injEq]

end UriRouting

namespace UriRouting.Template

/-- What a variable at the start of some pieces has before it, where `c` is the first
character of all. -/
theorem separator_of_ofPieces {anything : List Text} {reversed : Text} {c : Char}
    {ps : List Piece} {v : Variable} {rest : List Token}
    (h : Token.ofPieces anything (reversed ++ [c]) ps = .var v :: rest) :
    v.separator = some c := by
  induction ps generalizing reversed with
  | nil =>
      rw [Token.ofPieces, literalToken, if_neg (by simp)] at h
      cases h
  | cons p ps ih =>
      cases p with
      | char d => exact @ih (d :: reversed) h
      | slot s =>
          rw [ofPieces_slot] at h
          cases htext : (detach (reversed ++ [c])).2 with
          | nil =>
              rw [htext] at h
              cases h
              cases reversed with
              | nil =>
                  by_cases hc : isSeparator c = true
                  · simp [slotVariable, detach, hc]
                  · simp [detach, hc] at htext
              | cons d reversed =>
                  by_cases hd : isSeparator d = true <;> simp [detach, hd] at htext
          | cons d text =>
              rw [htext, literalToken, if_neg (by simp)] at h
              cases h

end UriRouting.Template

namespace UriRouting.Route

open Template (GreatestSplit KeepsRun Variable firstOptional namesOf report splits variablesOf)

variable {γ : Type}

/-- A template of a route that starts with a variable starts with a slash before it. -/
theorem Reachable.separator_eq_slash {r : Route γ} (hr : r.Reachable) {v : Variable}
    {rest : List Template.Token} (h : r.tokens = .var v :: rest) : v.separator = some '/' := by
  have huri : r.uri = '/' :: Uri.trimSlashes r.uri := by
    rw [← Uri.normalize_eq, hr.normalize_uri]
  have hpieces : r.pieces = .char '/' :: Template.Piece.scan (Uri.trimSlashes r.uri) := by
    rw [hr.pieces_eq]
    conv_lhs => rw [huri]
    rfl
  rw [tokens, hpieces] at h
  exact @Template.separator_of_ofPieces r.anything [] '/' _ v rest h

/-- The parameters that are read are the values of the variables, as they are. -/
theorem readParameters_eq_some {r : Route γ} {captures : List (Variable × Option Text)}
    {entries : List (Text × Option Text)} (h : r.readParameters captures = some entries) :
    entries = captures.map fun p => (p.1.name, p.2) := by
  induction captures generalizing entries with
  | nil =>
      cases h
      rfl
  | cons p captures ih =>
      obtain ⟨v, value⟩ := p
      cases value with
      | some value =>
          rw [readParameters] at h
          split at h
          · obtain ⟨entries', hentries, rfl⟩ := Option.map_eq_some_iff.mp h
            rw [ih hentries, List.map_cons]
          · cases h
      | none =>
          rw [readParameters] at h
          split at h
          · obtain ⟨entries', hentries, rfl⟩ := Option.map_eq_some_iff.mp h
            rw [ih hentries, List.map_cons]
          · cases h

/-- A match reads its parameters from what the template says about the path. -/
theorem captures_of_tryMatch {r : Route γ} {request : Request} {p : Parameters}
    (h : r.tryMatch request = some p) :
    ∃ c captures, r.compile.toOption = some c ∧
      c.captures (Uri.normalize request.path) = some captures ∧
      r.readParameters captures = some p.entries := by
  rw [tryMatch] at h
  split at h
  · obtain ⟨c, hc, h⟩ := Option.bind_eq_some_iff.mp h
    obtain ⟨captures, hcaptures, h⟩ := Option.bind_eq_some_iff.mp h
    obtain ⟨entries, hentries, rfl⟩ := Option.map_eq_some_iff.mp h
    exact ⟨c, captures, hc, hcaptures, hentries⟩
  · cases h

/-- What a template with variables says about the path is its greatest split. -/
theorem report_of_tryMatch {r : Route γ} (hr : r.Reachable) (hvars : namesOf r.tokens ≠ [])
    {request : Request} {p : Parameters} (h : r.tryMatch request = some p) :
    ∃ values, GreatestSplit r.caseSensitive r.tokens (Uri.normalize request.path) values ∧
      r.readParameters (report r.tokens values) = some p.entries := by
  obtain ⟨c, captures, hc, hcaptures, hentries⟩ := captures_of_tryMatch h
  rw [hr.compile_eq, if_neg hvars] at hc
  split at hc
  · cases hc
    rw [tokens, Template.captures_ofTokens hr.coherent.scanned] at hcaptures
    split at hcaptures
    · obtain ⟨values, hhead, rfl⟩ := Option.map_eq_some_iff.mp hcaptures
      exact ⟨values,
        (Template.head?_splits_eq_some_iff (Template.ne_nil_of_namesOf hvars)).mp hhead, hentries⟩
    · cases hcaptures
  · cases hc

/-- **What a match reports** of a template with variables: the greatest split of the path. -/
theorem tryMatch_eq_some {r : Route γ} (hr : r.Reachable) (hvars : namesOf r.tokens ≠ [])
    {request : Request} {p : Parameters} (h : r.tryMatch request = some p) :
    ∃ values, GreatestSplit r.caseSensitive r.tokens (Uri.normalize request.path) values ∧
      p = parametersOf r.tokens values := by
  obtain ⟨values, hgreatest, hentries⟩ := report_of_tryMatch hr hvars h
  refine ⟨values, hgreatest, ?_⟩
  rw [parametersOf, ← readParameters_eq_some hentries]

theorem Reachable.wellNamed {r : Route γ} (hr : r.Reachable) : Template.WellNamed r.tokens :=
  Template.wellNamed_of_scan hr.coherent.scanned r.anything

/-- The variables after some tokens are left out last by the parameters for a split if the
split has their values missing last. -/
theorem absentLast_parametersOf_iff {ts : List Template.Token} (hts : Template.WellNamed ts)
    {caseSensitive : Bool} {subject : Text} {values : List (Option Text)}
    (h : Template.Split caseSensitive ts subject values) (n : Nat) :
    (parametersOf ts values).AbsentLast (variablesOf (ts.drop n)) ↔
      Template.AbsentLast
        ((values.drop (variablesOf (ts.take n)).length).map Template.reported) := by
  have hdrop : (variablesOf ts).drop (variablesOf (ts.take n)).length =
      variablesOf (ts.drop n) := by
    have hsplit := Template.variablesOf_append (ts.take n) (ts.drop n)
    rw [List.take_append_drop] at hsplit
    rw [hsplit, List.drop_left]
  have hlength : (values.map Template.reported).length = (variablesOf ts).length := by
    rw [List.length_map, h.length_values]
  rw [List.map_drop, ← Parameters.absentLast_zip_iff hts.nodup hlength, hdrop]
  rfl

/-- **What a match leaves out comes last.** This is true of the variables at the end of a
template after its first token, and from the first token on if the template keeps its
run. -/
theorem tryMatch_absentLast {r : Route γ} (hr : r.Reachable) {request : Request}
    {p : Parameters} (h : r.tryMatch request = some p) :
    p.AbsentLast (variablesOf (r.tokens.drop (max 1 (firstOptional r.tokens)))) ∧
      (KeepsRun r.tokens → p.AbsentLast (variablesOf (r.tokens.drop (firstOptional r.tokens)))) := by
  by_cases hvars : namesOf r.tokens = []
  · have hnone (n : Nat) : variablesOf (r.tokens.drop n) = [] := by
      have hall : variablesOf r.tokens = [] := List.map_eq_nil_iff.mp hvars
      rw [← List.take_append_drop n r.tokens, Template.variablesOf_append] at hall
      exact (List.append_eq_nil_iff.mp hall).2
    rw [hnone, hnone]
    exact ⟨.nil, fun _ => .nil⟩
  · obtain ⟨values, hgreatest, rfl⟩ := tryMatch_eq_some hr hvars h
    have hne := Template.ne_nil_of_namesOf hvars
    rw [absentLast_parametersOf_iff hr.wellNamed hgreatest.split,
      absentLast_parametersOf_iff hr.wellNamed hgreatest.split]
    refine ⟨hgreatest.absentLast_tail hne, fun hkeeps => ?_⟩
    -- the normal form of a path starts with one slash only
    rw [Uri.normalize_eq] at hgreatest
    exact hgreatest.absentLast hne r.cut_tokens (fun _ _ => hr.separator_eq_slash) hkeeps
      (Uri.head?_trimSlashes _)

/-- Two variables with slashes before them, at the start of a template. -/
theorem tryMatch_absentLast_pair :
    ∃ (r : Route Unit) (p : Parameters), r.Reachable ∧ KeepsRun r.tokens ∧
      r.tryMatch { path := "/x".toList } = some p ∧ p.get? "b".toList = some none ∧
      p.AbsentLast (variablesOf (r.tokens.drop (firstOptional r.tokens))) := by
  have hr : Reachable (ofUri ⟨1⟩ "/{a?}/{b?}".toList ()) :=
    reachable_ofUri ⟨1⟩ () (by decide +kernel)
  have htokens : (ofUri ⟨1⟩ "/{a?}/{b?}".toList ()).tokens =
      [.var ⟨some '/', .segment none, "a".toList, true⟩,
        .var ⟨some '/', .segment none, "b".toList, true⟩] := by
    decide +kernel
  have hkeeps : KeepsRun (ofUri ⟨1⟩ "/{a?}/{b?}".toList ()).tokens := by
    rw [htokens]
    exact .slash rfl
  have hmatch : (ofUri ⟨1⟩ "/{a?}/{b?}".toList ()).tryMatch { path := "/x".toList } =
      some ⟨[("a".toList, some "x".toList), ("b".toList, none)]⟩ := by
    decide +kernel
  exact ⟨_, _, hr, hkeeps, hmatch, by decide, (tryMatch_absentLast hr hmatch).2 hkeeps⟩

/-- With a full stop between them, the first variable is skipped: it cannot take the stop,
and the second one is tried although the first has no value. -/
theorem tryMatch_skips_first :
    ∃ (r : Route Unit) (p : Parameters), r.Reachable ∧
      r.tryMatch { path := "/.x".toList } = some p ∧ p.get? "a".toList = some none ∧
      p.get? "b".toList = some (some "x".toList) ∧
      ¬ p.AbsentLast (variablesOf (r.tokens.drop (firstOptional r.tokens))) := by
  have hr : Reachable (ofUri ⟨1⟩ "/{a?}.{b?}".toList ()) :=
    reachable_ofUri ⟨1⟩ () (by decide +kernel)
  refine ⟨_, ⟨[("a".toList, none), ("b".toList, some "x".toList)]⟩, hr, ?_⟩
  decide +kernel

theorem Reachable.tokens_ne_nil {r : Route γ} (hr : r.Reachable) : r.tokens ≠ [] := by
  intro hnil
  have hliteral := Template.tokenize_of_namesOf_eq_nil hr.coherent.scanned
    (show namesOf r.tokens = [] by rw [hnil]; rfl)
  have huri : r.uri ≠ [] := by
    rw [← hr.normalize_uri, Uri.normalize_eq]
    exact List.cons_ne_nil _ _
  rw [← tokens, hnil, Template.literalToken, if_neg (by simpa using huri)] at hliteral
  cases hliteral

/-- A route without constraints and rules, all of whose variables may be left out, reports
the greatest split of every path that has one. -/
theorem exists_tryMatch_of_split {r : Route γ} (hr : r.Reachable)
    (hopen : r.constraints.isOpen = true) (hrules : r.rules.isEmpty = true)
    (hcompile : ∃ c, r.compile = .ok c) (hfirst : firstOptional r.tokens = 0)
    {path : Text} (hpath : Uri.normalize path = path) {values : List (Option Text)}
    (hsplit : Template.Split r.caseSensitive r.tokens path values) :
    ∃ values', Template.Split r.caseSensitive r.tokens path values' ∧
      r.tryMatch { path := path } = some (parametersOf r.tokens values') := by
  have hne := hr.tokens_ne_nil
  obtain ⟨v, rest, htokens⟩ := Template.eq_var_of_firstOptional_eq_zero hne hfirst
  have hvars : namesOf r.tokens ≠ [] := by
    rw [htokens]
    exact List.cons_ne_nil _ _
  have hlead : Template.leadOf r.tokens = none := by
    rw [htokens]
    rfl
  have hmem := (Template.mem_splits hne).mpr hsplit
  cases hsplits : splits r.caseSensitive r.tokens path with
  | nil =>
      rw [hsplits] at hmem
      cases hmem
  | cons values' others =>
      have hsplit' : Template.Split r.caseSensitive r.tokens path values' := by
        rw [← Template.mem_splits hne, hsplits]
        exact List.mem_cons_self ..
      have hall : (report r.tokens values').all Template.isSatisfied = true := by
        rw [List.all_eq_true]
        rintro ⟨w, value⟩ hentry
        have hw : w.optional = true := by
          apply @Template.isOptional_of_mem_drop r.tokens (.var w)
          rw [hfirst]
          exact Template.mem_variablesOf.mp (List.of_mem_zip hentry).1
        rw [Template.isSatisfied, hw, Bool.true_or]
      obtain ⟨c, hc⟩ := hcompile
      -- the first split in the list is the one that is reported
      refine ⟨values', hsplit', ?_⟩
      rw [tryMatch_variables hr hopen hrules hvars, hpath, hlead, hsplits, hc, List.head?_cons,
        Option.bind_some, if_pos hall]
      rfl

/-- **Every other template skips its first variable** in some match, if it can be compiled
and nothing but the path decides. -/
theorem exists_tryMatch_not_absentLast {r : Route γ} (hr : r.Reachable)
    (hopen : r.constraints.isOpen = true) (hrules : r.rules.isEmpty = true)
    (hcompile : ∃ c, r.compile = .ok c) (hkeeps : ¬ KeepsRun r.tokens) :
    ∃ request p, r.tryMatch request = some p ∧
      ¬ p.AbsentLast (variablesOf (r.tokens.drop (firstOptional r.tokens))) := by
  have hfirst : firstOptional r.tokens = 0 :=
    Nat.eq_zero_of_not_pos fun hpos => hkeeps (.later hpos)
  obtain ⟨v, rest, htokens⟩ := Template.eq_var_of_firstOptional_eq_zero hr.tokens_ne_nil hfirst
  have hts := hr.wellNamed
  have hcut := r.cut_tokens
  have hzero := hfirst
  rw [htokens] at hts hcut hkeeps hzero
  obtain ⟨ws, u, more, d, hskip⟩ := Template.exists_skip hts hcut
    (Template.isOptional_of_firstOptional_eq_zero hzero) hkeeps
  have hpath : Uri.normalize ('/' :: Template.skipText ws d) = '/' :: Template.skipText ws d :=
    Uri.normalize_cons_slash hskip.head?_skipText (by simp)
  have hsubject : '/' :: Template.skipText ws d =
      v.separator.toList ++ Template.skipText ws d := by
    rw [hr.separator_eq_slash htokens]
    rfl
  obtain ⟨found, hfound⟩ := @Template.Skip.exists_coversFirst r.caseSensitive _ _ _ _ _ _ hskip hts
  have hsplit : Template.Split r.caseSensitive r.tokens ('/' :: Template.skipText ws d)
      (none :: found) := by
    rw [htokens, hsubject]
    exact (Template.split_iff_of_zero hzero).mpr
      ⟨none, _, found, rfl, rfl, by simp, hfound⟩
  obtain ⟨values, hvalues, hmatch⟩ :=
    exists_tryMatch_of_split hr hopen hrules hcompile hfirst hpath hsplit
  refine ⟨_, _, hmatch, ?_⟩
  rw [absentLast_parametersOf_iff hr.wellNamed hvalues, hfirst]
  rw [htokens, hsubject] at hvalues
  exact hskip.not_absentLast hts hzero hvalues

end UriRouting.Route
