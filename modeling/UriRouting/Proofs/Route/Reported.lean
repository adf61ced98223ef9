import UriRouting.Proofs.Route.LeftOut
import UriRouting.Proofs.Template.Markers

/-!
# UriRouting.Proofs.Route.Reported

What the parameters of a match say, for every route and every request:

* `PiecesOf` — texts that lie in a text one after another;
* `Split.piecesOf`, `Split.allAdmit` — the values of a split are such pieces of the subject, and
  each is a value that its variable takes;
* `Reports` — the variables are reported under their names, in the order of the template, with
  pieces of the path that the template and the rules admit;
* `tryMatch_reports` — so are they by every match.
-/

namespace UriRouting

/-! ### Pieces of a text -/

/-- Texts that lie in a text one after another, without overlapping. -/
inductive PiecesOf : List Text → Text → Prop where
  | nil (text : Text) : PiecesOf [] text
  | cons (before piece : Text) {pieces : List Text} {rest : Text} (h : PiecesOf pieces rest) :
      PiecesOf (piece :: pieces) (before ++ piece ++ rest)

/-- Nothing of a text in front needs to be a piece. -/
theorem PiecesOf.append_left {pieces : List Text} {text : Text} (h : PiecesOf pieces text)
    (front : Text) : PiecesOf pieces (front ++ text) := by
  cases h with
  | nil => exact .nil _
  | cons before piece h =>
      rw [← List.append_assoc, ← List.append_assoc]
      exact .cons (front ++ before) piece h

end UriRouting

namespace UriRouting.Template

/-! ### Values of a split -/

/-- A value that is reported is a piece of the text, which has its separator in front. -/
theorem piecesOf_cons_reported {values : List (Option Text)} {text : Text}
    (h : PiecesOf (values.filterMap reported) text) (separator : Text) (value : Option Text) :
    PiecesOf ((value :: values).filterMap reported) (separator ++ value.getD [] ++ text) := by
  cases hreported : reported value with
  | none =>
      rw [List.filterMap_cons_none hreported]
      exact h.append_left _
  | some piece =>
      rw [List.filterMap_cons_some hreported]
      obtain ⟨rfl, -⟩ := Option.filter_eq_some_iff.mp hreported
      exact .cons separator piece h

@[simp] theorem filterMap_reported_leftOut (ts : List Token) :
    (leftOut ts).filterMap reported = [] := by
  rw [List.filterMap_eq_nil_iff]
  intro value hvalue
  rw [List.eq_of_mem_replicate hvalue]
  rfl

theorem Covers.piecesOf {caseSensitive : Bool} {ts : List Token} {text : Text}
    {values : List (Option Text)} (h : Covers caseSensitive ts text values) :
    PiecesOf (values.filterMap reported) text := by
  induction h with
  | nil => exact .nil []
  | literal _ _ ih => exact ih.append_left _
  | @var v value _ _ _ _ _ ih => exact piecesOf_cons_reported ih v.separator.toList (some value)

/-- **The values of a split are pieces of its subject**, one after another. -/
theorem Split.piecesOf {caseSensitive : Bool} {ts : List Token} {subject : Text}
    {values : List (Option Text)} (h : Split caseSensitive ts subject values) :
    PiecesOf (values.filterMap reported) subject := by
  cases h with
  | kept m _ _ _ h =>
      rw [List.filterMap_append, filterMap_reported_leftOut, List.append_nil]
      exact h.piecesOf
  | @leading v _ first text values m _ _ _ _ h =>
      refine piecesOf_cons_reported ?_ v.separator.toList first
      rw [List.filterMap_append, filterMap_reported_leftOut, List.append_nil]
      exact h.piecesOf

/-- The values that variables have are values that they take. -/
def AllAdmit : List Variable → List (Option Text) → Prop :=
  List.Forall₂ fun v value => ∀ text ∈ value, v.value.Admits text

theorem allAdmit_leftOut (ts : List Token) : AllAdmit (variablesOf ts) (leftOut ts) := by
  unfold leftOut
  induction variablesOf ts with
  | nil => exact .nil
  | cons v vs ih => exact .cons (by simp) ih

theorem Covers.allAdmit {caseSensitive : Bool} {ts : List Token} {text : Text}
    {values : List (Option Text)} (h : Covers caseSensitive ts text values) :
    AllAdmit (variablesOf ts) values := by
  induction h with
  | nil => exact .nil
  | literal _ _ ih => exact ih
  | var hvalue _ ih => exact .cons (by simpa using hvalue) ih

/-- Some of the tokens are covered, and the variables among the others are left out. -/
theorem Covers.allAdmit_leftOut {caseSensitive : Bool} {ts : List Token} {m : Nat} {text : Text}
    {values : List (Option Text)} (h : Covers caseSensitive (ts.take m) text values) :
    AllAdmit (variablesOf ts) (values ++ leftOut (ts.drop m)) := by
  have hall : AllAdmit (variablesOf (ts.take m) ++ variablesOf (ts.drop m))
      (values ++ leftOut (ts.drop m)) :=
    List.rel_append h.allAdmit (Template.allAdmit_leftOut (ts.drop m))
  rwa [← variablesOf_append, List.take_append_drop] at hall

/-- **The values of a split are values that the variables take.** -/
theorem Split.allAdmit {caseSensitive : Bool} {ts : List Token} {subject : Text}
    {values : List (Option Text)} (h : Split caseSensitive ts subject values) :
    AllAdmit (variablesOf ts) values := by
  cases h with
  | kept m _ _ _ h => exact h.allAdmit_leftOut
  | leading m hts _ _ hvalue h =>
      rw [hts]
      exact .cons hvalue h.allAdmit_leftOut

end UriRouting.Template

namespace UriRouting.Route

open Template (AllAdmit Marker Variable namesOf report reported variablesOf)

variable {γ : Type}

/-! ### Parameters of a match -/

/-- What the parameters say of a path that a route matches. -/
structure Reports (r : Route γ) (path : Text) (p : Parameters) : Prop where
  /-- The names are those of the markers, in order. -/
  keys : p.keys = (Marker.find r.uri).map (·.slot.name)
  /-- No name is there twice. -/
  nodup : p.keys.Nodup
  /-- The values are pieces of the path, one after another. -/
  pieces : PiecesOf (p.entries.filterMap (·.2)) path
  /-- No value is empty. -/
  ne_nil : ∀ key value, (key, some value) ∈ p.entries → value ≠ []
  /-- Only variables that may be left out are without a value. -/
  optional : ∀ key, (key, none) ∈ p.entries →
    ⟨key, true⟩ ∈ (Marker.find r.uri).map (·.slot)
  /-- There is a slash only in the values of variables that take every text. -/
  slash : ∀ key value, (key, some value) ∈ p.entries → key ∉ r.anything → '/' ∉ value
  /-- Where there are rules for a variable, one of them accepts its value. -/
  rules : ∀ key value, (key, some value) ∈ p.entries → r.rules.rules key ≠ [] →
    ∃ rule ∈ r.rules.rules key, rule.accepts value r.caseSensitive = true
  /-- The entries that are present are those with a value, in order. -/
  present : p.present = p.entries.filterMap fun entry => entry.2.map (entry.1, ·)

/-- What is read has values that the rules accept, and misses none but of variables that may
be left out. -/
theorem readParameters_obeys {r : Route γ} {captures : List (Variable × Option Text)}
    {entries : List (Text × Option Text)} (h : r.readParameters captures = some entries)
    {v : Variable} {value : Option Text} (hmem : (v, value) ∈ captures) :
    (∀ text ∈ value, r.rules.accepts v.name text r.caseSensitive = true) ∧
      (value = none → v.optional = true) := by
  induction captures generalizing entries with
  | nil => cases hmem
  | cons entry captures ih =>
      obtain ⟨w, first⟩ := entry
      cases first with
      | some text =>
          rw [readParameters] at h
          split at h
          · rename_i haccepts
            obtain ⟨_, hrest, -⟩ := Option.map_eq_some_iff.mp h
            rcases List.mem_cons.mp hmem with heq | hmem
            · cases heq
              exact ⟨by simpa using haccepts, by simp⟩
            · exact ih hrest hmem
          · cases h
      | none =>
          rw [readParameters] at h
          split at h
          · rename_i hoptional
            obtain ⟨_, hrest, -⟩ := Option.map_eq_some_iff.mp h
            rcases List.mem_cons.mp hmem with heq | hmem
            · cases heq
              exact ⟨by simp, fun _ => hoptional⟩
            · exact ih hrest hmem
          · cases h

/-- Every match reads its parameters from values that the variables take and that are pieces
of the path. A template without variables has none. -/
theorem exists_values_of_tryMatch {r : Route γ} (hr : r.Reachable) {request : Request}
    {p : Parameters} (h : r.tryMatch request = some p) :
    ∃ values, r.readParameters (report r.tokens values) = some p.entries ∧
      AllAdmit (variablesOf r.tokens) values ∧
      PiecesOf (values.filterMap reported) (Uri.normalize request.path) := by
  by_cases hvars : namesOf r.tokens = []
  · obtain ⟨c, captures, hc, hcaptures, hentries⟩ := captures_of_tryMatch h
    have hnil : variablesOf r.tokens = [] := List.map_eq_nil_iff.mp hvars
    refine ⟨[], ?_, ?_, .nil _⟩
    · rw [hr.compile_eq, if_pos hvars] at hc
      cases hc
      rw [Template.captures_plain] at hcaptures
      split at hcaptures
      · cases hcaptures
        rwa [report, List.map_nil, List.zip_nil_right]
      · cases hcaptures
    · rw [hnil]
      exact .nil
  · obtain ⟨values, hgreatest, hentries⟩ := report_of_tryMatch hr hvars h
    exact ⟨values, hentries, hgreatest.split.allAdmit, hgreatest.split.piecesOf⟩

/-- The variables of a template stand for slots of its markers. Only those that take every
text have values that may have slashes. -/
theorem Reachable.slot_of_mem {r : Route γ} (hr : r.Reachable) {v : Variable}
    (hv : v ∈ variablesOf r.tokens) :
    ⟨v.name, v.optional⟩ ∈ (Marker.find r.uri).map (·.slot) ∧
      (v.name ∉ r.anything → ∃ excluded, v.value = .segment excluded) := by
  obtain ⟨reversed, s, ps, hs, rfl⟩ := Template.exists_slot_of_mem_ofPieces hv
  refine ⟨?_, fun hname => ?_⟩
  · rw [Marker.find, Template.map_slot_locate, ← hr.pieces_eq]
    exact List.mem_filterMap.mpr ⟨_, hs, rfl⟩
  · have helem : r.anything.elem s.name = false := by
      rw [← Bool.not_eq_true, List.elem_iff]
      exact hname
    exact ⟨_, by rw [Template.slotVariable, helem]; rfl⟩

/-- The variables have the names of the markers. -/
theorem Reachable.namesOf_tokens {r : Route γ} (hr : r.Reachable) :
    namesOf r.tokens = (Marker.find r.uri).map (·.slot.name) := by
  calc namesOf r.tokens
      = Template.slotNames r.pieces := Template.namesOf_ofPieces r.anything [] r.pieces
    _ = (Marker.find r.uri).map (·.slot.name) := by
        rw [Marker.find, Template.map_name_locate, hr.pieces_eq]

/-- An entry comes from a variable and its value, which the variable takes. -/
theorem exists_variable_of_mem_report {ts : List Template.Token} {values : List (Option Text)}
    (htaken : AllAdmit (variablesOf ts) values) {v : Variable} {value : Option Text}
    (hmem : (v, value) ∈ report ts values) :
    v ∈ variablesOf ts ∧ ∀ text ∈ value, text ≠ [] ∧ v.value.Admits text := by
  rw [report, List.zip_map_right, List.mem_map] at hmem
  obtain ⟨⟨w, given⟩, hzip, heq⟩ := hmem
  cases heq
  refine ⟨(List.of_mem_zip hzip).1, fun text htext => ?_⟩
  obtain ⟨rfl, hne⟩ := Option.filter_eq_some_iff.mp htext
  exact ⟨by simpa using hne, (List.forall₂_iff_zip.mp htaken).2 hzip text rfl⟩

theorem map_fst_report {ts : List Template.Token} {values : List (Option Text)}
    (htaken : AllAdmit (variablesOf ts) values) :
    (report ts values).map (fun entry => entry.1.name) = namesOf ts := by
  have hlength : (variablesOf ts).length ≤ (values.map reported).length := by
    rw [List.length_map, htaken.length_eq]
  calc (report ts values).map (fun entry => entry.1.name)
      = ((report ts values).map Prod.fst).map (·.name) := List.map_map.symm
    _ = namesOf ts := by rw [report, List.map_fst_zip hlength, namesOf]

theorem filterMap_snd_report {ts : List Template.Token} {values : List (Option Text)}
    (htaken : AllAdmit (variablesOf ts) values) :
    (report ts values).filterMap (·.2) = values.filterMap reported := by
  have hlength : (values.map reported).length ≤ (variablesOf ts).length := by
    rw [List.length_map, htaken.length_eq]
  calc (report ts values).filterMap (·.2)
      = ((report ts values).map Prod.snd).filterMap fun value => value := by
        rw [List.filterMap_map]
        rfl
    _ = values.filterMap reported := by
        rw [report, List.map_snd_zip hlength, List.filterMap_map]
        rfl

/-- **What a match reports**, for every route and every request. -/
theorem tryMatch_reports {r : Route γ} (hr : r.Reachable) {request : Request} {p : Parameters}
    (h : r.tryMatch request = some p) : r.Reports (Uri.normalize request.path) p := by
  obtain ⟨values, hread, htaken, hpieces⟩ := exists_values_of_tryMatch hr h
  have hentries := readParameters_eq_some hread
  have hkeys : p.keys = namesOf r.tokens := by
    rw [Parameters.keys, hentries, List.map_map]
    exact map_fst_report htaken
  -- what an entry says comes from a variable
  have hentry : ∀ {key value}, (key, value) ∈ p.entries → ∃ v ∈ variablesOf r.tokens,
      v.name = key ∧ (v, value) ∈ report r.tokens values ∧
        ∀ text ∈ value, text ≠ [] ∧ v.value.Admits text := by
    intro key value hmem
    rw [hentries, List.mem_map] at hmem
    obtain ⟨⟨v, value'⟩, hmem, heq⟩ := hmem
    cases heq
    obtain ⟨hv, hvalue⟩ := exists_variable_of_mem_report htaken hmem
    exact ⟨v, hv, rfl, hmem, hvalue⟩
  have hne : ∀ key value, (key, some value) ∈ p.entries → value ≠ [] := by
    intro key value hmem
    obtain ⟨v, -, -, -, hvalue⟩ := hentry hmem
    exact (hvalue value rfl).1
  constructor
  case keys => rw [hkeys, hr.namesOf_tokens]
  case nodup =>
    rw [hkeys]
    exact hr.wellNamed.nodup
  case pieces =>
    rw [← filterMap_snd_report htaken] at hpieces
    rw [hentries, List.filterMap_map]
    exact hpieces
  case ne_nil => exact hne
  case optional =>
    intro key hmem
    obtain ⟨v, hv, rfl, hreport, -⟩ := hentry hmem
    rw [← (readParameters_obeys hread hreport).2 rfl]
    exact (hr.slot_of_mem hv).1
  case slash =>
    intro key value hmem hkey
    obtain ⟨v, hv, rfl, -, hvalue⟩ := hentry hmem
    obtain ⟨excluded, hsegment⟩ := (hr.slot_of_mem hv).2 hkey
    have hadmits := (hvalue value rfl).2
    rw [hsegment] at hadmits
    exact hadmits.2.1
  case rules =>
    intro key value hmem hrules
    obtain ⟨v, -, rfl, hreport, -⟩ := hentry hmem
    have haccepts := (readParameters_obeys hread hreport).1 value rfl
    rw [RuleSet.accepts, Bool.or_eq_true, List.isEmpty_iff] at haccepts
    exact List.any_eq_true.mp (haccepts.resolve_left hrules)
  case present =>
    refine List.filterMap_congr fun entry hmem => ?_
    obtain ⟨key, value⟩ := entry
    cases value with
    | none => rfl
    | some value => simp [hne key value hmem]

/-- A variable with a rule, one that takes every text, and one that is left out. -/
theorem tryMatch_reports_file :
    ∃ (r : Route Unit) (p : Parameters), r.Reachable ∧
      p.entries = [("id".toList, some "7".toList), ("path".toList, some "a/b".toList),
        ("ext".toList, none)] ∧
      r.tryMatch { path := "/7/a/b/".toList } = some p ∧
      r.Reports (Uri.normalize "/7/a/b/".toList) p := by
  have hr : Reachable (ofUri ⟨1⟩ "/{id}/{path}.{ext?}".toList ()) :=
    reachable_ofUri ⟨1⟩ () (by decide +kernel)
  have hanything : (ofUri ⟨1⟩ "/{id}/{path}.{ext?}".toList ()).withAnything "path".toList =
      .ok { ofUri ⟨1⟩ "/{id}/{path}.{ext?}".toList () with anything := ["path".toList] } := rfl
  have hrule : Route.withRule
      { ofUri ⟨1⟩ "/{id}/{path}.{ext?}".toList () with anything := ["path".toList] }
      "id".toList .digit =
      .ok { ofUri ⟨1⟩ "/{id}/{path}.{ext?}".toList () with
        anything := ["path".toList], rules := ⟨[("id".toList, [.digit])]⟩ } := rfl
  have hmatch : Route.tryMatch
      { ofUri ⟨1⟩ "/{id}/{path}.{ext?}".toList () with
        anything := ["path".toList], rules := ⟨[("id".toList, [.digit])]⟩ }
      { path := "/7/a/b/".toList } =
      some ⟨[("id".toList, some "7".toList), ("path".toList, some "a/b".toList),
        ("ext".toList, none)]⟩ := by
    decide +kernel
  have hreachable := (hr.withAnything hanything).withRule hrule
  exact ⟨_, _, hreachable, rfl, hmatch, tryMatch_reports hreachable hmatch⟩

end UriRouting.Route
