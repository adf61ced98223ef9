import UriRouting.Proofs.Template.Matching

/-!
# UriRouting.Proofs.Template.Captures

What a template that is ready for matching says about a subject, in terms of splits:

* `captures_ofTokens` — the variables get the values of the greatest split, if the subject
  starts with the literal text of the template;
* `captures_isSome_iff` — when a subject is of the template's form;
* `captures_greatest` — which of several splits is reported.

The literal text at the start is compared twice, once by the expression and once by
`Uri.startsWithFolded`. The two do not ignore case in the same way, so the second one
refuses some subjects that have a split (`captures_refuses_split`).
-/

namespace UriRouting.Template

/-- The variables of some tokens with their values as they are reported. -/
def report (ts : List Token) (values : List (Option Text)) : List (Variable × Option Text) :=
  (variablesOf ts).zip (values.map reported)

theorem readCaptures_eq_report (c : Compiled) (subject : Text) (caps : Regex.Captures) :
    c.readCaptures subject caps =
      report c.tokens ((variablesOf c.tokens).map fun v => caps.text? v.name subject) := by
  rw [report, List.map_map, ← List.map_prod_left_eq_zip]
  rfl

/-- A template without variables is compared with the subject as a text. -/
theorem captures_plain (pattern : Text) (ts : List Token) (caseSensitive : Bool) (subject : Text) :
    (Compiled.plain pattern ts caseSensitive).captures subject =
      if Uri.eqFolded pattern subject caseSensitive then some [] else none := rfl

/-- **The captures of a template** are the values of the greatest split, for a subject that
starts as the template demands. -/
theorem captures_ofTokens {template : Text} {ps : List Piece} (hscan : scan template = .ok ps)
    (pattern : Text) (caseSensitive : Bool) (anything : List Text) (subject : Text) :
    (Compiled.ofTokens pattern (tokenize ps anything) caseSensitive).captures subject =
      if (leadOf (tokenize ps anything)).all (Uri.startsWithFolded subject · caseSensitive) then
        (splits caseSensitive (tokenize ps anything) subject).head?.map
          (report (tokenize ps anything))
      else none := by
  have hcaptures :
      (Compiled.ofTokens pattern (tokenize ps anything) caseSensitive).captures subject =
        if (leadOf (tokenize ps anything)).all (Uri.startsWithFolded subject · caseSensitive) then
          ((templatePart (!caseSensitive) (tokenize ps anything)).regex.search subject).map
            ((Compiled.ofTokens pattern (tokenize ps anything) caseSensitive).readCaptures subject)
        else none := rfl
  have hsearch := search_templatePart caseSensitive (wellNamed_of_scan hscan anything) subject
  rw [hcaptures, ← hsearch, Option.map_map]
  congr 2
  funext caps
  exact readCaptures_eq_report _ subject caps

/-- A template with variables that is ready for matching. -/
theorem eq_ofTokens {template pattern : Text} {ps : List Piece} {caseSensitive : Bool}
    {anything : List Text} {c : Compiled} (hscan : scan template = .ok ps)
    (hc : compilePieces pattern ps caseSensitive anything = .ok c) (hvars : c.names ≠ []) :
    c = .ofTokens pattern (tokenize ps anything) caseSensitive ∧
      namesOf (tokenize ps anything) ≠ [] := by
  rw [compilePieces_eq hscan] at hc
  split at hc
  · cases hc
    exact absurd rfl hvars
  · rename_i hne
    split at hc
    · cases hc
      exact ⟨rfl, hne⟩
    · cases hc

/-- A template is ready for matching once it has been scanned. -/
theorem compile_eq_ok {template : Text} {caseSensitive : Bool} {anything : List Text}
    {c : Compiled} (hc : compile template caseSensitive anything = .ok c) :
    scan template = .ok (Piece.scan template) ∧
      compilePieces template (Piece.scan template) caseSensitive anything = .ok c := by
  obtain ⟨ps, hscan, hpieces⟩ := bind_eq_ok.mp hc
  obtain ⟨rfl, -⟩ := scan_eq_ok hscan
  exact ⟨hscan, hpieces⟩

theorem ne_nil_of_namesOf {ts : List Token} (h : namesOf ts ≠ []) : ts ≠ [] :=
  fun hts => h (by rw [hts]; rfl)

/-- The captures of a template with variables, read off the list of splits. -/
theorem captures_eq {template : Text} {caseSensitive : Bool} {anything : List Text}
    {c : Compiled} (hc : compile template caseSensitive anything = .ok c)
    (hvars : c.names ≠ []) (subject : Text) :
    tokenize (Piece.scan template) anything ≠ [] ∧
      c.captures subject = if (leadOf (tokenize (Piece.scan template) anything)).all
          (Uri.startsWithFolded subject · caseSensitive) then
        (splits caseSensitive (tokenize (Piece.scan template) anything) subject).head?.map
          (report (tokenize (Piece.scan template) anything))
      else none := by
  obtain ⟨hscan, hpieces⟩ := compile_eq_ok hc
  obtain ⟨rfl, hne⟩ := eq_ofTokens hscan hpieces hvars
  exact ⟨ne_nil_of_namesOf hne, captures_ofTokens hscan template caseSensitive anything subject⟩

/-- **When a subject is of a template's form.** There have to be a split of it, and the
literal text that the template starts with has to pass the comparison by lower-case
forms. -/
theorem captures_isSome_iff {template : Text} {caseSensitive : Bool} {anything : List Text}
    {c : Compiled} (hc : compile template caseSensitive anything = .ok c)
    (hvars : c.names ≠ []) (subject : Text) :
    (c.captures subject).isSome = true ↔
      (∃ values, Split caseSensitive (tokenize (Piece.scan template) anything) subject values) ∧
        ∀ lead, leadOf (tokenize (Piece.scan template) anything) = some lead →
          Uri.startsWithFolded subject lead caseSensitive = true := by
  obtain ⟨hne, heq⟩ := captures_eq hc hvars subject
  have hsplits : (splits caseSensitive (tokenize (Piece.scan template) anything)
      subject).head?.isSome = true ↔
        ∃ values, Split caseSensitive (tokenize (Piece.scan template) anything) subject values := by
    simp only [← mem_splits hne]
    cases splits caseSensitive (tokenize (Piece.scan template) anything) subject with
    | nil => simp
    | cons values rest => exact iff_of_true rfl ⟨values, List.mem_cons_self ..⟩
  -- a template that starts with a variable leaves nothing to compare
  have hlead : (leadOf (tokenize (Piece.scan template) anything)).all
      (Uri.startsWithFolded subject · caseSensitive) = true ↔
        ∀ lead, leadOf (tokenize (Piece.scan template) anything) = some lead →
          Uri.startsWithFolded subject lead caseSensitive = true :=
    Option.all_eq_true _ _
  rw [heq, ← hsplits, ← hlead]
  split
  · rename_i h
    rw [Option.isSome_map, iff_true_intro h, and_true]
  · rename_i h
    rw [iff_false_intro h, and_false]
    exact iff_of_false (by decide) not_false

/-- The literal text of a template may be written in another case. -/
theorem captures_isSome_items :
    ∃ c, compile "/items/{id}".toList false [] = .ok c ∧ c.names ≠ [] ∧
      (c.captures "/Items/7".toList).isSome = true := by
  have hc : compile "/items/{id}".toList false [] =
      .ok (.ofTokens "/items/{id}".toList
        (tokenize (Piece.scan "/items/{id}".toList) []) false) := by
    decide +kernel
  refine ⟨_, hc, by decide, (captures_isSome_iff hc (by decide) _).mpr ⟨⟨[some ['7']], ?_⟩, ?_⟩⟩
  · exact (mem_splits (by decide)).mp (by decide +kernel)
  · decide +kernel

/-- The long small s folds to the small s, but it is a small letter already. So a subject
that is spelled with it has a split, and is refused nevertheless. -/
theorem captures_refuses_split :
    ∃ c values, compile "/s/{x}".toList false [] = .ok c ∧ c.names ≠ [] ∧
      Split false (tokenize (Piece.scan "/s/{x}".toList) []) "/ſ/1".toList values ∧
      c.captures "/ſ/1".toList = none := by
  refine ⟨.ofTokens "/s/{x}".toList (tokenize (Piece.scan "/s/{x}".toList) []) false,
    [some ['1']], by decide +kernel, by decide, ?_, by decide +kernel⟩
  exact (mem_splits (by decide)).mp (by decide +kernel)

/-- **The greatest split is reported.** What a match says about the variables comes from a
split of the subject that is greater than every other one. -/
theorem captures_greatest {template : Text} {caseSensitive : Bool} {anything : List Text}
    {c : Compiled} (hc : compile template caseSensitive anything = .ok c)
    (hvars : c.names ≠ []) {subject : Text} {reported : List (Variable × Option Text)}
    (hcaptures : c.captures subject = some reported) :
    ∃ values,
      GreatestSplit caseSensitive (tokenize (Piece.scan template) anything) subject values ∧
        reported = report (tokenize (Piece.scan template) anything) values := by
  obtain ⟨hne, heq⟩ := captures_eq hc hvars subject
  rw [heq] at hcaptures
  split at hcaptures
  · obtain ⟨values, hhead, hreported⟩ := Option.map_eq_some_iff.mp hcaptures
    exact ⟨values, (head?_splits_eq_some_iff hne).mp hhead, hreported.symm⟩
  · cases hcaptures

/-- Of two variables side by side, the first one takes all it can. -/
theorem captures_greatest_adjacent :
    ∃ c, compile "/{a}{b}".toList true ["b".toList] = .ok c ∧ c.names ≠ [] ∧
      c.captures "/xy".toList = some (report c.tokens [some "xy".toList, some []]) ∧
      ∃ values,
        GreatestSplit true (tokenize (Piece.scan "/{a}{b}".toList) ["b".toList]) "/xy".toList
          values ∧
        report c.tokens [some "xy".toList, some []] =
          report (tokenize (Piece.scan "/{a}{b}".toList) ["b".toList]) values := by
  have hc : compile "/{a}{b}".toList true ["b".toList] =
      .ok (.ofTokens "/{a}{b}".toList
        (tokenize (Piece.scan "/{a}{b}".toList) ["b".toList]) true) := by
    decide +kernel
  have hcaptures : (Compiled.ofTokens "/{a}{b}".toList
      (tokenize (Piece.scan "/{a}{b}".toList) ["b".toList]) true).captures "/xy".toList =
        some (report (tokenize (Piece.scan "/{a}{b}".toList) ["b".toList])
          [some "xy".toList, some []]) := by
    decide +kernel
  exact ⟨_, hc, by decide, hcaptures, captures_greatest hc (by decide) hcaptures⟩

end UriRouting.Template
