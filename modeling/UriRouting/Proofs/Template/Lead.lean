import UriRouting.Proofs.Template.Filling
import UriRouting.Proofs.Template.Captures
import UriRouting.Proofs.Uri.Comparison

/-!
# UriRouting.Proofs.Template.Lead

A template that starts with a literal text has its expression tried on subjects only that
start with this text, by the comparison of `Uri.startsWithFolded`. The expression compares
the same text once more, up to simple case folding. Whether the first comparison is no more
than a shortcut depends on the characters of the text:

* `foldsAsLowercase` — the characters for which the two comparisons agree;
* `startsWithFolded_of_spells` — what is spelled like a text of such characters passes;
* `exists_spells_of_not_foldsAsLowercase` — every other text has a spelling that does not;
* `captures_eq_searchCaptures_iff` — the shortcut is exact for the texts of the first kind.

Of the characters of ASCII it is the letter s that fails (`foldsAsLowercase_iff_of_isAscii`),
because the long small s folds to it and is a small letter already.
-/

namespace UriRouting.Template

/-- What the expression of a template alone says about a subject. -/
def Compiled.searchCaptures (c : Compiled) (subject : Text) :
    Option (List (Variable × Option Text)) :=
  c.matcher.bind fun m => (m.regex.search subject).map (c.readCaptures subject)

/-- Whether the characters that fold like this one have its lower-case form as well. -/
def foldsAsLowercase (c : Char) : Bool :=
  (Unicode.orbit c).all fun d => Uri.sameLowercase d c

theorem foldsAsLowercase_iff {c : Char} :
    foldsAsLowercase c = true ↔
      ∀ d, sameChar false c d = true → Uri.sameLowercase d c = true := by
  rw [foldsAsLowercase, List.all_eq_true]
  refine forall_congr' fun d => ?_
  rw [Unicode.mem_orbit_iff, sameChar, if_neg (by decide), beq_iff_eq, eq_comm]

/-! ### The two comparisons -/

theorem toLower_eq_of_sameChar {c d : Char} (hc : c.toNat < 0x80) (hd : d.toNat < 0x80)
    (h : sameChar false c d = true) : c.toLower = d.toLower := by
  rw [sameChar, if_neg (by decide), beq_iff_eq] at h
  rwa [← Unicode.foldSimple_eq_toLower hc, ← Unicode.foldSimple_eq_toLower hd]

/-- Within ASCII the comparisons agree, the letter s included. -/
theorem sameLowercase_of_sameChar {c d : Char} (hc : c.toNat < 0x80) (hd : d.toNat < 0x80)
    (h : sameChar false c d = true) : Uri.sameLowercase d c = true := by
  rw [Uri.sameLowercase, Unicode.toLowercase_eq_toLower hc, Unicode.toLowercase_eq_toLower hd,
    toLower_eq_of_sameChar hc hd h, beq_self_eq_true, Bool.or_true]

theorem toLower_ascii {c : Char} (hc : c.toNat < 0x80) :
    c.toLower.toNat < 0x80 ∧ (c.toLower = 's' → c = 's' ∨ c = 'S') :=
  Unicode.of_isAscii
    (P := fun c => c.toLower.toNat < 0x80 ∧ (c.toLower = 's' → c = 's' ∨ c = 'S'))
    (by decide +kernel) hc

/-- In ASCII, the letter s is the only one that fails. The letter k, which the kelvin sign
folds to, does not, since it is the lower-case form of that sign too. -/
theorem foldsAsLowercase_iff_of_isAscii {c : Char} (hc : c.toNat < 0x80) :
    foldsAsLowercase c = true ↔ c ≠ 's' ∧ c ≠ 'S' := by
  constructor
  · intro h
    constructor
    · rintro rfl
      exact absurd h (by decide +kernel)
    · rintro rfl
      exact absurd h (by decide +kernel)
  · intro hne
    refine foldsAsLowercase_iff.mpr fun d hsame => ?_
    rcases Nat.lt_or_ge d.toNat 0x80 with hd | hd
    · exact sameLowercase_of_sameChar hc hd hsame
    · have hlower := toLower_ascii hc
      have hfold : Unicode.foldSimple d = c.toLower := by
        rw [sameChar, if_neg (by decide), beq_iff_eq] at hsame
        rw [← hsame, Unicode.foldSimple_eq_toLower hc]
      rcases Unicode.eq_of_foldSimple_isAscii (hfold ▸ hlower.1) hd with rfl | rfl
      · have hs : c.toLower = 's' := hfold.symm.trans (by decide +kernel)
        exact absurd (hlower.2 hs) (by simpa using hne)
      · have hk : c.toLower = 'k' := hfold.symm.trans (by decide +kernel)
        have hkelvin : Unicode.toLowercase (Char.ofNat 0x212A) = ['k'] := by
          decide +kernel
        rw [Uri.sameLowercase, hkelvin, Unicode.toLowercase_eq_toLower hc, hk,
          beq_self_eq_true, Bool.or_true]

theorem lower_eq_of_spells {lead piece : Text} (hlead : lead.isAscii = true)
    (hpiece : piece.isAscii = true) (h : Spells false lead piece) : piece.lower = lead.lower := by
  induction h with
  | nil => rfl
  | @cons c d lead piece hsame _ ih =>
      simp only [Text.isAscii, List.all_cons, Bool.and_eq_true, decide_eq_true_eq]
        at hlead hpiece
      have hc := toLower_eq_of_sameChar hlead.1 hpiece.1 hsame
      have ht := ih hlead.2 hpiece.2
      simp only [Text.lower] at ht
      simp only [Text.lower, List.map_cons, hc, ht]

theorem startsCharwise_of_spells {lead piece : Text} (hall : lead.all foldsAsLowercase = true)
    (h : Spells false lead piece) (rest : Text) :
    Uri.startsCharwise (piece ++ rest) lead = true := by
  induction h with
  | nil => cases rest <;> rfl
  | cons hsame _ ih =>
      rw [List.all_cons, Bool.and_eq_true] at hall
      rw [List.cons_append, Uri.startsCharwise, ih hall.2,
        foldsAsLowercase_iff.mp hall.1 _ hsame, Bool.and_self]

/-- A text that is spelled like a literal starts with it, if all its characters fold to
their lower-case forms. -/
theorem startsWithFolded_of_spells {lead piece : Text} {caseSensitive : Bool}
    (hall : caseSensitive = true ∨ lead.all foldsAsLowercase = true)
    (h : Spells caseSensitive lead piece) (rest : Text) :
    Uri.startsWithFolded (piece ++ rest) lead caseSensitive = true := by
  cases caseSensitive with
  | true =>
      rw [spells_true_iff.mp h]
      exact Uri.startsWithFolded_append lead rest true
  | false =>
      have hall' : lead.all foldsAsLowercase = true := by
        simpa using hall
      rw [Uri.startsWithFolded, if_neg (by decide)]
      split
      · rename_i hascii
        simp only [Bool.and_eq_true, Text.isAscii, List.all_append] at hascii
        -- a spelling has the length of what is spelled
        have htake : (piece ++ rest).take lead.length = piece := by
          rw [h.length_eq, List.take_left]
        rw [htake, Text.eqIgnoreCase, lower_eq_of_spells hascii.2 hascii.1.1 h, Bool.and_eq_true,
          decide_eq_true_eq, List.length_append, ← h.length_eq]
        exact ⟨Nat.le_add_right _ _, beq_self_eq_true _⟩
      · exact startsCharwise_of_spells hall' h rest

theorem startsCharwise_eq_false {c d : Char} (h : Uri.sameLowercase d c = false)
    (before s t : Text) : Uri.startsCharwise (before ++ d :: s) (before ++ c :: t) = false := by
  induction before with
  | nil => rw [List.nil_append, List.nil_append, Uri.startsCharwise, h, Bool.false_and]
  | cons b before ih =>
      rw [List.cons_append, List.cons_append, Uri.startsCharwise, ih, Bool.and_false]

/-- Any other text can be spelled in a way that does not start with it. -/
theorem exists_spells_of_not_foldsAsLowercase {lead : Text}
    (hall : lead.all foldsAsLowercase = false) :
    ∃ piece, Spells false lead piece ∧
      ∀ rest, Uri.startsWithFolded (piece ++ rest) lead false = false := by
  obtain ⟨c, hmem, hc⟩ := List.all_eq_false.mp hall
  obtain ⟨before, after, rfl⟩ := List.append_of_mem hmem
  rw [foldsAsLowercase_iff] at hc
  push Not at hc
  obtain ⟨d, hsame, hlower⟩ := hc
  refine ⟨before ++ d :: after, ?_, fun rest => ?_⟩
  · exact List.rel_append (spells_self false before) (.cons hsame (spells_self false after))
  · rw [Uri.startsWithFolded, if_neg (by decide), if_neg]
    · rw [List.append_assoc]
      exact startsCharwise_eq_false (Bool.eq_false_iff.mpr hlower) before _ after
    · -- within ASCII the two characters would have the same lower-case form
      intro hascii
      simp only [Bool.and_eq_true, Text.isAscii, List.all_append, List.all_cons,
        decide_eq_true_eq] at hascii
      exact hlower (sameLowercase_of_sameChar hascii.2.2.1 hascii.1.1.2.1 hsame)

/-! ### Subjects of a template -/

/-- Some text is made of pieces for the tokens, whatever they are. -/
theorem exists_covers (caseSensitive : Bool) {ts : List Token}
    (hproper : ∀ v ∈ variablesOf ts, v.Proper) :
    ∃ text values, Covers caseSensitive ts text values := by
  induction ts with
  | nil => exact ⟨[], [], .nil⟩
  | cons token ts ih =>
      cases token with
      | literal literal =>
          obtain ⟨text, values, h⟩ := ih hproper
          exact ⟨_, _, .literal (spells_self caseSensitive literal) h⟩
      | var v =>
          rw [variablesOf_var, List.forall_mem_cons] at hproper
          obtain ⟨text, values, h⟩ := ih hproper.2
          exact ⟨_, _, .var hproper.1.admits_letter h⟩

/-- Every subject with a split starts with a spelling of the literal at the start. -/
theorem Split.exists_spells {caseSensitive : Bool} {lead subject : Text} {ts : List Token}
    {values : List (Option Text)}
    (h : Split caseSensitive (.literal lead :: ts) subject values) :
    ∃ piece rest, subject = piece ++ rest ∧ Spells caseSensitive lead piece := by
  cases h with
  | leading _ hts => cases hts
  | kept m _ hleast _ hcovers =>
      obtain ⟨m, rfl⟩ := Nat.exists_eq_succ_of_ne_zero
        (Nat.ne_of_gt (Nat.lt_of_lt_of_le (firstOptional_literal_pos lead ts) hleast))
      rw [List.take_succ_cons] at hcovers
      cases hcovers with
      | literal hpiece _ => exact ⟨_, _, rfl, hpiece⟩

/-- Every spelling of the literal at the start is the start of a subject with a split. -/
theorem exists_split_of_spells {caseSensitive : Bool} {lead piece : Text}
    (hpiece : Spells caseSensitive lead piece) {ts : List Token}
    (hts : WellNamed (.literal lead :: ts)) :
    ∃ rest values, Split caseSensitive (.literal lead :: ts) (piece ++ rest) values := by
  obtain ⟨rest, values, h⟩ := exists_covers caseSensitive hts.of_cons.2.proper
  have hcovers : Covers caseSensitive ((Token.literal lead :: ts).take (ts.length + 1))
      (piece ++ rest) values := by
    rw [List.take_succ_cons, List.take_length]
    exact .literal hpiece h
  exact ⟨rest, _, .kept _ (firstOptional_literal_pos lead ts) (firstOptional_le _)
    (Nat.le_refl _) hcovers⟩

/-! ### The shortcut -/

/-- The captures of a template with variables: what its expression says, of the subjects
that start as the template demands. -/
theorem captures_ofTokens_eq (pattern : Text) (ts : List Token) (caseSensitive : Bool)
    (subject : Text) :
    (Compiled.ofTokens pattern ts caseSensitive).captures subject =
      if (Compiled.ofTokens pattern ts caseSensitive).admitsLead subject then
        (Compiled.ofTokens pattern ts caseSensitive).searchCaptures subject
      else none :=
  rfl

/-- The expression alone matches the subjects that have a split. -/
theorem searchCaptures_isSome_iff (pattern : Text) (caseSensitive : Bool) {ts : List Token}
    (hts : WellNamed ts) (hne : ts ≠ []) (subject : Text) :
    ((Compiled.ofTokens pattern ts caseSensitive).searchCaptures subject).isSome = true ↔
      ∃ values, Split caseSensitive ts subject values := by
  have hsearch := congrArg Option.isSome (search_templatePart caseSensitive hts subject)
  rw [Option.isSome_map] at hsearch
  have hcaptures : ((Compiled.ofTokens pattern ts caseSensitive).searchCaptures subject).isSome =
      ((templatePart (!caseSensitive) ts).regex.search subject).isSome :=
    Option.isSome_map
  rw [hcaptures, hsearch, List.isSome_head?]
  constructor
  · intro hsome
    obtain ⟨values, hmem⟩ := List.exists_mem_of_ne_nil _ hsome
    exact ⟨values, (mem_splits hne).mp hmem⟩
  · rintro ⟨values, hsplit⟩
    exact List.ne_nil_of_mem ((mem_splits hne).mpr hsplit)

/-- A template that is ready for matching and starts with a literal text. -/
theorem eq_ofTokens_of_lead {template lead : Text} {caseSensitive : Bool} {anything : List Text}
    {c : Compiled} (hc : compile template caseSensitive anything = .ok c)
    (hlead : c.lead = some lead) :
    ∃ ts, c = .ofTokens template (.literal lead :: ts) caseSensitive ∧
      WellNamed (.literal lead :: ts) := by
  obtain ⟨hscan, hpieces⟩ := compile_eq_ok hc
  have hwell := wellNamed_of_scan hscan anything
  rw [compilePieces_eq hscan] at hpieces
  split at hpieces
  · cases hpieces
    cases hlead
  · split at hpieces
    · cases hpieces
      cases htokens : tokenize (Piece.scan template) anything with
      | nil =>
          rw [htokens] at hlead
          cases hlead
      | cons token ts =>
          rw [htokens] at hlead hwell
          cases token with
          | literal text =>
              cases hlead
              exact ⟨ts, rfl, hwell⟩
          | var v => cases hlead
    · cases hpieces

/-- **When the literal text at the start is no more than a shortcut.** A template says the
same of every subject as its expression does if case counts, or if every character of the
text folds to its lower-case form; any other text keeps some subject from a match. -/
theorem captures_eq_searchCaptures_iff {template lead : Text} {caseSensitive : Bool}
    {anything : List Text} {c : Compiled}
    (hc : compile template caseSensitive anything = .ok c) (hlead : c.lead = some lead) :
    (∀ subject, c.captures subject = c.searchCaptures subject) ↔
      caseSensitive = true ∨ lead.all foldsAsLowercase = true := by
  obtain ⟨ts, rfl, hts⟩ := eq_ofTokens_of_lead hc hlead
  have hsearch := searchCaptures_isSome_iff template caseSensitive hts (List.cons_ne_nil _ _)
  constructor
  · intro hexact
    by_contra hnot
    obtain ⟨hcase, hall⟩ := not_or.mp hnot
    rw [Bool.not_eq_true] at hcase hall
    subst hcase
    obtain ⟨piece, hpiece, hrefused⟩ := exists_spells_of_not_foldsAsLowercase hall
    obtain ⟨rest, hsplit⟩ := exists_split_of_spells hpiece hts
    have hfound := (hsearch (piece ++ rest)).mpr hsplit
    have hnone : (Compiled.ofTokens template (.literal lead :: ts) false).captures
        (piece ++ rest) = none := by
      rw [captures_ofTokens_eq]
      exact if_neg (Bool.eq_false_iff.mp (hrefused rest))
    rw [← hexact, hnone] at hfound
    cases hfound
  · intro hall subject
    rw [captures_ofTokens_eq]
    cases hfound : (Compiled.ofTokens template (.literal lead :: ts) caseSensitive).searchCaptures
        subject with
    | none => exact ite_self none
    | some found =>
        obtain ⟨values, hsplit⟩ := (hsearch subject).mp (by rw [hfound]; rfl)
        obtain ⟨piece, rest, rfl, hpiece⟩ := hsplit.exists_spells
        exact if_pos (startsWithFolded_of_spells hall hpiece rest)

/-- A text without the letter s is compared alike in both ways. -/
theorem captures_eq_searchCaptures_blog :
    ∃ c, compile "/blog/{id}".toList false [] = .ok c ∧ c.lead = some "/blog".toList ∧
      ∀ subject, c.captures subject = c.searchCaptures subject := by
  have hc : compile "/blog/{id}".toList false [] = .ok (.ofTokens "/blog/{id}".toList
      (tokenize (Piece.scan "/blog/{id}".toList) []) false) := by
    decide +kernel
  have hlead : (Compiled.ofTokens "/blog/{id}".toList
      (tokenize (Piece.scan "/blog/{id}".toList) []) false).lead = some "/blog".toList := by
    decide +kernel
  exact ⟨_, hc, hlead, (captures_eq_searchCaptures_iff hc hlead).mpr (.inr (by decide +kernel))⟩

/-- The expression of a template ignores the difference between the long and the small s.
The comparison before it does not, and keeps a subject from its match. -/
theorem captures_ne_searchCaptures :
    ∃ c id, compile "/items/{id}".toList false [] = .ok c ∧ c.lead = some "/items".toList ∧
      c.searchCaptures "/itemſ/7".toList = some [(id, some "7".toList)] ∧
      c.captures "/itemſ/7".toList = none := by
  refine ⟨.ofTokens "/items/{id}".toList (tokenize (Piece.scan "/items/{id}".toList) []) false,
    ⟨some '/', .segment none, "id".toList, false⟩, ?_⟩
  decide +kernel

end UriRouting.Template
