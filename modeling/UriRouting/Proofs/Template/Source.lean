import UriRouting.Proofs.Regex.Groups
import UriRouting.Proofs.Template.Captures
import UriRouting.Proofs.Template.Filling

/-!
# UriRouting.Proofs.Template.Source

The source of a template as a text for the reader of expressions:

* `balanced_regexSource` — every group in it is closed;
* `groupNames_templatePart` — its groups are those of the variables, in order;
* `depth_templatePart_le` — it is nested three deeper for each variable at the end of the
  template that may be left out, and not much more;
* `faithful_regexSource` — so a scanned template is always written for what it means, and can
  be compiled unless the limits of depth or size are in the way.
-/

namespace UriRouting.Template

open Regex (Balanced Neutral Part anchoredParts groupNamesOf rowOfParts)

/-! ### The groups are closed -/

theorem neutral_value (value : ValueClass) : Neutral false value.source := by
  cases value with
  | anything => exact .of_all false (by decide)
  | segment excluded =>
      cases excluded with
      | none =>
          have hclass : Neutral true ['^', '/'] := .of_all true (by decide)
          exact hclass.inBrackets.append (.of_all false (by decide))
      | some c =>
          have hclass : Neutral true (['^', '/'] ++ Regex.escape [c]) :=
            (Neutral.of_all true (by decide)).append (.escape true [c])
          have h := hclass.inBrackets.append (.singleton false (c := '+') (by decide))
          simpa [ValueClass.source] using h

theorem neutral_name {name : Text} (h : Regex.IsGroupName name) : Neutral false name := by
  cases name with
  | nil => exact h.elim
  | cons c name =>
      refine .of_all false (List.all_eq_true.mpr fun d hd => ?_)
      rw [Regex.isDelimiter_of_word (List.all_eq_true.mp h.2 d hd), Bool.not_false]

theorem neutral_group {v : Variable} (hv : v.Proper) : Neutral false v.groupSource := by
  have hopen : Neutral false ['?', 'P', '<'] := .of_all false (by decide)
  have hinside := ((hopen.append (neutral_name hv.name)).append
    (.singleton false (c := '>') (by decide))).append (neutral_value v.value)
  simpa [Variable.groupSource] using hinside.group

theorem neutral_token {t : Token} (ht : WellNamed [t]) : Neutral false t.source := by
  cases t with
  | literal text => exact .escape false text
  | var v =>
      exact (Neutral.escape false v.separator.toList).append
        (neutral_group (ht.proper v (by simp)))

theorem neutral_tokens {ts : List Token} (hts : WellNamed ts) :
    Neutral false (ts.flatMap Token.source) := by
  induction ts with
  | nil => exact .nil false
  | cons t ts ih =>
      obtain ⟨ht, hts'⟩ := hts.of_cons
      exact (neutral_token ht).append (ih hts')

/-- As many groups are closed at the end of a run as it has opened. -/
theorem neutral_optional {ts : List Token} (hts : WellNamed ts) :
    Neutral false (optionalSource ts) := by
  induction ts with
  | nil => exact .nil false
  | cons t ts ih =>
      obtain ⟨ht, hts'⟩ := hts.of_cons
      have hopen : Neutral false ['?', ':'] := .of_all false (by decide)
      have hinside := ((hopen.append (neutral_token ht)).append (ih hts')).group
      have h := hinside.append (.singleton false (c := '?') (by decide))
      simpa [optionalSource] using h

theorem neutral_body {ts : List Token} (hts : WellNamed ts) : Neutral false (bodySource ts) := by
  unfold bodySource
  split
  · rename_i v rest h
    obtain ⟨rfl, -⟩ := leadingOptional?_eq_some.mp h
    obtain ⟨hv, hrest⟩ := hts.of_cons
    exact ((neutral_token hv).append (.singleton false (by decide))).append
      (neutral_optional hrest)
  · rw [← List.take_append_drop (firstOptional ts) ts] at hts
    obtain ⟨hfirst, hlast⟩ := hts.of_append
    exact (neutral_tokens hfirst).append (neutral_optional hlast)

/-- **Every group in the source of a template is closed**, and none that is not open. -/
theorem balanced_regexSource {ts : List Token} (hts : WellNamed ts) :
    Balanced (regexSource ts) := by
  rw [regexSource_eq]
  exact (((Neutral.singleton false (by decide)).append (neutral_body hts)).append
    (.singleton false (by decide))).balanced

/-! ### The groups are those of the variables -/

variable (ignoreCase : Bool)

theorem groupNames_value (value : ValueClass) :
    (value.part ignoreCase).regex.groupNames = [] := by
  cases value <;> rfl

theorem groupNames_group (v : Variable) :
    (v.groupPart ignoreCase).regex.groupNames = [v.name] := by
  rw [Variable.groupPart, Regex.groupNames_enclosed, Regex.groupNames_rowOfParts,
    Regex.groupNamesOf_singleton, groupNames_value]
  rfl

theorem groupNamesOf_token (t : Token) : groupNamesOf (t.parts ignoreCase) = namesOf [t] := by
  cases t with
  | literal text => exact Regex.groupNamesOf_chars ignoreCase text
  | var v =>
      rw [Token.parts, Regex.groupNamesOf_append, Variable.separatorParts,
        Regex.groupNamesOf_chars, Regex.groupNamesOf_singleton, groupNames_group]
      rfl

theorem groupNamesOf_tokens (ts : List Token) :
    groupNamesOf (ts.flatMap (Token.parts ignoreCase)) = namesOf ts := by
  induction ts with
  | nil => rfl
  | cons t ts ih =>
      rw [List.flatMap_cons, Regex.groupNamesOf_append, groupNamesOf_token, ih, ← namesOf_cons]

theorem groupNamesOf_optional (ts : List Token) :
    groupNamesOf (optionalParts ignoreCase ts) = namesOf ts := by
  induction ts with
  | nil => rfl
  | cons t ts ih =>
      rw [optionalParts, Regex.groupNamesOf_singleton, Regex.groupNames_maybe,
        Regex.groupNames_enclosed, Regex.groupNames_rowOfParts, Regex.groupNamesOf_append,
        groupNamesOf_token, ih, ← namesOf_cons]
      rfl

/-- **Each variable has one group**, and there are no others. -/
theorem groupNames_templatePart (ts : List Token) :
    (templatePart ignoreCase ts).regex.groupNames = namesOf ts := by
  have hbody : groupNamesOf (templateParts ignoreCase ts) = namesOf ts := by
    unfold templateParts
    split
    · rename_i v rest h
      obtain ⟨rfl, -⟩ := leadingOptional?_eq_some.mp h
      rw [Regex.groupNamesOf_append, Regex.groupNamesOf_append, Variable.separatorParts,
        Regex.groupNamesOf_chars, Regex.groupNamesOf_singleton, Regex.groupNames_maybe,
        groupNames_group, groupNamesOf_optional]
      rfl
    · rw [Regex.groupNamesOf_append, groupNamesOf_tokens, groupNamesOf_optional,
        ← namesOf_append, List.take_append_drop]
  rw [templatePart, Regex.groupNames_rowOfParts, anchoredParts, Regex.groupNamesOf_append,
    Regex.groupNamesOf_append, hbody]
  exact List.append_nil _

/-! ### The depth -/

/-- How many variables at the end of a template may be left out. -/
def optionalRun (ts : List Token) : Nat :=
  (ts.reverse.takeWhile Token.isOptional).length

theorem length_drop_firstOptional (ts : List Token) :
    (ts.drop (firstOptional ts)).length = optionalRun ts := by
  have hle : optionalRun ts ≤ ts.length := by
    have h := (List.takeWhile_prefix Token.isOptional (l := ts.reverse)).length_le
    rwa [List.length_reverse] at h
  have hfirst : firstOptional ts = ts.length - optionalRun ts := rfl
  rw [List.length_drop, hfirst]
  omega

variable {ignoreCase : Bool}

/-- The parts of a token are nested one deeper than the values of its variable. -/
theorem depth_tokenParts_le {t : Token} {n : Nat}
    (h : ∀ v, t = .var v → (v.value.part ignoreCase).depth < n) :
    ∀ p ∈ t.parts ignoreCase, p.depth ≤ n := by
  have hchars (text : Text) : ∀ p ∈ text.map (Part.ofChar ignoreCase), p.depth ≤ n := by
    intro p hp
    obtain ⟨c, -, rfl⟩ := List.mem_map.mp hp
    exact Nat.zero_le n
  cases t with
  | literal text => exact hchars text
  | var v =>
      rw [Token.parts, List.forall_mem_append]
      exact ⟨hchars _, List.forall_mem_singleton.mpr (h v rfl)⟩

theorem depth_value_le (value : ValueClass) : (value.part ignoreCase).depth ≤ 3 := by
  cases value with
  | anything => exact Nat.le_add_left 1 2
  | segment excluded => cases excluded <;> simp [ValueClass.part]

/-- The last variable leaves out nothing but slashes. -/
theorem depth_value_last_le {v : Variable} (hcut : Cut [.var v]) :
    (v.value.part ignoreCase).depth ≤ 2 := by
  cases hv : v.isAnything with
  | true =>
      rw [Variable.isAnything, beq_iff_eq] at hv
      rw [hv]
      exact Nat.le_succ 1
  | false =>
      rw [hcut.1 hv]
      exact Nat.le_refl 2

/-- Each variable of a run is nested in those before it, three deeper each time: it is in a row,
in a group and under a repetition. -/
theorem depth_optionalParts_le {ts : List Token} (hcut : Cut ts) :
    ∀ p ∈ optionalParts ignoreCase ts, p.depth ≤ 3 * ts.length + 3 := by
  induction ts with
  | nil => simp [optionalParts]
  | cons t ts ih =>
      have hparts : ∀ p ∈ t.parts ignoreCase ++ optionalParts ignoreCase ts,
          p.depth ≤ 3 * ts.length + 3 := by
        rw [List.forall_mem_append]
        refine ⟨depth_tokenParts_le fun v hv => ?_, ih hcut.tail⟩
        subst hv
        cases ts with
        | nil => exact Nat.lt_succ_of_le (depth_value_last_le hcut)
        | cons t' ts =>
            have hvalue := @depth_value_le ignoreCase v.value
            rw [List.length_cons]
            omega
      have hrow := Regex.depth_rowOfParts_le hparts
      rw [optionalParts, List.forall_mem_singleton, List.length_cons]
      simp only [Part.maybe, Part.enclosed]
      omega

theorem depth_templateParts_le {ts : List Token} (hcut : Cut ts) :
    ∀ p ∈ templateParts ignoreCase ts, p.depth ≤ max 5 (3 * optionalRun ts + 3) := by
  have hrun := length_drop_firstOptional ts
  unfold templateParts
  split
  · rename_i v rest h
    obtain ⟨rfl, hfirst⟩ := leadingOptional?_eq_some.mp h
    rw [hfirst, List.drop_zero, List.length_cons] at hrun
    rw [List.forall_mem_append, List.forall_mem_append, List.forall_mem_singleton]
    refine ⟨⟨?_, ?_⟩, fun p hp => ?_⟩
    · exact List.forall_mem_map.mpr fun c _ => Nat.zero_le _
    · have hvalue := @depth_value_le ignoreCase v.value
      have hgroup : (v.groupPart ignoreCase).maybe.depth = (v.value.part ignoreCase).depth + 2 :=
        rfl
      omega
    · have hdepth := depth_optionalParts_le hcut.tail p hp
      omega
  · rw [List.forall_mem_append]
    constructor
    · intro p hp
      obtain ⟨t, -, hp⟩ := List.mem_flatMap.mp hp
      have hdepth : p.depth ≤ 4 :=
        depth_tokenParts_le (fun v _ => Nat.lt_succ_of_le (depth_value_le v.value)) p hp
      omega
    · intro p hp
      rw [← List.take_append_drop (firstOptional ts) ts] at hcut
      have hdepth := depth_optionalParts_le hcut.of_append p hp
      omega

/-- **How deeply the expression of a template is nested.** -/
theorem depth_templatePart_le {ts : List Token} (hcut : Cut ts) :
    (templatePart ignoreCase ts).depth ≤ max 6 (3 * optionalRun ts + 4) := by
  have hparts : ∀ p ∈ anchoredParts (templateParts ignoreCase ts),
      p.depth ≤ max 5 (3 * optionalRun ts + 3) := by
    rw [anchoredParts, List.forall_mem_append, List.forall_mem_append, List.forall_mem_singleton,
      List.forall_mem_singleton]
    exact ⟨⟨Nat.zero_le _, depth_templateParts_le hcut⟩, Nat.zero_le _⟩
  have hrow := Regex.depth_rowOfParts_le hparts
  rw [templatePart]
  omega

/-- With up to 82 variables at the end that may be left out, the expression of a template is not
nested too deeply. -/
theorem depth_le_depthLimit {ts : List Token} (hcut : Cut ts) (hrun : optionalRun ts ≤ 82) :
    (templatePart ignoreCase ts).depth ≤ Regex.depthLimit := by
  have hdepth := @depth_templatePart_le ignoreCase ts hcut
  rw [Regex.depthLimit]
  omega

/-! ### Sources that are faithful -/

/-- The source of a template stands for it, where `part` is what is read from the source. -/
structure Faithful (ps : List Piece) (anything : List Text) (caseSensitive : Bool)
    (part : Part) : Prop where
  /-- Every group is closed. -/
  balanced : Balanced (regexSource (tokenize ps anything))
  /-- The source is an expression. -/
  read : Regex.read (.initial (!caseSensitive)) (regexSource (tokenize ps anything)) = .ok part
  /-- Each slot has one group, in the order of the slots, and there are no other groups. -/
  groups : part.regex.groupNames = slotNames ps
  /-- The names of the groups are different. -/
  nodup : (slotNames ps).Nodup
  /-- The subjects that match are the splits of the template: each character that belongs to no
  slot stands for itself, up to case, and each separator for nothing else. -/
  search : tokenize ps anything ≠ [] → ∀ subject,
    (part.regex.search subject).isSome = true ↔
      ∃ values, Split caseSensitive (tokenize ps anything) subject values

theorem faithful_of_scan {template : Text} {ps : List Piece} (hscan : scan template = .ok ps)
    (anything : List Text) (caseSensitive : Bool) :
    Faithful ps anything caseSensitive
      (templatePart (!caseSensitive) (tokenize ps anything)) where
  balanced := balanced_regexSource (wellNamed_of_scan hscan anything)
  read := read_regexSource (!caseSensitive) (wellNamed_of_scan hscan anything)
  groups := by
    rw [groupNames_templatePart]
    exact namesOf_ofPieces anything [] ps
  nodup := (of_checkNames (scan_eq_ok hscan).2).1
  search := by
    intro hne subject
    have hsearch := congrArg Option.isSome
      (search_templatePart caseSensitive (wellNamed_of_scan hscan anything) subject)
    rw [Option.isSome_map] at hsearch
    simp only [hsearch, ← mem_splits hne]
    rw [List.isSome_head?, ← List.isEmpty_eq_false_iff, List.isEmpty_eq_false_iff_exists_mem]

/-- What a template that has been scanned is made into, where `part` is what is read from its
source. A template without slots is compared as a text, and its source is not used. -/
def made (template : Text) (ps : List Piece) (anything : List Text) (caseSensitive : Bool)
    (part : Part) : Compiled :=
  if slotNames ps = [] then .plain template (tokenize ps anything) caseSensitive
  else
    { Compiled.ofTokens template (tokenize ps anything) caseSensitive with
      matcher := some ⟨regexSource (tokenize ps anything), part.regex⟩ }

/-- Why a template that has been scanned is refused. -/
structure Refused (template : Text) (ps : List Piece) (anything : List Text)
    (caseSensitive : Bool) (e : TemplateError) : Prop where
  /-- It is said of the template that it cannot be compiled. -/
  error : e = .uncompilable template
  /-- The expression is nested too deeply, because many variables at the end of the template
  may be left out, or it is too large. -/
  limit : 82 < optionalRun (tokenize ps anything) ∧
      Regex.build (regexSource (tokenize ps anything)) (!caseSensitive) =
        .error .nestedTooDeeply ∨
    Regex.build (regexSource (tokenize ps anything)) (!caseSensitive) = .error .tooLarge

/-- What becomes of a template that has been scanned. -/
theorem compile_of_scan {template : Text} {ps : List Piece} (hscan : scan template = .ok ps)
    (anything : List Text) (caseSensitive : Bool) :
    compile template caseSensitive anything =
      if namesOf (tokenize ps anything) = [] then
        .ok (.plain template (tokenize ps anything) caseSensitive)
      else if withinLimits (!caseSensitive) (tokenize ps anything) then
        .ok (.ofTokens template (tokenize ps anything) caseSensitive)
      else .error (.uncompilable template) := by
  rw [compile, hscan, ← compilePieces_eq hscan]
  rfl

theorem refused_of_error {template : Text} {ps : List Piece} (hscan : scan template = .ok ps)
    {anything : List Text} {caseSensitive : Bool} {e : TemplateError}
    (h : compile template caseSensitive anything = .error e) :
    Refused template ps anything caseSensitive e := by
  have hbuild := build_regexSource (!caseSensitive) (wellNamed_of_scan hscan anything)
  rw [compile_of_scan hscan] at h
  split at h
  · cases h
  · split at h
    · cases h
    · rename_i hlimits
      cases h
      refine ⟨rfl, ?_⟩
      by_cases hdepth : Regex.depthLimit <
          (templatePart (!caseSensitive) (tokenize ps anything)).depth
      · rw [if_pos hdepth] at hbuild
        refine .inl ⟨?_, hbuild⟩
        by_contra hrun
        have hle := @depth_le_depthLimit (!caseSensitive) _ (cut_ofPieces anything [] ps)
          (Nat.le_of_not_lt hrun)
        exact Nat.not_lt.mpr hle hdepth
      · have hsize : ¬ (templatePart (!caseSensitive) (tokenize ps anything)).regex.fits = true := by
          intro hfits
          exact hlimits (by simp [withinLimits, Nat.le_of_not_lt hdepth, hfits])
        rw [if_neg hdepth, if_neg hsize] at hbuild
        exact .inr hbuild

/-- **The source of a template is always an expression that stands for it**, and the template is
made into what is read from it, unless that is nested too deeply or too large. It is not nested too
deeply with up to 82 variables at the end that may be left out. -/
theorem faithful_regexSource {template : Text} {ps : List Piece} (hscan : scan template = .ok ps)
    (anything : List Text) (caseSensitive : Bool) :
    ∃ part, Faithful ps anything caseSensitive part ∧
      (optionalRun (tokenize ps anything) ≤ 82 → part.regex.fits = true →
        compile template caseSensitive anything =
          .ok (made template ps anything caseSensitive part)) ∧
      ∀ e, compile template caseSensitive anything = .error e →
        Refused template ps anything caseSensitive e := by
  refine ⟨_, faithful_of_scan hscan anything caseSensitive, fun hrun hfits => ?_, fun e => ?_⟩
  · have hlimits : withinLimits (!caseSensitive) (tokenize ps anything) = true := by
      rw [withinLimits, Bool.and_eq_true, decide_eq_true_eq]
      exact ⟨depth_le_depthLimit (cut_ofPieces anything [] ps) hrun, hfits⟩
    have hnames : namesOf (tokenize ps anything) = slotNames ps :=
      namesOf_ofPieces anything [] ps
    rw [compile_of_scan hscan, if_pos hlimits, made, hnames]
    split
    · rfl
    · rfl
  · exact refused_of_error hscan

/-- Characters with a meaning of their own in expressions, and a line feed. -/
theorem faithful_regexSource_meta :
    ∃ ps part, scan "/a(+)\n/{id}.{ext?}".toList = .ok ps ∧
      optionalRun (tokenize ps []) ≤ 82 ∧ Faithful ps [] true part ∧ part.regex.fits = true ∧
      compile "/a(+)\n/{id}.{ext?}".toList true [] =
        .ok (made "/a(+)\n/{id}.{ext?}".toList ps [] true part) := by
  have hscan : scan "/a(+)\n/{id}.{ext?}".toList =
      .ok (Piece.scan "/a(+)\n/{id}.{ext?}".toList) := by
    decide +kernel
  have hrun : optionalRun (tokenize (Piece.scan "/a(+)\n/{id}.{ext?}".toList) []) ≤ 82 := by
    decide +kernel
  obtain ⟨part, hfaithful, hcompile, -⟩ := faithful_regexSource hscan [] true
  -- what is read is known, so its size can be computed
  have hread := read_regexSource (!true) (wellNamed_of_scan hscan [])
  rw [hfaithful.read] at hread
  have hfits : part.regex.fits = true := by
    rw [Except.ok.inj hread]
    decide +kernel
  exact ⟨_, part, hscan, hrun, hfaithful, hfits, hcompile hrun hfits⟩

end UriRouting.Template
