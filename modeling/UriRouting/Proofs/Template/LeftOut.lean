import UriRouting.Proofs.Template.Filling
import UriRouting.Proofs.Template.Readings

/-!
# UriRouting.Proofs.Template.LeftOut

The variables at the end of a template that may be left out, and the order in which the
greatest split of a subject leaves them out.

* `GreatestFirst.absentLast` — after the first token of a template, a variable that is left
  out has none with a value after it;
* `KeepsRun` — the templates of which this is true from the first token on;
* `GreatestSplit.absentLast` — what the greatest split of a path leaves out;
* `Skip`, `exists_skip` — every other template has a path that skips its first variable.

Variables that are left out come last because each is nested in the one before it. The
first token of a template is not part of this nesting. Its value may be missing while its
separator is there, and the tokens after it are tried nevertheless.
-/

namespace UriRouting.Template

/-! ### Greatest values -/

/-- The values that are missing come after those that are there. -/
def AbsentLast (values : List (Option Text)) : Prop :=
  values.Pairwise fun a b => a = none → b = none

theorem absentLast_leftOut (ts : List Token) : AbsentLast (leftOut ts) :=
  List.pairwise_replicate.mpr (.inr fun _ => rfl)

/-- Some values are others or less. -/
def AtMost (as bs : List (Option Text)) : Prop :=
  as = bs ∨ Lesser as bs

theorem lesser_append_left_iff (as : List (Option Text)) {bs cs : List (Option Text)} :
    Lesser (as ++ bs) (as ++ cs) ↔ Lesser bs cs := by
  have hirrefl : Std.Irrefl fun a b : Option Text => rank a < rank b :=
    ⟨fun a => Nat.lt_irrefl (rank a)⟩
  induction as with
  | nil => exact Iff.rfl
  | cons a as ih => exact List.lex_cons_iff.trans ih

theorem AtMost.of_append_left {as bs cs : List (Option Text)} (h : AtMost (as ++ bs) (as ++ cs)) :
    AtMost bs cs :=
  h.imp List.append_cancel_left (lesser_append_left_iff as).mp

theorem AtMost.of_cons {a : Option Text} {bs cs : List (Option Text)}
    (h : AtMost (a :: bs) (a :: cs)) : AtMost bs cs :=
  @AtMost.of_append_left [a] bs cs h

theorem AtMost.rank_le {a b : Option Text} {as bs : List (Option Text)}
    (h : AtMost (a :: as) (b :: bs)) : rank a ≤ rank b := by
  rcases h with heq | hless
  · rw [(List.cons.inj heq).1]
  · cases hless with
    | rel h => exact Nat.le_of_lt h
    | cons _ => exact Nat.le_refl _

/-- The values of a text that is made of pieces for the first of some tokens, greater than
any others for it. -/
structure GreatestFirst (caseSensitive : Bool) (ts : List Token) (text : Text)
    (values : List (Option Text)) : Prop where
  /-- The text is made of such pieces. -/
  covers : CoversFirst caseSensitive ts text values
  /-- Other values are less. -/
  greatest : ∀ values', CoversFirst caseSensitive ts text values' → AtMost values' values

variable {caseSensitive : Bool}

theorem coversFirst_nil (caseSensitive : Bool) (ts : List Token) :
    CoversFirst caseSensitive ts [] (leftOut ts) :=
  ⟨0, [], Nat.zero_le _, .nil, rfl⟩

theorem CoversFirst.var {v : Variable} {ts : List Token} {value rest : Text}
    {found : List (Option Text)} (hvalue : v.value.Admits value)
    (h : CoversFirst caseSensitive ts rest found) :
    CoversFirst caseSensitive (.var v :: ts) (v.separator.toList ++ (value ++ rest))
      (some value :: found) := by
  obtain ⟨m, vs, hm, hcovers, rfl⟩ := h
  refine ⟨m + 1, some value :: vs, Nat.succ_le_succ hm, ?_, rfl⟩
  rw [← List.append_assoc]
  exact .var hvalue hcovers

theorem GreatestFirst.tail {v : Variable} {ts : List Token} {value rest : Text}
    {found : List (Option Text)} (hvalue : v.value.Admits value)
    (hrest : CoversFirst caseSensitive ts rest found)
    (h : GreatestFirst caseSensitive (.var v :: ts) (v.separator.toList ++ (value ++ rest))
      (some value :: found)) : GreatestFirst caseSensitive ts rest found where
  covers := hrest
  greatest := fun _ hfound => (h.greatest _ (hfound.var hvalue)).of_cons

/-- Only a variable that takes every text can have the empty value. -/
theorem ValueClass.admits_of_admits_nil {kind : ValueClass} (h : kind.Admits []) (value : Text) :
    kind.Admits value := by
  cases kind with
  | anything => trivial
  | segment excluded => exact absurd rfl h.1

theorem Variable.admits_of_isAnything {v : Variable} (hv : v.isAnything = true) (value : Text) :
    v.value.Admits value := by
  rw [beq_iff_eq.mp hv]
  trivial

theorem Variable.exists_segment {v : Variable} (hv : v.isAnything = false) :
    ∃ excluded, v.value = .segment excluded := by
  unfold isAnything at hv
  cases hvalue : v.value with
  | anything =>
      rw [hvalue] at hv
      cases hv
  | segment excluded => exact ⟨excluded, rfl⟩

theorem eq_nil_of_rank_le {value : Text} (h : rank (some value) ≤ rank (some [])) :
    value = [] :=
  List.length_eq_zero_iff.mp (Nat.le_zero.mp (Nat.le_of_succ_le_succ h))

/-- A variable that takes every text takes all that is left. -/
theorem GreatestFirst.rest_eq_nil {v : Variable} {ts : List Token} {rest : Text}
    {found : List (Option Text)} (hvalue : v.value.Admits [])
    (h : GreatestFirst caseSensitive (.var v :: ts) (v.separator.toList ++ ([] ++ rest))
      (some [] :: found)) : rest = [] := by
  have hcovers := (coversFirst_nil caseSensitive ts).var
    (ValueClass.admits_of_admits_nil hvalue rest)
  rw [List.append_nil] at hcovers
  exact eq_nil_of_rank_le (h.greatest _ hcovers).rank_le

theorem eq_nil_of_reported {value : Text} (h : reported (some value) = none) : value = [] := by
  by_contra hne
  rw [reported_some hne] at h
  cases h

/-- **What is left out comes last.** The induction is on the tokens. A variable without a
value is either left out together with the rest, or it has the empty value, and then there
is nothing left that a later one could have. -/
theorem GreatestFirst.absentLast {ts : List Token} (hts : ∀ t ∈ ts, t.isOptional = true)
    {text : Text} {values : List (Option Text)}
    (h : GreatestFirst caseSensitive ts text values) : AbsentLast (values.map reported) := by
  induction ts generalizing text values with
  | nil =>
      obtain ⟨m, vs, -, hcovers, rfl⟩ := h.covers
      rw [List.take_nil] at hcovers
      rw [(covers_nil_iff.mp hcovers).2, List.drop_nil]
      exact .nil
  | cons token ts ih =>
      rw [List.forall_mem_cons] at hts
      by_cases htext : text = []
      · subst htext
        rw [map_reported_of_coversFirst_nil h.covers]
        exact absentLast_leftOut _
      · cases token with
        | literal literal => cases hts.1
        | var v =>
            obtain ⟨value, rest, found, rfl, hvalue, hrest, rfl⟩ := coversFirst_var htext h.covers
            -- what is greatest from here on is greatest after this token too
            refine List.pairwise_cons.mpr ⟨?_, ih hts.2 (h.tail hvalue hrest)⟩
            intro later hlater hnone
            obtain rfl := eq_nil_of_reported hnone
            rw [h.rest_eq_nil hvalue] at hrest
            rw [map_reported_of_coversFirst_nil hrest] at hlater
            exact List.eq_of_mem_replicate hlater

/-! ### The run of variables that may be left out -/

/-- A variable that directly continues the text before it, with characters that are no
slashes. -/
def Token.continues : Token → Bool
  | literal _ => false
  | var v => v.separator.isNone && !v.isAnything

theorem Token.continues_iff {t : Token} :
    t.continues = true ↔ ∃ v, t = .var v ∧ v.separator = none ∧ v.isAnything = false := by
  cases t with
  | literal text => simp [continues]
  | var v => simp [continues]

/-- The templates where no later variable at the end gets a value while the first of them
gets none. -/
inductive KeepsRun : List Token → Prop where
  /-- The variables come after other tokens, each nested in the one before it. -/
  | later {ts : List Token} (h : 0 < firstOptional ts) : KeepsRun ts
  /-- The first variable takes every text. -/
  | anything {v : Variable} {rest : List Token} (hv : v.isAnything = true) :
      KeepsRun (.var v :: rest)
  /-- A slash comes after the first variable. No path has it at its start after another. -/
  | slash {v w : Variable} {rest : List Token} (hw : w.separator = some '/') :
      KeepsRun (.var v :: .var w :: rest)
  /-- What the next variable starts with, the first one takes as well. -/
  | next {v w : Variable} {rest : List Token} (hv : v.value = .segment none)
      (hw : w.separator = none) (hany : w.isAnything = true) :
      KeepsRun (.var v :: .var w :: rest)
  /-- All variables continue the first one, and it takes all that they take. -/
  | joined {v : Variable} {rest : List Token} (h : ∀ t ∈ rest, t.continues = true) :
      KeepsRun (.var v :: rest)

theorem firstChar_append_of_continues {ws : List Token} (h : ∀ t ∈ ws, t.continues = true)
    (ts : List Token) : firstChar (ws ++ ts) = firstChar ts := by
  induction ws with
  | nil => rfl
  | cons token ws ih =>
      rw [List.forall_mem_cons] at h
      obtain ⟨v, rfl, hseparator, -⟩ := Token.continues_iff.mp h.1
      rw [List.cons_append, firstChar, hseparator, ih h.2, Option.none_or]

theorem not_mem_slash_of_admits {v : Variable} (hv : v.isAnything = false) {value : Text}
    (h : v.value.Admits value) : '/' ∉ value := by
  obtain ⟨excluded, hsegment⟩ := v.exists_segment hv
  rw [hsegment] at h
  exact h.2.1

/-- Variables that continue a text take no slashes. -/
theorem not_mem_slash_of_continues {ts : List Token} (hts : ∀ t ∈ ts, t.continues = true)
    {text : Text} {values : List (Option Text)} (h : CoversFirst caseSensitive ts text values) :
    '/' ∉ text := by
  induction ts generalizing text values with
  | nil =>
      rw [eq_nil_of_coversFirst_nil h]
      exact List.not_mem_nil
  | cons token ts ih =>
      rw [List.forall_mem_cons] at hts
      by_cases htext : text = []
      · rw [htext]
        exact List.not_mem_nil
      · obtain ⟨v, rfl, hseparator, hv⟩ := Token.continues_iff.mp hts.1
        obtain ⟨value, rest, found, rfl, hvalue, hrest, rfl⟩ := coversFirst_var htext h
        rw [hseparator]
        exact List.not_mem_append List.not_mem_nil (List.not_mem_append
          (not_mem_slash_of_admits hv hvalue) (ih hts.2 hrest))

/-- **A first variable that gets no value.** Where a template keeps its run, the greatest
split of a path then leaves nothing for the variables after it: either the text that they
share could not be there, or a start of it could go to the first variable. -/
theorem GreatestSplit.rest_eq_nil {v : Variable} {rest : List Token}
    (hcut : Cut (.var v :: rest)) (hfirst : firstOptional (.var v :: rest) = 0)
    (hkeeps : KeepsRun (.var v :: rest)) {text : Text} {more : List (Option Text)}
    (hmore : CoversFirst caseSensitive rest text more) (hslash : text.head? ≠ some '/')
    (h : GreatestSplit caseSensitive (.var v :: rest) (v.separator.toList ++ text)
      (none :: more)) : text = [] := by
  -- no start of the text is a value of the first variable, with the rest for the others
  have hnot : ∀ value text' more', text = value ++ text' → v.value.Admits value →
      ¬ CoversFirst caseSensitive rest text' more' := by
    rintro value text' more' rfl hvalue hcovers
    have hsplit : Split caseSensitive (.var v :: rest)
        (v.separator.toList ++ (value ++ text')) (some value :: more') :=
      (split_iff_of_zero hfirst).mpr
        ⟨some value, text', more', rfl, rfl, by simpa using hvalue, hcovers⟩
    exact absurd (AtMost.rank_le (h.greatest _ hsplit)) (Nat.not_succ_le_zero _)
  have hall := fun hvalue =>
    hnot text [] _ (List.append_nil text).symm hvalue (coversFirst_nil caseSensitive rest)
  by_contra hne
  cases hkeeps with
  | later hpos => exact absurd hfirst (Nat.ne_of_gt hpos)
  | anything hv => exact hall (v.admits_of_isAnything hv text)
  | slash hw =>
      obtain ⟨value, text', found, rfl, -⟩ := coversFirst_var hne hmore
      rw [hw] at hslash
      exact hslash rfl
  | @next _ w rest hv hw hany =>
      obtain ⟨c, text', rfl⟩ := List.exists_cons_of_ne_nil hne
      have hvalue : v.value.Admits [c] := by
        rw [hv]
        exact ⟨by simp, by simpa [eq_comm] using hslash, by simp⟩
      have hcovers := (coversFirst_nil caseSensitive rest).var (w.admits_of_isAnything hany text')
      rw [hw, List.append_nil] at hcovers
      exact hnot [c] text' _ rfl hvalue hcovers
  | joined hcontinues =>
      refine hall ?_
      cases hv : v.isAnything with
      | true => exact v.admits_of_isAnything hv text
      | false =>
          have hnone : firstChar rest = none := by
            have h := firstChar_append_of_continues hcontinues []
            rwa [List.append_nil] at h
          rw [hcut.1 hv, hnone]
          exact ⟨hne, not_mem_slash_of_continues hcontinues hmore, by simp⟩

theorem isOptional_of_firstOptional_eq_zero {v : Variable} {rest : List Token}
    (hfirst : firstOptional (.var v :: rest) = 0) : ∀ t ∈ rest, t.isOptional = true := by
  intro t ht
  apply @isOptional_of_mem_drop (.var v :: rest)
  rw [hfirst]
  exact List.mem_cons_of_mem _ ht

/-- A first variable with the empty value leaves nothing for the others either. -/
theorem GreatestSplit.rest_eq_nil_of_empty {v : Variable} {rest : List Token}
    (hfirst : firstOptional (.var v :: rest) = 0) (hvalue : v.value.Admits []) {text : Text}
    {more : List (Option Text)}
    (h : GreatestSplit caseSensitive (.var v :: rest) (v.separator.toList ++ ([] ++ text))
      (some [] :: more)) : text = [] := by
  have hall := ValueClass.admits_of_admits_nil hvalue text
  have hsplit : Split caseSensitive (.var v :: rest) (v.separator.toList ++ ([] ++ text))
      (some text :: leftOut rest) :=
    (split_iff_of_zero hfirst).mpr ⟨some text, [], leftOut rest, by simp, rfl,
      by simpa using hall, coversFirst_nil caseSensitive rest⟩
  exact eq_nil_of_rank_le (AtMost.rank_le (h.greatest _ hsplit))

/-- The part of a greatest split that is about the variables that may be left out. -/
theorem GreatestSplit.exists_run {ts : List Token} (hfirst : 0 < firstOptional ts)
    {subject : Text} {values : List (Option Text)}
    (h : GreatestSplit caseSensitive ts subject values) :
    ∃ text, GreatestFirst caseSensitive (ts.drop (firstOptional ts)) text
      (values.drop (variablesOf (ts.take (firstOptional ts))).length) := by
  obtain ⟨x, y, vs, ws, rfl, rfl, hx, hy⟩ := (split_iff_of_pos hfirst).mp h.split
  rw [← hx.length_values, List.drop_left]
  refine ⟨y, hy, fun ws' hy' => ?_⟩
  have hsplit : Split caseSensitive ts (x ++ y) (vs ++ ws') :=
    (split_iff_of_pos hfirst).mpr ⟨x, y, vs, ws', rfl, rfl, hx, hy'⟩
  exact AtMost.of_append_left (h.greatest _ hsplit)

/-- The part of a greatest split that comes after a first variable that may be left out. -/
theorem GreatestSplit.tail {v : Variable} {rest : List Token}
    (hfirst : firstOptional (.var v :: rest) = 0) {first : Option Text} {text : Text}
    {more : List (Option Text)} (hvalue : ∀ value ∈ first, v.value.Admits value)
    (hmore : CoversFirst caseSensitive rest text more)
    (h : GreatestSplit caseSensitive (.var v :: rest)
      (v.separator.toList ++ (first.getD [] ++ text)) (first :: more)) :
    GreatestFirst caseSensitive rest text more where
  covers := hmore
  greatest := fun _ hcovers => AtMost.of_cons (h.greatest _
    ((split_iff_of_zero hfirst).mpr ⟨first, text, _, rfl, rfl, hvalue, hcovers⟩))

/-- **After the first token of a template, what is left out comes last.** -/
theorem GreatestSplit.absentLast_tail {ts : List Token} (hts : ts ≠ []) {subject : Text}
    {values : List (Option Text)} (h : GreatestSplit caseSensitive ts subject values) :
    AbsentLast
      ((values.drop (variablesOf (ts.take (max 1 (firstOptional ts)))).length).map reported) := by
  rcases Nat.eq_zero_or_pos (firstOptional ts) with hfirst | hfirst
  · obtain ⟨v, rest, rfl⟩ := eq_var_of_firstOptional_eq_zero hts hfirst
    obtain ⟨first, text, more, rfl, rfl, hvalue, hmore⟩ := (split_iff_of_zero hfirst).mp h.split
    rw [hfirst]
    exact (h.tail hfirst hvalue hmore).absentLast (isOptional_of_firstOptional_eq_zero hfirst)
  · obtain ⟨text, hrun⟩ := h.exists_run hfirst
    rw [Nat.max_eq_right hfirst]
    exact hrun.absentLast fun t ht => isOptional_of_mem_drop ht

/-- **Where a template keeps its run, what is left out comes last**, in every subject that
starts with one slash and not with two. -/
theorem GreatestSplit.absentLast {ts : List Token} (hts : ts ≠ []) (hcut : Cut ts)
    (hslash : ∀ v rest, ts = .var v :: rest → v.separator = some '/') (hkeeps : KeepsRun ts)
    {text : Text} (htext : text.head? ≠ some '/') {values : List (Option Text)}
    (h : GreatestSplit caseSensitive ts ('/' :: text) values) :
    AbsentLast ((values.drop (variablesOf (ts.take (firstOptional ts))).length).map reported) := by
  rcases Nat.eq_zero_or_pos (firstOptional ts) with hfirst | hfirst
  · obtain ⟨v, rest, rfl⟩ := eq_var_of_firstOptional_eq_zero hts hfirst
    obtain ⟨first, text', more, hsubject, rfl, hvalue, hmore⟩ :=
      (split_iff_of_zero hfirst).mp h.split
    rw [hsubject] at h
    have htail := (h.tail hfirst hvalue hmore).absentLast
      (isOptional_of_firstOptional_eq_zero hfirst)
    -- the slash that the subject starts with is the separator of the first variable
    rw [hslash v rest rfl, Option.toList_some, List.singleton_append, List.cons.injEq] at hsubject
    obtain ⟨-, rfl⟩ := hsubject
    rw [hfirst]
    refine List.pairwise_cons.mpr ⟨fun later hlater hnone => ?_, htail⟩
    have hnil : text' = [] := by
      cases first with
      | none => exact h.rest_eq_nil hcut hfirst hkeeps hmore htext
      | some value =>
          obtain rfl := eq_nil_of_reported hnone
          exact h.rest_eq_nil_of_empty hfirst (hvalue [] rfl)
    subst hnil
    rw [map_reported_of_coversFirst_nil hmore] at hlater
    exact List.eq_of_mem_replicate hlater
  · obtain ⟨text, hrun⟩ := h.exists_run hfirst
    exact hrun.absentLast fun t ht => isOptional_of_mem_drop ht

/-! ### Templates that do not keep their run -/

/-- A way to skip the first variable `v` of a template. The tokens `ws` continue it, and
after them `u` can start with the character `d`, which none of the values before takes. -/
structure Skip (v : Variable) (rest ws : List Token) (u : Variable) (more : List Token)
    (d : Char) : Prop where
  /-- The tokens after the first variable. -/
  tokens : rest = ws ++ .var u :: more
  /-- Those before `u` continue it. -/
  continues : ∀ t ∈ ws, t.continues = true
  /-- What `u` starts with. -/
  starts : u.separator = some d ∨ u.separator = none ∧ u.isAnything = true
  /-- No value before `u` has the character. -/
  excludes : ∀ w ∈ v :: variablesOf ws, ∀ value, w.value.Admits value → d ∉ value
  /-- A path does not start with two slashes. -/
  single : ws = [] → d ≠ '/'

/-- The tokens that continue a variable, up to the first that does not. -/
theorem exists_continues_append {rest : List Token} (h : ¬ ∀ t ∈ rest, t.continues = true) :
    ∃ ws t more, rest = ws ++ t :: more ∧ (∀ w ∈ ws, w.continues = true) ∧
      t.continues = false := by
  push Not at h
  have hsome : (rest.find? (!·.continues)).isSome = true := by
    rw [List.find?_isSome]
    simpa using h
  obtain ⟨t, ht⟩ := Option.isSome_iff_exists.mp hsome
  obtain ⟨hcontinues, ws, more, heq, hws⟩ := List.find?_eq_some_iff_append.mp ht
  exact ⟨ws, t, more, heq, by simpa using hws, by simpa using hcontinues⟩

/-- No value of a variable that tokens after it continue has the separator after these. -/
theorem not_mem_of_continues {ws ts : List Token} {d : Char}
    (hws : ∀ t ∈ ws, t.continues = true) (hcut : Cut (ws ++ ts)) (hfirst : firstChar ts = some d)
    (hd : isSeparator d = true) {w : Variable} (hw : w ∈ variablesOf ws) {value : Text}
    (hvalue : w.value.Admits value) : d ∉ value := by
  induction ws with
  | nil => cases hw
  | cons token ws ih =>
      rw [List.forall_mem_cons] at hws
      obtain ⟨v, rfl, -, hv⟩ := Token.continues_iff.mp hws.1
      rcases List.mem_cons.mp hw with rfl | hw
      · exact not_mem_of_firstChar hcut hv
          ((firstChar_append_of_continues hws.2 ts).trans hfirst) hd hvalue
      · exact ih hws.2 hcut.2 hw

/-- **A template that does not keep its run** has a way to skip its first variable. -/
theorem exists_skip {v : Variable} {rest : List Token} (hts : WellNamed (.var v :: rest))
    (hcut : Cut (.var v :: rest)) (hoptional : ∀ t ∈ rest, t.isOptional = true)
    (hkeeps : ¬ KeepsRun (.var v :: rest)) : ∃ ws u more d, Skip v rest ws u more d := by
  have hv : v.isAnything = false := Bool.eq_false_iff.mpr fun h => hkeeps (.anything h)
  obtain ⟨ws, token, more, rfl, hws, htoken⟩ :=
    exists_continues_append fun h => hkeeps (.joined h)
  obtain ⟨u, rfl⟩ : ∃ u, token = .var u := by
    cases token with
    | literal text => cases hoptional (.literal text) (by simp)
    | var u => exact ⟨u, rfl⟩
  cases hseparator : u.separator with
  | some d =>
      have hd : isSeparator d = true := (hts.proper u (by simp)).separator d hseparator
      have hfirst : firstChar (.var u :: more) = some d := by
        rw [firstChar, hseparator, Option.some_or]
      -- the separator of `u` is the first character after `v` and `ws` that is in no slot
      refine ⟨ws, u, more, d, rfl, hws, .inl hseparator, fun w hw value hvalue => ?_, ?_⟩
      · rcases List.mem_cons.mp hw with rfl | hw
        · exact not_mem_of_firstChar hcut hv
            ((firstChar_append_of_continues hws _).trans hfirst) hd hvalue
        · exact not_mem_of_continues hws hcut.2 hfirst hd hw hvalue
      · rintro rfl rfl
        exact hkeeps (.slash hseparator)
  | none =>
      have hany : u.isAnything = true := by
        simpa [Token.continues, hseparator] using htoken
      cases ws with
      | nil =>
          -- the next variable can start with what the first one leaves out
          obtain ⟨excluded, hexcluded⟩ := v.exists_segment hv
          obtain ⟨d, rfl⟩ : ∃ d, excluded = some d := by
            cases excluded with
            | none => exact absurd (.next hexcluded hseparator hany) hkeeps
            | some d => exact ⟨d, rfl⟩
          refine ⟨[], u, more, d, rfl, hws, .inr ⟨hseparator, hany⟩, ?_, fun _ => ?_⟩
          · intro w hw value hvalue
            rw [List.mem_singleton.mp hw, hexcluded] at hvalue
            exact hvalue.2.2 d rfl
          · exact ((hts.proper v (by simp)).excluded d hexcluded).2
      | cons w ws =>
          -- a slash will do, because a letter for `w` stands before it
          refine ⟨w :: ws, u, more, '/', rfl, hws, .inr ⟨hseparator, hany⟩, ?_, fun h => by cases h⟩
          intro w' hw value hvalue
          rcases List.mem_cons.mp hw with rfl | hw
          · exact not_mem_slash_of_admits hv hvalue
          · obtain ⟨_, heq, -, hw'⟩ := Token.continues_iff.mp (hws _ (mem_variablesOf.mp hw))
            cases heq
            exact not_mem_slash_of_admits hw' hvalue

/-! ### A path that skips the first variable -/

/-- The text after the separator of the first variable that skips it. -/
def skipText (ws : List Token) (d : Char) : Text :=
  List.replicate ws.length 'a' ++ [d, 'a']

theorem Skip.head?_skipText {v u : Variable} {rest ws more : List Token} {d : Char}
    (h : Skip v rest ws u more d) : (skipText ws d).head? ≠ some '/' := by
  cases ws with
  | nil => simpa [skipText] using h.single rfl
  | cons w ws => simp [skipText, List.replicate_succ]

@[simp] theorem getLast?_skipText (ws : List Token) (d : Char) :
    (skipText ws d).getLast? = some 'a' := by
  simp [skipText]

theorem exists_coversFirst_continues {ws ts : List Token} (hws : ∀ t ∈ ws, t.continues = true)
    (hproper : ∀ w ∈ variablesOf ws, w.Proper) {text : Text}
    (h : ∃ found, CoversFirst caseSensitive ts text found) :
    ∃ found, CoversFirst caseSensitive (ws ++ ts) (List.replicate ws.length 'a' ++ text) found := by
  induction ws with
  | nil => exact h
  | cons token ws ih =>
      rw [List.forall_mem_cons] at hws
      obtain ⟨w, rfl, hseparator, -⟩ := Token.continues_iff.mp hws.1
      rw [variablesOf_var, List.forall_mem_cons] at hproper
      obtain ⟨found, hfound⟩ := ih hws.2 hproper.2
      have hcovers := hfound.var hproper.1.admits_letter
      rw [hseparator] at hcovers
      exact ⟨_, hcovers⟩

/-- The text is made of pieces for the tokens after the first variable. -/
theorem Skip.exists_coversFirst {v u : Variable} {rest ws more : List Token} {d : Char}
    (h : Skip v rest ws u more d) (hts : WellNamed (.var v :: rest)) :
    ∃ found, CoversFirst caseSensitive rest (skipText ws d) found := by
  have htokens := h.tokens
  subst htokens
  refine exists_coversFirst_continues h.continues (fun w hw => hts.proper w (by simp [hw])) ?_
  rcases h.starts with hseparator | ⟨hseparator, hany⟩
  · have hcovers := (coversFirst_nil caseSensitive more).var
      (hts.proper u (by simp)).admits_letter
    rw [hseparator] at hcovers
    exact ⟨_, hcovers⟩
  · have hcovers := (coversFirst_nil caseSensitive more).var
      (u.admits_of_isAnything hany [d, 'a'])
    rw [hseparator] at hcovers
    exact ⟨_, hcovers⟩

/-- Where no value has a character, none of them is empty either: the empty value is one of
a variable that takes every text. -/
theorem ValueClass.ne_nil_of_excludes {kind : ValueClass} {d : Char}
    (h : ∀ value, kind.Admits value → d ∉ value) {value : Text} (hvalue : kind.Admits value) :
    value ≠ [] := by
  rintro rfl
  exact h [d] (admits_of_admits_nil hvalue [d]) (List.mem_singleton_self d)

/-- A start of a row of letters and the character after it, without that character. -/
theorem eq_of_replicate_append_eq {n : Nat} {d : Char} {t value rest : Text}
    (h : List.replicate n 'a' ++ d :: t = value ++ rest) (hd : d ∉ value) :
    value.length ≤ n ∧ rest = List.replicate (n - value.length) 'a' ++ d :: t := by
  rcases List.append_eq_append_iff.mp h with ⟨s, rfl, hs⟩ | ⟨s, hs, rfl⟩
  · cases s with
    | nil =>
        rw [List.append_nil, List.length_replicate, Nat.sub_self]
        exact ⟨Nat.le_refl n, hs.symm⟩
    | cons c s =>
        cases hs
        exact absurd (by simp) hd
  · obtain ⟨hlength, -, hreplicate⟩ := List.append_eq_replicate_iff.mp hs.symm
    have hsub : n - value.length = s.length := by
      omega
    exact ⟨by omega, by rw [hsub, ← hreplicate]⟩

/-- Variables that continue a text need a letter each. -/
theorem not_coversFirst_of_lt {ws ts : List Token} {d : Char} (hws : ∀ t ∈ ws, t.continues = true)
    (hexcludes : ∀ w ∈ variablesOf ws, ∀ value, w.value.Admits value → d ∉ value) {n : Nat}
    (hn : n < ws.length) {t : Text} {found : List (Option Text)} :
    ¬ CoversFirst caseSensitive (ws ++ ts) (List.replicate n 'a' ++ d :: t) found := by
  induction ws generalizing n found with
  | nil => exact absurd hn (Nat.not_lt_zero n)
  | cons token ws ih =>
      intro h
      rw [List.forall_mem_cons] at hws
      obtain ⟨w, rfl, hseparator, -⟩ := Token.continues_iff.mp hws.1
      rw [variablesOf_var, List.forall_mem_cons] at hexcludes
      obtain ⟨value, rest, found, heq, hvalue, hrest, -⟩ := coversFirst_var (by simp) h
      rw [hseparator, Option.toList_none, List.nil_append] at heq
      -- the value has a letter at least and ends before `d`, so the others are short of one too
      obtain ⟨hlength, rfl⟩ := eq_of_replicate_append_eq heq (hexcludes.1 value hvalue)
      have hpos := List.length_pos_of_ne_nil (ValueClass.ne_nil_of_excludes hexcludes.1 hvalue)
      rw [List.length_cons] at hn
      exact ih hws.2 hexcludes.2 (by omega) hrest

/-- Where nothing is reported, the text has separators only. -/
theorem isSeparator_of_reported {ts : List Token} (hts : WellNamed ts)
    (hoptional : ∀ t ∈ ts, t.isOptional = true) {text : Text} {found : List (Option Text)}
    (h : CoversFirst caseSensitive ts text found)
    (hnone : ∀ value ∈ found.map reported, value = none) : ∀ c ∈ text, isSeparator c = true := by
  induction ts generalizing text found with
  | nil =>
      rw [eq_nil_of_coversFirst_nil h]
      simp
  | cons token ts ih =>
      by_cases htext : text = []
      · rw [htext]
        simp
      · obtain ⟨htoken, hts'⟩ := hts.of_cons
        rw [List.forall_mem_cons] at hoptional
        cases token with
        | literal literal => cases hoptional.1
        | var v =>
            obtain ⟨value, rest, found, rfl, -, hrest, rfl⟩ := coversFirst_var htext h
            rw [List.map_cons, List.forall_mem_cons] at hnone
            obtain rfl := eq_nil_of_reported hnone.1
            have hseparator := (htoken.proper v (List.mem_singleton_self v)).separator
            intro c hc
            rcases List.mem_append.mp hc with hc | hc
            · exact hseparator c (by simpa using hc)
            · exact ih hts' hoptional.2 hrest hnone.2 c hc

/-- **The first variable is skipped**: every split of the subject leaves it without a value,
and some variable after it has one. -/
theorem Skip.not_absentLast {v u : Variable} {rest ws more : List Token} {d : Char}
    (h : Skip v rest ws u more d) (hts : WellNamed (.var v :: rest))
    (hfirst : firstOptional (.var v :: rest) = 0) {values : List (Option Text)}
    (hsplit : Split caseSensitive (.var v :: rest) (v.separator.toList ++ skipText ws d) values) :
    ¬ AbsentLast (values.map reported) := by
  obtain ⟨first, text, found, heq, rfl, hvalue, hfound⟩ := (split_iff_of_zero hfirst).mp hsplit
  rw [List.append_cancel_left_eq] at heq
  cases first with
  | some value =>
      -- the variables that continue the first one are a letter short
      have hexcludes := List.forall_mem_cons.mp h.excludes
      have hadmits := hvalue value rfl
      rw [Option.getD_some] at heq
      obtain ⟨hlength, rfl⟩ := eq_of_replicate_append_eq heq (hexcludes.1 value hadmits)
      have hpos := List.length_pos_of_ne_nil (ValueClass.ne_nil_of_excludes hexcludes.1 hadmits)
      rw [h.tokens] at hfound
      exact absurd hfound (not_coversFirst_of_lt h.continues hexcludes.2 (by omega))
  | none =>
      -- with the first value all others would be missing, but a letter is no separator
      intro hlast
      have hnone := (List.pairwise_cons.mp hlast).1
      have hletter : 'a' ∈ text := by
        rw [← show skipText ws d = text from heq, skipText]
        simp
      have ha := isSeparator_of_reported hts.of_cons.2
        (isOptional_of_firstOptional_eq_zero hfirst) hfound (fun value hmem => hnone value hmem rfl)
        'a' hletter
      cases ha

end UriRouting.Template
