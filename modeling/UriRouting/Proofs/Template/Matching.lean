import UriRouting.Proofs.Regex.Ways
import UriRouting.Proofs.Template.Readings

/-!
# UriRouting.Proofs.Template.Matching

The search through the expression of a template finds the greatest split. The ways in
which the expression matches are followed one by one by the readings of the text
(`Follows`), part by part and in the same order:

* `follows_template` — the ways to match a whole template;
* `search_templatePart` — what the search finds is the head of the list of splits.
-/

namespace UriRouting.Regex

open Unicode (CharSet)

/-! ### Places in a text -/

/-- The place is one of the text. -/
def Place.In (p : Place) (subject : Text) : Prop :=
  ∃ done, subject = done ++ p.rest ∧ done.length = p.offset

/-- The place after a text that is passed. -/
theorem Place.In.advance {p q : Place} {subject passed : Text} (hp : p.In subject)
    (hrest : p.rest = passed ++ q.rest) (hoffset : q.offset = p.offset + passed.length) :
    q.In subject := by
  obtain ⟨done, hsubject, hlength⟩ := hp
  refine ⟨done ++ passed, ?_, ?_⟩
  · rw [hsubject, hrest, List.append_assoc]
  · rw [List.length_append, hlength, hoffset]

/-- What lies between two places is the text that is passed. -/
theorem Place.In.slice {p q : Place} {subject passed : Text} (hp : p.In subject)
    (hrest : p.rest = passed ++ q.rest) (hoffset : q.offset = p.offset + passed.length) :
    subject.slice p.offset q.offset = passed := by
  obtain ⟨done, hsubject, hlength⟩ := hp
  rw [Text.slice, hsubject, ← hlength, List.drop_left, hrest, hoffset, hlength,
    Nat.add_sub_cancel_left, List.take_left]

/-! ### Sets of characters -/

theorem contains_literalSet (caseSensitive : Bool) (c d : Char) :
    (literalSet (.initial (!caseSensitive)) c).contains d =
      Template.sameChar caseSensitive c d := by
  rw [Bool.eq_iff_iff]
  cases caseSensitive with
  | true =>
      simp only [literalSet, Flags.initial, CharSet.contains, Template.sameChar, Bool.not_true,
        Bool.not_false, if_true, List.elem_eq_mem, decide_eq_true_eq, List.mem_singleton,
        beq_iff_eq]
      exact eq_comm
  | false =>
      simp only [literalSet, Flags.initial, CharSet.contains, Template.sameChar, Bool.not_true,
        Bool.not_false, if_true, Bool.false_eq_true, if_false, List.elem_eq_mem,
        decide_eq_true_eq, beq_iff_eq, Unicode.mem_orbit_iff]
      exact eq_comm

theorem contains_excludedSet (caseSensitive : Bool) {excluded : Option Char}
    (hexcluded : ∀ c ∈ excluded, Template.isSeparator c = true) (d : Char) :
    (caseAndSign (.initial (!caseSensitive)) (Template.excludedSet excluded) true).contains d =
      (d != '/' && excluded != some d) := by
  have hslash : Unicode.orbit '/' = ['/'] := Template.orbit_of_isSeparator (by decide)
  rw [Bool.eq_iff_iff]
  cases excluded with
  | none =>
      cases caseSensitive <;>
        simp [caseAndSign, Flags.initial, Template.excludedSet, CharSet.foldCase,
          CharSet.contains, hslash]
  | some c =>
      have hc := Template.orbit_of_isSeparator (hexcluded c rfl)
      cases caseSensitive <;>
        simp [caseAndSign, Flags.initial, Template.excludedSet, CharSet.foldCase,
          CharSet.contains, CharSet.unions, CharSet.empty, hslash, hc, eq_comm (a := c)]

/-! ### Captures -/

/-- There is no capture of a name. -/
def Captures.Lacks (caps : Captures) (name : Text) : Prop :=
  ∀ c ∈ caps, c.name ≠ name

/-- A group that has not been passed before is recorded with both of its ends. -/
theorem Way.named_record {name : Text} {start : Nat} {w : Way} (hw : w.record = id)
    {caps : Captures} (hcaps : caps.Lacks name) :
    (w.named name start).record caps = ⟨name, some start, w.stop.offset⟩ :: caps := by
  have hany : ¬ caps.any (·.name == name) = true := by
    simpa [Captures.Lacks] using hcaps
  have hmap : Captures.startAt name start caps = caps := by
    refine (List.map_congr_left fun c hc => ?_).trans (List.map_id caps)
    simp [hcaps c hc]
  simp only [named, hw, id, Captures.stopAt, if_neg hany]
  rw [Captures.startAt, List.map_cons, ← Captures.startAt, hmap]
  simp

end UriRouting.Regex

namespace UriRouting.Template

open Regex (Place Way Captures Part Flags seqWays rowOfParts)
open Regex.Way (stay)
open Unicode (CharSet)

/-- The captures that give the values to the variables, and no others. -/
inductive Entries (subject : Text) : List Variable → List (Option Text) → Captures → Prop where
  | nil : Entries subject [] [] []
  | kept {v : Variable} {vs : List Variable} {value : Text} {values : List (Option Text)}
      {caps : Captures} {start stop : Nat} (hvalue : subject.slice start stop = value)
      (h : Entries subject vs values caps) :
      Entries subject (v :: vs) (some value :: values) (⟨v.name, some start, stop⟩ :: caps)
  | leftOut {v : Variable} {vs : List Variable} {values : List (Option Text)} {caps : Captures}
      (h : Entries subject vs values caps) :
      Entries subject (v :: vs) (none :: values) caps

namespace Entries

variable {subject : Text} {vs vs' : List Variable} {values values' : List (Option Text)}
  {caps caps' : Captures}

theorem append (h : Entries subject vs values caps) (h' : Entries subject vs' values' caps') :
    Entries subject (vs ++ vs') (values ++ values') (caps ++ caps') := by
  induction h with
  | nil => exact h'
  | kept hvalue _ ih => exact .kept hvalue ih
  | leftOut _ ih => exact .leftOut ih

theorem replicate (vs : List Variable) :
    Entries subject vs (List.replicate vs.length none) [] := by
  induction vs with
  | nil => exact .nil
  | cons v vs ih => exact .leftOut ih

/-- The captures have the names of the variables. -/
theorem lacks (h : Entries subject vs values caps) {name : Text}
    (hname : ∀ v ∈ vs, v.name ≠ name) : caps.Lacks name := by
  induction h with
  | nil => simp [Captures.Lacks]
  | kept _ _ ih =>
      obtain ⟨hv, hvs⟩ := List.forall_mem_cons.mp hname
      exact List.forall_mem_cons.mpr ⟨hv, ih hvs⟩
  | leftOut _ ih => exact ih (List.forall_mem_cons.mp hname).2

theorem text?_eq_none {name : Text} (h : caps.Lacks name) (subject : Text) :
    caps.text? name subject = none := by
  have hfind : caps.find? (·.name == name) = none := by
    simpa [Captures.Lacks] using h
  rw [Captures.text?, hfind, Option.bind_none]

/-- Each variable is looked up under its name. -/
theorem map_text? (h : Entries subject vs values caps) (hvs : (vs.map (·.name)).Nodup) :
    vs.map (fun v => caps.text? v.name subject) = values := by
  induction h with
  | nil => rfl
  | @kept v vs value values caps start stop hvalue h ih =>
      rw [List.map_cons, List.nodup_cons] at hvs
      rw [List.map_cons]
      congr 1
      · simp [Captures.text?, hvalue]
      · refine (List.map_congr_left fun v' hv' => ?_).trans (ih hvs.2)
        have hne : v.name ≠ v'.name := fun heq =>
          hvs.1 (heq ▸ List.mem_map_of_mem hv')
        simp [Captures.text?, hne]
  | @leftOut v vs values caps h ih =>
      rw [List.map_cons, List.nodup_cons] at hvs
      have hlacks : caps.Lacks v.name := by
        refine h.lacks fun v' hv' heq => hvs.1 ?_
        rw [← heq]
        exact List.mem_map_of_mem hv'
      rw [List.map_cons, text?_eq_none hlacks, ih hvs.2]

end Entries

/-! ### Ways and readings -/

/-- A way ends where a reading ends, and it records the values of the reading. -/
structure Tracks (subject : Text) (vs : List Variable) (w : Way) (r : Reading) : Prop where
  /-- The way ends in the subject. -/
  place : w.stop.In subject
  /-- Both leave the same text. -/
  rest : w.stop.rest = r.rest
  /-- What is recorded for variables that have not been passed before. -/
  entries : ∃ caps, Entries subject vs r.values caps ∧
    ∀ caps', (∀ v ∈ vs, caps'.Lacks v.name) → w.record caps' = caps ++ caps'

/-- The ways from a place of the subject are followed one by one by the readings of the
text after it. -/
def Follows (subject : Text) (vs : List Variable) (ways : Place → List Way)
    (readings : Text → List Reading) : Prop :=
  ∀ p, p.In subject → List.Forall₂ (Tracks subject vs) (ways p) (readings p.rest)

variable {subject : Text} {vs vs' : List Variable}

/-- To stay is to read nothing and to leave all variables out. -/
theorem tracks_stay {p : Place} (hp : p.In subject) (vs : List Variable) :
    Tracks subject vs (stay p) ⟨List.replicate vs.length none, p.rest⟩ where
  place := hp
  rest := rfl
  entries := ⟨[], .replicate vs, fun _ _ => rfl⟩

theorem Tracks.andThen {w w' : Way} {r r' : Reading} (h : Tracks subject vs w r)
    (h' : Tracks subject vs' w' r') (hnames : ((vs ++ vs').map (·.name)).Nodup) :
    Tracks subject (vs ++ vs') ⟨w'.stop, w.record ∘ w'.record⟩
      ⟨r.values ++ r'.values, r'.rest⟩ where
  place := h'.place
  rest := h'.rest
  entries := by
    obtain ⟨caps, hentries, hrecord⟩ := h.entries
    obtain ⟨caps', hentries', hrecord'⟩ := h'.entries
    refine ⟨caps ++ caps', hentries.append hentries', fun more hmore => ?_⟩
    obtain ⟨hmore, hmore'⟩ := List.forall_mem_append.mp hmore
    -- what the second way records does not hide what the first one will
    have hfresh : ∀ v ∈ vs, Captures.Lacks (caps' ++ more) v.name := by
      intro v hv
      refine List.forall_mem_append.mpr ⟨hentries'.lacks fun v' hv' heq => ?_, hmore v hv⟩
      rw [List.map_append, List.nodup_append] at hnames
      exact hnames.2.2 _ (List.mem_map_of_mem hv) _ (List.mem_map_of_mem hv') heq.symm
    calc w.record (w'.record more)
        = w.record (caps' ++ more) := by rw [hrecord' more hmore']
      _ = caps ++ caps' ++ more := by rw [hrecord _ hfresh, List.append_assoc]

/-- **Ways in a row are followed by readings in a row.** -/
theorem follows_chain {f f' : Place → List Way} {g g' : Text → List Reading}
    (h : Follows subject vs f g) (h' : Follows subject vs' f' g')
    (hnames : ((vs ++ vs').map (·.name)).Nodup) :
    Follows subject (vs ++ vs') (fun p => Way.chain (f p) f')
      (fun t => Reading.chain (g t) g') := by
  intro p hp
  refine List.rel_flatMap (h p hp) fun w r hwr => ?_
  rw [Way.andThen, List.forall₂_map_left_iff, List.forall₂_map_right_iff, ← hwr.rest]
  exact (h' w.stop hwr.place).imp fun _ _ hwr' => hwr.andThen hwr' hnames

/-- What may be left out is tried first. -/
theorem follows_maybe {f : Place → List Way} {g : Text → List Reading}
    (h : Follows subject vs f g) :
    Follows subject vs (fun p => f p ++ [stay p])
      (fun t => g t ++ [⟨List.replicate vs.length none, t⟩]) :=
  fun p hp => List.rel_append (h p hp) (.cons (tracks_stay hp vs) .nil)

/-! ### Parts and readings -/

/-- The ways to match parts in a row. -/
def partsWays (ps : List Part) : Place → List Way :=
  seqWays (ps.map (·.regex))

theorem ways_rowOfParts (ps : List Part) (p : Place) :
    (rowOfParts ps).regex.ways p = partsWays ps p := by
  rcases Regex.regex_rowOfParts ps with ⟨part, rfl, h⟩ | h
  · rw [h]
    exact (Way.chain_stay_right _).symm
  · rw [h]
    exact Regex.ways_concat _ p

theorem partsWays_append (ps ps' : List Part) (p : Place) :
    partsWays (ps ++ ps') p = Way.chain (partsWays ps p) (partsWays ps') := by
  rw [partsWays, List.map_append]
  exact Regex.seqWays_append _ _ p

theorem partsWays_singleton (part : Part) (p : Place) :
    partsWays [part] p = part.regex.ways p :=
  Way.chain_stay_right _

theorem follows_parts_append {ps ps' : List Part} {g g' : Text → List Reading}
    (h : Follows subject vs (partsWays ps) g) (h' : Follows subject vs' (partsWays ps') g')
    (hnames : ((vs ++ vs').map (·.name)).Nodup) :
    Follows subject (vs ++ vs') (partsWays (ps ++ ps')) (fun t => Reading.chain (g t) g') := by
  rw [funext (partsWays_append ps ps')]
  exact follows_chain h h' hnames

/-- A part that may be left out. -/
theorem follows_part_maybe {part : Part} {g : Text → List Reading}
    (h : Follows subject vs (partsWays [part]) g) :
    Follows subject vs (partsWays [part.maybe])
      (fun t => g t ++ [⟨List.replicate vs.length none, t⟩]) := by
  have hways : partsWays [part.maybe] = fun p => partsWays [part] p ++ [stay p] := by
    funext p
    rw [partsWays_singleton, partsWays_singleton, ← Regex.ways_optional]
    congr 1
    simp [Part.maybe, Regex.repeated]
  rw [hways]
  exact follows_maybe h

/-- A literal is matched as it is dropped. -/
theorem follows_literal (caseSensitive : Bool) (subject literal : Text) :
    Follows subject [] (partsWays (literal.map (.ofChar (!caseSensitive))))
      (fun t => (dropLiteral caseSensitive literal t).toList.map fun rest => ⟨[], rest⟩) := by
  induction literal with
  | nil => exact fun p hp => .cons (tracks_stay hp []) .nil
  | cons c literal ih =>
      intro p hp
      obtain ⟨offset, before, t⟩ := p
      cases t with
      | nil => exact .nil
      | cons d t =>
          have hnext : Place.In ⟨offset + 1, some d, t⟩ subject :=
            @Place.In.advance _ _ subject [d] hp rfl rfl
          have hways : partsWays ((c :: literal).map (.ofChar (!caseSensitive)))
              ⟨offset, before, d :: t⟩ = if sameChar caseSensitive c d then
                partsWays (literal.map (.ofChar (!caseSensitive))) ⟨offset + 1, some d, t⟩
              else [] := by
            rw [← Regex.contains_literalSet]
            simp only [partsWays, List.map_cons, seqWays, Part.ofChar, Regex.char, Regex.ways,
              Regex.charsWays]
            split
            · exact Way.chain_stay _ _
            · rfl
          rw [hways]
          simp only [dropLiteral]
          split
          · exact ih _ hnext
          · exact .nil

theorem follows_separator (caseSensitive : Bool) (subject : Text) {v : Variable}
    (hv : v.Proper) :
    Follows subject [] (partsWays (v.separatorParts (!caseSensitive))) v.separatorReadings := by
  have hdrop : ∀ t, dropLiteral caseSensitive v.separator.toList t =
      dropLiteral true v.separator.toList t := by
    intro t
    cases hsep : v.separator with
    | none => rfl
    | some c =>
        have hc := sameChar_of_isSeparator (hv.separator c hsep)
        cases t with
        | nil => rfl
        | cons d t => simp only [Option.toList_some, dropLiteral, hc]
  have h := follows_literal caseSensitive subject v.separator.toList
  simp only [hdrop] at h
  exact h

/-- A way that takes a text and records nothing. -/
structure Takes (p : Place) (w : Way) (cut : Text × Text) : Prop where
  /-- It takes the first part of what comes after the place. -/
  taken : p.rest = cut.1 ++ cut.2
  /-- It leaves the second one. -/
  rest : w.stop.rest = cut.2
  /-- It moves on by what it takes. -/
  offset : w.stop.offset = p.offset + cut.1.length
  /-- It records nothing. -/
  record : w.record = id

theorem takes_stay (p : Place) : Takes p (stay p) ([], p.rest) :=
  ⟨rfl, rfl, rfl, rfl⟩

/-- A way that takes a character more. -/
theorem Takes.cons {p q : Place} {c : Char} {w : Way} {cut : Text × Text}
    (hrest : p.rest = c :: q.rest) (hoffset : q.offset = p.offset + 1) (h : Takes q w cut) :
    Takes p w (c :: cut.1, cut.2) where
  taken := by rw [hrest, h.taken, List.cons_append]
  rest := h.rest
  offset := by
    rw [h.offset, hoffset, List.length_cons]
    omega
  record := h.record

/-- A loop over a set takes the starts of the text, the longest first. -/
theorem takes_loop {set : CharSet} {allowed : Char → Bool}
    (hset : ∀ c, set.contains c = allowed c) (p : Place) :
    List.Forall₂ (Takes p) (Regex.loopWays (Regex.charsWays [set]) true p)
      (initials allowed p.rest) := by
  obtain ⟨offset, before, t⟩ := p
  induction t generalizing offset before with
  | nil =>
      rw [Regex.loopWays]
      exact .cons (takes_stay _) .nil
  | cons c t ih =>
      rw [Regex.loopWays, initials, ← hset c]
      simp only [Regex.charsWays, Regex.preferWays, if_true]
      refine List.rel_append ?_ (.cons (takes_stay _) .nil)
      split
      · have hless : t.length < (c :: t).length := Nat.lt_succ_self _
        rw [Way.chain_stay, if_pos hless, List.forall₂_map_right_iff]
        exact (ih (offset + 1) (some c)).imp fun _ _ h => h.cons rfl rfl
      · exact .nil

/-- A loop that has to take something takes the starts that are not empty. -/
theorem takes_loop_one {set : CharSet} {allowed : Char → Bool}
    (hset : ∀ c, set.contains c = allowed c) (p : Place) :
    List.Forall₂ (Takes p) ((Regex.rep (Regex.char set) 1 none true).ways p)
      ((initials allowed p.rest).filter fun cut => !cut.1.isEmpty) := by
  obtain ⟨offset, before, t⟩ := p
  have hways : (Regex.rep (Regex.char set) 1 none true).ways ⟨offset, before, t⟩ =
      Way.chain (Regex.charsWays [set] ⟨offset, before, t⟩)
        (Regex.loopWays (Regex.charsWays [set]) true) := rfl
  rw [hways]
  cases t with
  | nil => exact .nil
  | cons c t =>
      rw [initials, ← hset c, List.filter_append]
      simp only [Regex.charsWays]
      split
      · rw [Way.chain_stay]
        have hfilter : ((initials allowed t).map fun cut => (c :: cut.1, cut.2)).filter
            (fun cut => !cut.1.isEmpty) =
              (initials allowed t).map fun cut => (c :: cut.1, cut.2) := by
          rw [List.filter_eq_self]
          intro cut hcut
          obtain ⟨_, -, rfl⟩ := List.mem_map.mp hcut
          rfl
        simp only [hfilter, List.filter_singleton, List.isEmpty_nil, Bool.not_true, cond_false,
          List.append_nil, List.forall₂_map_right_iff]
        exact (takes_loop hset ⟨offset + 1, some c, t⟩).imp fun _ _ h => h.cons rfl rfl
      · exact .nil

theorem takes_value (caseSensitive : Bool) {v : Variable} (hv : v.Proper) (p : Place) :
    List.Forall₂ (Takes p) ((v.value.part (!caseSensitive)).regex.ways p)
      (v.value.cuts p.rest) := by
  cases hvalue : v.value with
  | anything => exact takes_loop CharSet.contains_all p
  | segment excluded =>
      refine takes_loop_one (Regex.contains_excludedSet caseSensitive ?_) p
      intro c hc
      rw [Option.mem_def] at hc
      subst hc
      exact (hv.excluded c hvalue).1

/-- The group of a variable records its value. -/
theorem follows_group (caseSensitive : Bool) (subject : Text) {v : Variable} (hv : v.Proper) :
    Follows subject [v] (partsWays [v.groupPart (!caseSensitive)]) v.valueReadings := by
  intro p hp
  have hways : partsWays [v.groupPart (!caseSensitive)] p =
      ((v.value.part (!caseSensitive)).regex.ways p).map (Way.named v.name p.offset) := by
    rw [partsWays_singleton]
    rfl
  rw [hways, Variable.valueReadings, List.forall₂_map_left_iff, List.forall₂_map_right_iff]
  refine (takes_value caseSensitive hv p).imp fun w cut h => ?_
  have htaken : p.rest = cut.1 ++ w.stop.rest := by rw [h.taken, h.rest]
  refine ⟨hp.advance htaken h.offset, h.rest, [⟨v.name, some p.offset, w.stop.offset⟩],
    .kept (hp.slice htaken h.offset) .nil, fun caps hcaps => ?_⟩
  exact Way.named_record h.record (hcaps v (List.mem_singleton_self v))

/-! ### Templates -/

theorem WellNamed.nodup_append {ts ts' : List Token} (h : WellNamed (ts ++ ts')) :
    ((variablesOf ts ++ variablesOf ts').map (·.name)).Nodup := by
  rw [← variablesOf_append]
  exact h.nodup

theorem follows_token (caseSensitive : Bool) (subject : Text) {token : Token}
    (htoken : WellNamed [token]) :
    Follows subject (variablesOf [token]) (partsWays (token.parts (!caseSensitive)))
      (token.readings caseSensitive) := by
  cases token with
  | literal text => exact follows_literal caseSensitive subject text
  | var v =>
      have hv := htoken.proper v (List.mem_singleton_self v)
      exact follows_parts_append (follows_separator caseSensitive subject hv)
        (follows_group caseSensitive subject hv) (by simp)

theorem follows_tokens (caseSensitive : Bool) (subject : Text) {ts : List Token}
    (hts : WellNamed ts) :
    Follows subject (variablesOf ts) (partsWays (ts.flatMap (Token.parts (!caseSensitive))))
      (tokensReadings caseSensitive ts) := by
  induction ts with
  | nil => exact fun p hp => .cons (tracks_stay hp []) .nil
  | cons token ts ih =>
      obtain ⟨htoken, hts'⟩ := hts.of_cons
      rw [← List.singleton_append] at hts ⊢
      rw [variablesOf_append]
      exact follows_parts_append (follows_token caseSensitive subject htoken) (ih hts')
        hts.nodup_append

theorem follows_optional (caseSensitive : Bool) (subject : Text) {ts : List Token}
    (hts : WellNamed ts) :
    Follows subject (variablesOf ts) (partsWays (optionalParts (!caseSensitive) ts))
      (optionalReadings caseSensitive ts) := by
  induction ts with
  | nil => exact fun p hp => .cons (tracks_stay hp []) .nil
  | cons token ts ih =>
      obtain ⟨htoken, hts'⟩ := hts.of_cons
      rw [← List.singleton_append] at hts
      have h := follows_parts_append (follows_token caseSensitive subject htoken) (ih hts')
        hts.nodup_append
      rw [← variablesOf_append, List.singleton_append] at h
      refine follows_part_maybe ?_
      -- the group around the parts has no name, so it matches as they do
      have hways : partsWays [(rowOfParts (token.parts (!caseSensitive) ++
          optionalParts (!caseSensitive) ts)).enclosed none] =
            partsWays (token.parts (!caseSensitive) ++ optionalParts (!caseSensitive) ts) :=
        funext fun p => (partsWays_singleton _ p).trans (ways_rowOfParts _ p)
      rw [hways]
      exact h

/-- **The ways to match a template are its readings**, in the same order. -/
theorem follows_template (caseSensitive : Bool) (subject : Text) {ts : List Token}
    (hts : WellNamed ts) :
    Follows subject (variablesOf ts) (partsWays (templateParts (!caseSensitive) ts))
      (templateReadings caseSensitive ts) := by
  unfold templateParts templateReadings
  cases hlead : leadingOptional? ts with
  | some p =>
      obtain ⟨v, rest⟩ := p
      obtain ⟨rfl, -⟩ := leadingOptional?_eq_some.mp hlead
      obtain ⟨hvar, hrest⟩ := hts.of_cons
      have hv := hvar.proper v (List.mem_singleton_self v)
      simp only [List.append_assoc]
      exact follows_parts_append (follows_separator caseSensitive subject hv)
        (follows_parts_append (follows_part_maybe (follows_group caseSensitive subject hv))
          (follows_optional caseSensitive subject hrest) hts.nodup) hts.nodup
  | none =>
      have hsplit := List.take_append_drop (firstOptional ts) ts
      rw [← hsplit] at hts
      obtain ⟨hfirst, hlast⟩ := hts.of_append
      have h := follows_parts_append (follows_tokens caseSensitive subject hfirst)
        (follows_optional caseSensitive subject hlast) hts.nodup_append
      rwa [← variablesOf_append, hsplit] at h

/-! ### Searching -/

/-- Only the first place of a text has nothing before it. -/
theorem isSome_before_of_mem_placesFrom {offset : Nat} {c : Char} {t : Text} {p : Place}
    (h : p ∈ Regex.placesFrom offset (some c) t) : p.before.isSome = true := by
  induction t generalizing offset c with
  | nil =>
      rw [Regex.placesFrom, List.mem_singleton] at h
      rw [h]
      rfl
  | cons d t ih =>
      rw [Regex.placesFrom, List.mem_cons] at h
      rcases h with rfl | h
      · rfl
      · exact ih h

/-- The ways to match anchored parts start at the first place. -/
theorem partsWays_anchoredParts (ps : List Part) (p : Place) :
    partsWays (Regex.anchoredParts ps) p =
      if p.before.isNone then
        Way.chain (partsWays ps p) (Regex.ways (.assert .textEnd))
      else [] := by
  have hstart : Regex.ways (.assert .textStart) p = if p.before.isNone then [stay p] else [] :=
    rfl
  rw [Regex.anchoredParts, partsWays_append, partsWays_append, Way.chain_assoc,
    partsWays_singleton, hstart]
  split
  · rw [Way.chain_stay]
    congr 1
    funext q
    exact partsWays_singleton _ q
  · rfl

/-- Of ways that are to end with the text, the first one that does leads on. -/
theorem first_chain_textEnd (ws : List Way) :
    Way.first (Way.chain ws (Regex.ways (.assert .textEnd))) (fun _ => some []) =
      (ws.find? fun w => w.stop.rest.isEmpty).map fun w => w.record [] := by
  rw [Way.first_chain]
  induction ws with
  | nil => rfl
  | cons w ws ih =>
      simp only [Way.first, List.findSome?_cons, List.find?_cons] at ih ⊢
      cases hrest : w.stop.rest with
      | nil => simp [Regex.ways, Assertion.holds, hrest, Way.stay]
      | cons c t => simpa [Regex.ways, Assertion.holds, hrest] using ih

/-- A search for anchored parts takes the first way that goes through the whole text. -/
theorem search_anchoredParts (ps : List Part) (subject : Text) :
    (rowOfParts (Regex.anchoredParts ps)).regex.search subject =
      ((partsWays ps ⟨0, none, subject⟩).find? fun w => w.stop.rest.isEmpty).map
        fun w => w.record [] := by
  simp only [Regex.search_eq, ways_rowOfParts, partsWays_anchoredParts]
  cases subject with
  | nil =>
      simp only [Regex.placesFrom, List.findSome?_singleton, Option.isNone_none, if_true]
      exact first_chain_textEnd _
  | cons c t =>
      rw [Regex.placesFrom, List.findSome?_cons]
      simp only [Option.isNone_none, if_true, first_chain_textEnd]
      -- the start of the text is behind every later place
      have hlater : ((Regex.placesFrom 1 (some c) t).findSome? fun p => Way.first
          (if p.before.isNone then
            Way.chain (partsWays ps p) (Regex.ways (.assert .textEnd)) else [])
          fun _ => some []) = none := by
        rw [List.findSome?_eq_none_iff]
        intro p hp
        rw [if_neg]
        · rfl
        · rw [← Option.not_isSome, isSome_before_of_mem_placesFrom hp]
          decide
      rw [Nat.zero_add, hlater]
      split
      · rename_i h
        exact h.symm
      · rename_i h
        exact h.symm

/-- The first way through the whole text records the values of the first such reading. -/
theorem find?_eq_of_tracks {ws : List Way} {rs : List Reading}
    (h : List.Forall₂ (Tracks subject vs) ws rs) (hnames : (vs.map (·.name)).Nodup) :
    ((ws.find? fun w => w.stop.rest.isEmpty).map fun w =>
        vs.map fun v => (w.record []).text? v.name subject) =
      (rs.find? (·.rest.isEmpty)).map (·.values) := by
  induction h with
  | nil => rfl
  | @cons w r ws rs hwr _ ih =>
      rw [List.find?_cons, List.find?_cons, hwr.rest]
      cases r.rest.isEmpty with
      | false => exact ih
      | true =>
          obtain ⟨caps, hentries, hrecord⟩ := hwr.entries
          have hcaps := hrecord [] (by simp [Captures.Lacks])
          rw [List.append_nil] at hcaps
          rw [Option.map_some, Option.map_some, hcaps, hentries.map_text? hnames]

/-- **A search finds the greatest split.** The values of the variables in a match are the
first ones in the list of splits, and there is a match if the list has any. -/
theorem search_templatePart (caseSensitive : Bool) {ts : List Token}
    (hts : WellNamed ts) (subject : Text) :
    ((templatePart (!caseSensitive) ts).regex.search subject).map
        (fun caps => (variablesOf ts).map fun v => caps.text? v.name subject) =
      (splits caseSensitive ts subject).head? := by
  have hfollows := follows_template caseSensitive subject hts ⟨0, none, subject⟩
    ⟨[], rfl, rfl⟩
  rw [templatePart, search_anchoredParts, splits, List.head?_map, List.head?_filter,
    Option.map_map]
  exact find?_eq_of_tracks hfollows hts.nodup

end UriRouting.Template
