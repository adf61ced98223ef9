import UriRouting.Proofs.Regex.Blind
import UriRouting.Proofs.Template.Captures
import UriRouting.Proofs.Uri.Charwise

/-!
# UriRouting.Proofs.Template.Caseless

A template that does not regard case does not see the case of the letters of ASCII either, in
none of the three comparisons that it makes:

* its expression is blind to it (`blind_templatePart`);
* so is the comparison with a template without variables (`eqFolded_lower`);
* so is the comparison with the literal text at the start (`startsWithFolded_lower`).

Therefore the captures that it finds in a subject in small letters are those in the subject
itself (`found_lower`).
-/

namespace UriRouting

/-! ### Comparisons -/

theorem Uri.sameFolded_toLower (c d : Char) :
    Uri.sameFolded false c d.toLower = Uri.sameFolded false c d := by
  simp only [Uri.sameFolded, Bool.false_eq_true, if_false, Uri.sameLowercase_eq,
    Unicode.toLowercase_toLower]

theorem Uri.eqFolded_lower (s t : Text) :
    Uri.eqFolded s t.lower false = Uri.eqFolded s t false := by
  rw [Bool.eq_iff_iff, Uri.eqFolded_iff, Uri.eqFolded_iff, Text.lower, List.forall₂_map_right_iff]
  simp only [Uri.sameFolded_toLower]

theorem Uri.startsWithFolded_lower (s start : Text) :
    Uri.startsWithFolded s.lower start false = Uri.startsWithFolded s start false := by
  rw [Bool.eq_iff_iff, Uri.startsWithFolded_iff, Uri.startsWithFolded_iff, Text.lower,
    ← List.map_take, List.forall₂_map_left_iff]
  simp only [Uri.sameFolded_comm false (Char.toLower _), Uri.sameFolded_toLower]
  simp only [Uri.sameFolded_comm false]

namespace Template

open Regex (Part rowOfParts)

/-! ### Expressions -/

theorem sameChar_toLower (c d : Char) : sameChar false c d.toLower = sameChar false c d := by
  simp only [sameChar, Bool.false_eq_true, if_false, Unicode.foldSimple_toLower]

/-- No separator is a letter. -/
theorem toLower_eq_separator_iff {c : Char} (hc : isSeparator c = true) (d : Char) :
    d.toLower = c ↔ d = c := by
  have h := sameChar_toLower c d
  rw [sameChar_of_isSeparator hc, sameChar_of_isSeparator hc, Bool.eq_iff_iff, beq_iff_eq,
    beq_iff_eq] at h
  rw [eq_comm, h, eq_comm]

theorem blind_ofChar (c : Char) : (Part.ofChar true c).regex.Blind Char.toLower := by
  intro set hset d
  rw [List.mem_singleton.mp hset]
  exact (Regex.contains_literalSet false c d.toLower).trans
    ((sameChar_toLower c d).trans (Regex.contains_literalSet false c d).symm)

theorem blind_value {v : Variable} (hv : v.Proper) :
    (v.value.part true).regex.Blind Char.toLower := by
  cases hvalue : v.value with
  | anything =>
      intro set hset d
      rw [List.mem_singleton.mp hset]
      rfl
  | segment excluded =>
      intro set hset d
      have hseparator : ∀ c ∈ excluded, isSeparator c = true :=
        fun c hc => (hv.excluded c (by rw [hvalue, hc])).1
      have hslash : d.toLower = '/' ↔ d = '/' := toLower_eq_separator_iff (by decide) d
      have hnext : excluded = some d.toLower ↔ excluded = some d := by
        cases excluded with
        | none => simp
        | some c =>
            simp only [Option.some.injEq, eq_comm (a := c)]
            exact toLower_eq_separator_iff (hseparator c rfl) d
      rw [List.mem_singleton.mp hset]
      refine (Regex.contains_excludedSet false hseparator d.toLower).trans
        (Eq.trans ?_ (Regex.contains_excludedSet false hseparator d).symm)
      rw [Bool.eq_iff_iff]
      simp [hslash, hnext]

theorem blind_rowOfParts {f : Char → Char} {ps : List Part} (h : ∀ p ∈ ps, p.regex.Blind f) :
    (rowOfParts ps).regex.Blind f := by
  rcases Regex.regex_rowOfParts ps with ⟨part, rfl, hregex⟩ | hregex
  · rw [hregex]
    exact h part (List.mem_singleton_self part)
  · rw [hregex]
    refine Regex.blind_concat fun r hr => ?_
    obtain ⟨part, hpart, rfl⟩ := List.mem_map.mp hr
    exact h part hpart

theorem blind_maybe {f : Char → Char} {p : Part} (h : p.regex.Blind f) :
    p.maybe.regex.Blind f :=
  Regex.blind_repeated h 0 (some 1) true

theorem blind_group {v : Variable} (hv : v.Proper) :
    (v.groupPart true).regex.Blind Char.toLower :=
  blind_rowOfParts (List.forall_mem_singleton.mpr (blind_value hv))

theorem blind_separator (v : Variable) :
    ∀ p ∈ v.separatorParts true, p.regex.Blind Char.toLower := by
  intro p hp
  obtain ⟨c, -, rfl⟩ := List.mem_map.mp hp
  exact blind_ofChar c

theorem blind_token {t : Token} (ht : WellNamed [t]) :
    ∀ p ∈ t.parts true, p.regex.Blind Char.toLower := by
  cases t with
  | literal text =>
      intro p hp
      obtain ⟨c, -, rfl⟩ := List.mem_map.mp hp
      exact blind_ofChar c
  | var v =>
      have hv : v.Proper := ht.proper v (List.mem_singleton_self v)
      exact List.forall_mem_append.mpr
        ⟨blind_separator v, List.forall_mem_singleton.mpr (blind_group hv)⟩

theorem blind_tokens {ts : List Token} (hts : WellNamed ts) :
    ∀ p ∈ ts.flatMap (Token.parts true), p.regex.Blind Char.toLower := by
  induction ts with
  | nil => exact fun p hp => by cases hp
  | cons t ts ih =>
      rw [List.flatMap_cons]
      exact List.forall_mem_append.mpr ⟨blind_token hts.of_cons.1, ih hts.of_cons.2⟩

theorem blind_optional {ts : List Token} (hts : WellNamed ts) :
    ∀ p ∈ optionalParts true ts, p.regex.Blind Char.toLower := by
  induction ts with
  | nil => exact fun p hp => by cases hp
  | cons t ts ih =>
      refine List.forall_mem_singleton.mpr (blind_maybe (blind_rowOfParts ?_))
      exact List.forall_mem_append.mpr ⟨blind_token hts.of_cons.1, ih hts.of_cons.2⟩

/-- **The expression of a template does not see the case of the letters of ASCII**, unless the
template regards case. -/
theorem blind_templatePart {ts : List Token} (hts : WellNamed ts) :
    (templatePart true ts).regex.Blind Char.toLower := by
  have hbody : ∀ p ∈ templateParts true ts, p.regex.Blind Char.toLower := by
    rw [templateParts]
    split
    · rename_i v rest hleading
      obtain ⟨rfl, -⟩ := leadingOptional?_eq_some.mp hleading
      have hv : v.Proper := hts.proper v (List.mem_cons_self ..)
      simp only [List.forall_mem_append, List.forall_mem_singleton]
      exact ⟨⟨blind_separator v, blind_maybe (blind_group hv)⟩, blind_optional hts.of_cons.2⟩
    · rw [← List.take_append_drop (firstOptional ts) ts] at hts
      exact List.forall_mem_append.mpr
        ⟨blind_tokens hts.of_append.1, blind_optional hts.of_append.2⟩
  refine blind_rowOfParts fun p hp => ?_
  simp only [Regex.anchoredParts, List.mem_append, List.mem_singleton] at hp
  rcases hp with (rfl | hp) | rfl
  · exact fun before after => by cases before <;> rfl
  · exact hbody p hp
  · exact fun before after => by cases after <;> rfl

/-! ### Captures -/

theorem slice_lower (t : Text) (start stop : Nat) :
    Text.slice t.lower start stop = Text.lower (t.slice start stop) := by
  simp only [Text.slice, Text.lower, List.map_drop, List.map_take]

theorem text?_lower (caps : Regex.Captures) (name subject : Text) :
    caps.text? name subject.lower = (caps.text? name subject).map Text.lower := by
  simp only [Regex.Captures.text?, slice_lower]
  cases caps.find? (·.name == name) with
  | none => rfl
  | some c => cases hstart : c.start <;> simp [hstart]

/-- A value in small letters. -/
def lowerValue (entry : Variable × Option Text) : Variable × Option Text :=
  (entry.1, entry.2.map Text.lower)

theorem readCaptures_lower (c : Compiled) (subject : Text) (caps : Regex.Captures) :
    c.readCaptures subject.lower caps = (c.readCaptures subject caps).map lowerValue := by
  simp only [Compiled.readCaptures, List.map_map]
  refine List.map_congr_left fun v _ => ?_
  simp only [Function.comp, lowerValue, text?_lower]
  cases caps.text? v.name subject with
  | none => rfl
  | some text => cases text <;> rfl

/-- The captures that a template finds in a subject, before values are read from them. -/
def Compiled.found (c : Compiled) (subject : Text) : Option Regex.Captures :=
  match c.matcher with
  | none => if Uri.eqFolded c.pattern subject c.caseSensitive then some [] else none
  | some m => if c.admitsLead subject then m.regex.search subject else none

theorem captures_eq_found {c : Compiled} (hplain : c.matcher = none → variablesOf c.tokens = [])
    (subject : Text) : c.captures subject = (c.found subject).map (c.readCaptures subject) := by
  unfold Compiled.captures Compiled.found
  cases hmatcher : c.matcher with
  | none =>
      have hread : c.readCaptures subject [] = [] := by
        rw [readCaptures_eq_report, report, hplain hmatcher]
        rfl
      dsimp only
      split
      · rw [Option.map_some, hread]
      · rfl
  | some m =>
      dsimp only
      split <;> rfl

/-- **A template finds the same captures in a subject in small letters**, unless it regards
case. -/
theorem found_lower {c : Compiled} {pattern : Text} {ts : List Token} (hts : WellNamed ts)
    (hc : c = .plain pattern ts false ∨ c = .ofTokens pattern ts false) (subject : Text) :
    c.found subject.lower = c.found subject := by
  rcases hc with rfl | rfl
  · exact if_congr (by rw [Compiled.plain, Uri.eqFolded_lower]) rfl rfl
  · have hlead : (Compiled.ofTokens pattern ts false).admitsLead subject.lower =
        (Compiled.ofTokens pattern ts false).admitsLead subject := by
      simp only [Compiled.admitsLead, Compiled.ofTokens, Uri.startsWithFolded_lower]
    have hsearch := Regex.search_map (blind_templatePart hts) subject
    simp only [Compiled.found, hlead]
    exact if_congr Iff.rfl hsearch rfl

end Template

end UriRouting
