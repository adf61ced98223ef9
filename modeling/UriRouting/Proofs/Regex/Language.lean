import Mathlib.Computability.Language
import UriRouting.Proofs.Regex.Levels

/-!
# UriRouting.Proofs.Regex.Language

Expressions without assertions as languages (`Regex.language`). What such an expression matches
does not depend on what is before and after it.

* `matches_iff_mem_language` — the pieces that it matches are the texts of its language;
* `language_concat` — expressions in a row, joined or not, have the product of their languages;
* `isMatch_anchored_iff_mem` — between the two anchors of the text, the text has to be in that
  product.

Repetitions without an upper bound are powers followed by an iteration (`language_rep`). The rest
of the module says what iterations of a few simple languages contain.
-/

namespace UriRouting.Regex

open Unicode (CharSet)
open scoped Computability

/-- Whether the expression has no assertions. -/
def unconditional : Regex → Bool
  | chars _ => true
  | assert _ => false
  | seq r r' | alt r r' => r.unconditional && r'.unconditional
  | rep r _ _ _ | group _ r => r.unconditional

/-- The characters of a set as texts. -/
def letters (set : CharSet) : Language Char :=
  {t | ∃ c, t = [c] ∧ set.contains c = true}

/-- The texts that the expression matches, if all assertions hold. -/
def language : Regex → Language Char
  | chars sets => (sets.map letters).prod
  | assert _ => 1
  | seq r r' => r.language * r'.language
  | alt r r' => r.language + r'.language
  | rep r least most _ =>
    {t | ∃ n, least ≤ n ∧ (∀ m ∈ most, n ≤ max least m) ∧ t ∈ r.language ^ n}
  | group _ r => r.language

variable {set : CharSet} {s t u : Text}

theorem mem_letters : t ∈ letters set ↔ ∃ c, t = [c] ∧ set.contains c = true :=
  Iff.rfl

theorem mem_letters_singleton {c : Char} : t ∈ letters (.oneOf [c]) ↔ t = [c] := by
  simp [mem_letters, CharSet.contains]

theorem mem_prod_letters {sets : List CharSet} :
    t ∈ (sets.map letters).prod ↔
      List.Forall₂ (fun set c => set.contains c = true) sets t := by
  induction sets generalizing t with
  | nil => rw [List.forall₂_nil_left_iff]; exact Language.mem_one t
  | cons set sets ih =>
      rw [List.map_cons, List.prod_cons, Language.mem_mul, List.forall₂_cons_left_iff]
      constructor
      · rintro ⟨_, ⟨c, rfl, hc⟩, t, ht, rfl⟩
        exact ⟨c, t, hc, ih.mp ht, rfl⟩
      · rintro ⟨c, t, hc, ht, rfl⟩
        exact ⟨[c], ⟨c, rfl, hc⟩, t, ih.mpr ht, rfl⟩

/-- What rounds of a step match that takes the texts of a language wherever it is. -/
theorem rounds_iff_mem_pow {step : Text → Text → Text → Prop} {l : Language Char}
    (hstep : ∀ s t u, step s t u ↔ t ∈ l) (n : Nat) : Rounds step n s t u ↔ t ∈ l ^ n := by
  induction n generalizing s t with
  | zero => rw [pow_zero]; exact (Language.mem_one t).symm
  | succ n ih =>
      rw [pow_succ', Language.mem_mul]
      constructor
      · rintro ⟨t₁, t₂, rfl, h, hrounds⟩
        exact ⟨t₁, (hstep ..).mp h, t₂, ih.mp hrounds, rfl⟩
      · rintro ⟨t₁, h, t₂, hpow, rfl⟩
        exact ⟨t₁, t₂, rfl, (hstep ..).mpr h, ih.mpr hpow⟩

/-- **An expression without assertions matches the texts of its language**, wherever they
stand. -/
theorem matches_iff_mem_language {r : Regex} (hr : r.unconditional = true) (s t u : Text) :
    r.Matches s t u ↔ t ∈ r.language := by
  induction r generalizing s t u with
  | chars sets => exact mem_prod_letters.symm
  | assert condition => cases hr
  | seq r r' ih ih' =>
      rw [unconditional, Bool.and_eq_true] at hr
      rw [language, Language.mem_mul]
      constructor
      · rintro ⟨t₁, t₂, rfl, h, h'⟩
        exact ⟨t₁, (ih hr.1 ..).mp h, t₂, (ih' hr.2 ..).mp h', rfl⟩
      · rintro ⟨t₁, h, t₂, h', rfl⟩
        exact ⟨t₁, t₂, rfl, (ih hr.1 ..).mpr h, (ih' hr.2 ..).mpr h'⟩
  | alt r r' ih ih' =>
      rw [unconditional, Bool.and_eq_true] at hr
      exact or_congr (ih hr.1 ..) (ih' hr.2 ..)
  | rep r least most greedy ih =>
      have hrounds (n : Nat) : Rounds r.Matches n s t u ↔ t ∈ r.language ^ n :=
        rounds_iff_mem_pow (ih hr) n
      simp only [Matches, hrounds]
      exact Iff.rfl
  | group name r ih => exact ih hr s t u

/-! ### Expressions in a row -/

theorem language_append (r r' : Regex) : (r.append r').language = r.language * r'.language := by
  unfold append
  split
  · exact (one_mul _).symm
  · simp [language]
  · simp [language, mul_assoc]
  · exact (mul_one _).symm
  · rfl

theorem language_concat (rs : List Regex) :
    (concat rs).language = (rs.map language).prod := by
  induction rs with
  | nil => rfl
  | cons r rs ih => rw [List.map_cons, List.prod_cons, ← ih]; exact language_append r _

theorem unconditional_append (r r' : Regex) :
    (r.append r').unconditional = (r.unconditional && r'.unconditional) := by
  unfold append
  split <;> simp [unconditional]

theorem unconditional_concat (rs : List Regex) :
    (concat rs).unconditional = rs.all unconditional := by
  induction rs with
  | nil => rfl
  | cons r rs ih => rw [List.all_cons, ← ih]; exact unconditional_append r _

/-- Between the anchors of a text, expressions in a row have to match all of it. -/
theorem isMatch_anchored_concat_iff (rs : List Regex) (v : Text) :
    (concat (assert .textStart :: (rs ++ [assert .textEnd]))).isMatch v = true ↔
      (concat rs).Matches [] v [] := by
  have hsame (s t u : Text) :
      (concat (assert .textStart :: (rs ++ [assert .textEnd]))).Matches s t u ↔
        (concat [assert .textStart, concat rs, assert .textEnd]).Matches s t u := by
    rw [matches_concat_cons, matches_concat_cons]
    simp only [matches_concat_append, matches_concat_cons (r := concat rs)]
  rw [← isMatch_anchored_iff, isMatch_iff, isMatch_iff]
  simp only [hsame]

/-- **Between the anchors of a text, expressions without assertions match the product of their
languages.** -/
theorem isMatch_anchored_iff_mem {rs : List Regex} (h : rs.all unconditional = true) (v : Text) :
    (concat (assert .textStart :: (rs ++ [assert .textEnd]))).isMatch v = true ↔
      v ∈ (rs.map language).prod := by
  rw [← unconditional_concat] at h
  rw [isMatch_anchored_concat_iff, matches_iff_mem_language h, language_concat]

/-! ### Iterations -/

theorem language_rep (r : Regex) (least : Nat) (greedy : Bool) :
    (rep r least none greedy).language = r.language ^ least * r.language∗ := by
  ext t
  rw [Language.kstar_eq_iSup_pow, Language.mul_iSup, Language.mem_iSup]
  constructor
  · rintro ⟨n, hle, -, hpow⟩
    obtain ⟨m, rfl⟩ := Nat.exists_eq_add_of_le hle
    exact ⟨m, by rwa [← pow_add]⟩
  · rintro ⟨m, hpow⟩
    exact ⟨least + m, Nat.le_add_right .., by simp, by rwa [pow_add]⟩

theorem language_char (set : CharSet) : (char set).language = letters set :=
  mul_one _

/-- Any number of characters of a set. -/
theorem mem_kstar_letters : t ∈ (letters set)∗ ↔ ∀ c ∈ t, set.contains c = true := by
  rw [Language.mem_kstar]
  constructor
  · rintro ⟨pieces, rfl, hpieces⟩ c hc
    obtain ⟨piece, hpiece, hc⟩ := List.mem_flatten.mp hc
    obtain ⟨d, rfl, hd⟩ := hpieces piece hpiece
    rwa [List.mem_singleton.mp hc]
  · intro h
    refine ⟨t.map ([·]), (List.flatMap_singleton' t).symm, ?_⟩
    intro piece hpiece
    obtain ⟨c, hc, rfl⟩ := List.mem_map.mp hpiece
    exact ⟨c, rfl, h c hc⟩

/-- One or more characters of a set. -/
theorem mem_letters_mul_kstar :
    t ∈ letters set * (letters set)∗ ↔ t ≠ [] ∧ ∀ c ∈ t, set.contains c = true := by
  rw [Language.mem_mul]
  constructor
  · rintro ⟨_, ⟨c, rfl, hc⟩, t, ht, rfl⟩
    exact ⟨by simp, List.forall_mem_cons.mpr ⟨hc, mem_kstar_letters.mp ht⟩⟩
  · rintro ⟨hne, h⟩
    obtain ⟨c, t, rfl⟩ := List.exists_cons_of_ne_nil hne
    rw [List.forall_mem_cons] at h
    exact ⟨[c], ⟨c, rfl, h.1⟩, t, mem_kstar_letters.mpr h.2, rfl⟩

variable {l l' : Language Char} {sep : Char}

/-- The iteration of a language whose texts are made from those of another one. -/
theorem mem_kstar_iff_of_image {f : Text → Text} (h : ∀ t, t ∈ l' ↔ ∃ piece ∈ l, t = f piece) :
    t ∈ l'∗ ↔ ∃ pieces : List Text, t = (pieces.map f).flatten ∧ ∀ piece ∈ pieces, piece ∈ l := by
  rw [Language.mem_kstar]
  constructor
  · rintro ⟨parts, rfl, hparts⟩
    induction parts with
    | nil => exact ⟨[], rfl, by simp⟩
    | cons part parts ih =>
        rw [List.forall_mem_cons] at hparts
        obtain ⟨piece, hpiece, rfl⟩ := (h part).mp hparts.1
        obtain ⟨pieces, hflat, hpieces⟩ := ih hparts.2
        exact ⟨piece :: pieces, by simp [hflat], List.forall_mem_cons.mpr ⟨hpiece, hpieces⟩⟩
  · rintro ⟨pieces, rfl, hpieces⟩
    refine ⟨pieces.map f, rfl, List.forall_mem_map.mpr fun piece hpiece => ?_⟩
    exact (h _).mpr ⟨piece, hpieces piece hpiece, rfl⟩

theorem intercalate_cons_eq (sep : Char) (piece : Text) (pieces : List Text) :
    [sep].intercalate (piece :: pieces) = piece ++ (pieces.map (sep :: ·)).flatten := by
  induction pieces generalizing piece with
  | nil => simp
  | cons next pieces ih => rw [List.intercalate_cons_cons, ih]; simp

theorem intercalate_cons_of_ne_nil (sep : Char) (piece : Text) {pieces : List Text}
    (hne : pieces ≠ []) :
    [sep].intercalate (piece :: pieces) = piece ++ [sep] ++ [sep].intercalate pieces := by
  obtain ⟨next, rest, rfl⟩ := List.exists_cons_of_ne_nil hne
  exact List.intercalate_cons_cons

theorem intercalate_concat_eq (sep : Char) (pieces : List Text) (last : Text) :
    [sep].intercalate (pieces ++ [last]) = (pieces.map (· ++ [sep])).flatten ++ last := by
  induction pieces with
  | nil => simp
  | cons piece pieces ih =>
      rw [List.cons_append, intercalate_cons_of_ne_nil sep piece (by simp), ih]
      simp

/-- One or more texts of a language with a separator between them. -/
theorem mem_mul_kstar_sep :
    t ∈ l * (letters (.oneOf [sep]) * l)∗ ↔
      ∃ pieces, t = [sep].intercalate pieces ∧ pieces ≠ [] ∧ ∀ piece ∈ pieces, piece ∈ l := by
  have himage (t : Text) : t ∈ letters (.oneOf [sep]) * l ↔ ∃ piece ∈ l, t = sep :: piece := by
    simp [Language.mem_mul, mem_letters_singleton, eq_comm]
  rw [Language.mem_mul]
  simp only [mem_kstar_iff_of_image himage]
  constructor
  · rintro ⟨piece, hpiece, _, ⟨pieces, rfl, hpieces⟩, rfl⟩
    exact ⟨piece :: pieces, (intercalate_cons_eq ..).symm, by simp,
      List.forall_mem_cons.mpr ⟨hpiece, hpieces⟩⟩
  · rintro ⟨pieces, rfl, hne, hpieces⟩
    obtain ⟨piece, pieces, rfl⟩ := List.exists_cons_of_ne_nil hne
    rw [List.forall_mem_cons] at hpieces
    exact ⟨piece, hpieces.1, _, ⟨pieces, rfl, hpieces.2⟩, (intercalate_cons_eq ..).symm⟩

/-- Texts of a language, each with a separator behind it, and one text of another language. -/
theorem mem_kstar_sep_mul :
    t ∈ (l * letters (.oneOf [sep]))∗ * l' ↔
      ∃ pieces last, t = [sep].intercalate (pieces ++ [last]) ∧ (∀ piece ∈ pieces, piece ∈ l) ∧
        last ∈ l' := by
  have himage (t : Text) :
      t ∈ l * letters (.oneOf [sep]) ↔ ∃ piece ∈ l, t = piece ++ [sep] := by
    simp [Language.mem_mul, mem_letters_singleton, eq_comm]
  rw [Language.mem_mul]
  simp only [mem_kstar_iff_of_image himage]
  constructor
  · rintro ⟨_, ⟨pieces, rfl, hpieces⟩, last, hlast, rfl⟩
    exact ⟨pieces, last, (intercalate_concat_eq ..).symm, hpieces, hlast⟩
  · rintro ⟨pieces, last, rfl, hpieces, hlast⟩
    exact ⟨_, ⟨pieces, rfl, hpieces⟩, last, hlast, (intercalate_concat_eq ..).symm⟩

end UriRouting.Regex
