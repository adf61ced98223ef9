import Mathlib.Algebra.BigOperators.Group.List.Basic
import Mathlib.Algebra.GroupWithZero.Nat
import UriRouting.Proofs.Template.Readings

/-!
# UriRouting.Proofs.Template.Footprint

What an expression takes at least: the size of its characters (`Regex.charsSize`). The size of
parts in a row is the sum of the sizes of the parts, so a template with a long literal has an
expression over the limit (`sum_setSize_le_of_withinLimits`).
-/

namespace UriRouting

namespace Regex

/-- The size of the characters of an expression, without those of alternatives and repetitions. -/
def charsSize (direction : Direction) : Regex → Nat
  | chars sets => (sets.map (setSize direction)).sum
  | assert _ | alt .. | rep .. => 0
  | seq r r' => r.charsSize direction + r'.charsSize direction
  | group _ r => r.charsSize direction

theorem charsSize_le_footprint (direction : Direction) (r : Regex) :
    r.charsSize direction ≤ r.footprint direction := by
  induction r with
  | chars sets =>
      cases sets with
      | nil => exact Nat.zero_le _
      | cons set sets =>
          rw [charsSize, footprint, List.sum_eq_foldr, List.foldr_map]
          exact List.cons_ne_nil set sets
  | assert => exact Nat.zero_le _
  | alt => exact Nat.zero_le _
  | rep => exact Nat.zero_le _
  | seq r r' ih ih' => exact Nat.add_le_add ih ih'
  | group name r ih =>
      cases direction with
      | forward => exact Nat.le_add_left_of_le ih
      | backward => exact ih

theorem charsSize_append (direction : Direction) (r r' : Regex) :
    (append r r').charsSize direction = r.charsSize direction + r'.charsSize direction := by
  unfold append
  split <;> simp [charsSize, Nat.add_assoc]

theorem charsSize_concat (direction : Direction) (rs : List Regex) :
    (concat rs).charsSize direction = (rs.map (charsSize direction)).sum := by
  induction rs with
  | nil => rfl
  | cons r rs ih =>
      rw [List.map_cons, List.sum_cons, ← ih]
      exact charsSize_append direction r (concat rs)

/-- **Parts in a row take the space of the parts.** -/
theorem charsSize_rowOfParts (direction : Direction) (ps : List Part) :
    (rowOfParts ps).regex.charsSize direction = (ps.map (·.regex.charsSize direction)).sum := by
  rcases regex_rowOfParts ps with ⟨p, rfl, h⟩ | h
  · rw [h, List.map_singleton, List.sum_singleton]
  · rw [h, charsSize_concat, List.map_map]
    rfl

@[simp] theorem charsSize_ofChar (direction : Direction) (ignoreCase : Bool) (c : Char) :
    (Part.ofChar ignoreCase c).regex.charsSize direction =
      setSize direction (literalSet (.initial ignoreCase) c) :=
  Nat.add_zero _

end Regex

namespace Template

/-- The parts for a literal at the start of a template come first. -/
theorem templateParts_literal (ignoreCase : Bool) (text : Text) (ts : List Token) :
    ∃ rest, templateParts ignoreCase (.literal text :: ts) =
      text.map (.ofChar ignoreCase) ++ rest := by
  obtain ⟨m, hm⟩ := Nat.exists_eq_add_one.mpr (firstOptional_literal_pos text ts)
  have hleading : leadingOptional? (.literal text :: ts) = none := rfl
  refine ⟨(ts.take m).flatMap (Token.parts ignoreCase) ++ optionalParts ignoreCase (ts.drop m), ?_⟩
  rw [templateParts, hleading, hm, List.take_succ_cons, List.drop_succ_cons, List.flatMap_cons]
  exact List.append_assoc ..

/-- **A literal at the start of a template takes space for each of its characters**, and with
a variable behind it this has to be within the limit. -/
theorem sum_setSize_le_of_withinLimits {ignoreCase : Bool} {text : Text} {ts : List Token}
    (h : withinLimits ignoreCase (.literal text :: ts) = true) :
    (text.map fun c => Regex.setSize .forward (Regex.literalSet (.initial ignoreCase) c)).sum ≤
      Regex.sizeLimit := by
  obtain ⟨rest, hparts⟩ := templateParts_literal ignoreCase text ts
  rw [withinLimits, Regex.fits, Bool.and_eq_true, Bool.and_eq_true, decide_eq_true_eq,
    decide_eq_true_eq] at h
  calc (text.map fun c => Regex.setSize .forward (Regex.literalSet (.initial ignoreCase) c)).sum
      ≤ (templatePart ignoreCase (.literal text :: ts)).regex.charsSize .forward := by
        simp [templatePart, Regex.charsSize_rowOfParts, Regex.anchoredParts, hparts,
          Function.comp_def, Regex.charsSize]
    _ ≤ (templatePart ignoreCase (.literal text :: ts)).regex.footprint .forward :=
        Regex.charsSize_le_footprint _ _
    _ ≤ Regex.sizeLimit := h.2.1

end Template

end UriRouting
