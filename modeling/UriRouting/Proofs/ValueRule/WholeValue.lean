import UriRouting.Proofs.Regex.Enclosed
import UriRouting.Proofs.Regex.Matches
import UriRouting.ValueRule.Basic

/-!
# UriRouting.Proofs.ValueRule.WholeValue

What an expression of the caller's says about a value. The expression is put as a text into a
group between anchors, and the result is read as one expression. So there are two questions:

* whether the group still holds the expression, which it does if the expression can be read by
  itself (`CustomRegex.expression_eq`);
* what is then matched, which is the value from its start to its end
  (`accepts_regex_iff_matches`).

The answers are the same whatever sets of characters have names and whatever is too large
(`Regex.Engine`). An expression that cannot be read by itself may close the group and open another
one, so that the anchors no longer hold for all of it (`accepts_part_of_value`).
-/

namespace UriRouting

namespace Regex

/-- What an engine is to build stays within the limits: of depth, and its own one of size. -/
def Part.WithinLimits (part : Part) (engine : Engine) (source : Text) (ignoreCase : Bool) : Prop :=
  part.depth ≤ depthLimit ∧ engine.fits source ignoreCase part.regex = true

/-- An expression is built if it can be read and stays within the limits. -/
theorem Engine.build_eq_ok_iff {engine : Engine} {source : Text} {ignoreCase : Bool} {r : Regex} :
    engine.build source ignoreCase = .ok r ↔
      ∃ part, read (engine.flags ignoreCase) source = .ok part ∧
        part.WithinLimits engine source ignoreCase ∧ part.regex = r := by
  cases hread : read (engine.flags ignoreCase) source with
  | error e => simp [Engine.build, hread, bind, Except.bind]
  | ok part =>
      rw [Engine.build_of_read hread]
      by_cases hdepth : depthLimit < part.depth
      · simp [Part.WithinLimits, hdepth, Nat.not_le.mpr hdepth]
      · by_cases hfits : engine.fits source ignoreCase part.regex = true <;>
          simp [Part.WithinLimits, hdepth, Nat.le_of_not_lt hdepth, hfits]

end Regex

namespace CustomRegex

variable {engine : Regex.Engine} {key raw : Text} {e : CustomRegex}

/-- The expression for values of a route that regards case, or of one that does not. -/
def expression (e : CustomRegex) (caseSensitive : Bool) : Regex :=
  if caseSensitive then e.sensitive else e.insensitive

theorem isMatch_eq (e : CustomRegex) (value : Text) (caseSensitive : Bool) :
    e.isMatch value caseSensitive = (e.expression caseSensitive).isMatch value := by
  cases caseSensitive <;> rfl

/-- Both expressions are built from the text between anchors. -/
theorem build_expression (h : buildWith engine key raw = .ok e) (caseSensitive : Bool) :
    engine.build (anchored (stripAnchors raw)) (!caseSensitive) =
      .ok (e.expression caseSensitive) := by
  rw [buildWith] at h
  split_ifs at h
  split at h
  · rename_i sensitive insensitive hsensitive hinsensitive
    cases h
    cases caseSensitive
    · exact hinsensitive
    · exact hsensitive
  · cases h

/-- **The anchoring group holds an expression that can be read by itself.** -/
theorem expression_eq {caseSensitive : Bool} {part : Regex.Part}
    (h : buildWith engine key raw = .ok e)
    (hread : Regex.read (engine.flags !caseSensitive) (stripAnchors raw) = .ok part) :
    e.expression caseSensitive =
      Regex.concat [.assert .textStart, part.regex, .assert .textEnd] := by
  obtain ⟨whole, hwhole, -, hregex⟩ :=
    Regex.Engine.build_eq_ok_iff.mp (build_expression h caseSensitive)
  obtain ⟨rfl, -⟩ := (Regex.read_enclosed hread whole).mp hwhole
  rw [← hregex]
  rfl

end CustomRegex

namespace ValueRule

open CustomRegex

/-- **A rule with an expression tests the whole value.** Where the expression can be read by
itself, the rule accepts the values that are not empty and that the expression matches from
their start to their end. -/
theorem accepts_regex_iff_matches {engine : Regex.Engine} {key raw : Text} {e : CustomRegex}
    {caseSensitive : Bool} {part : Regex.Part} (h : CustomRegex.buildWith engine key raw = .ok e)
    (hread : Regex.read (engine.flags !caseSensitive) (stripAnchors raw) = .ok part)
    (value : Text) :
    (ValueRule.regex e).accepts value caseSensitive = true ↔
      value ≠ [] ∧ part.regex.Matches [] value [] := by
  have hmatch : e.isMatch value caseSensitive = true ↔ part.regex.Matches [] value [] := by
    rw [isMatch_eq, expression_eq h hread, Regex.isMatch_anchored_iff]
  simp [accepts, hmatch]

/-- Two branches with anchors at the far ends only: each of them has to match a whole value. -/
theorem accepts_regex_iff_matches_branch :
    ∃ (e : CustomRegex) (part : Regex.Part),
      CustomRegex.build ['k'] ['^', 'a', '|', 'b', '$'] = .ok e ∧
      Regex.read (.initial false) (stripAnchors ['^', 'a', '|', 'b', '$']) = .ok part ∧
      part.regex.Matches [] ['b'] [] ∧ ¬ part.regex.Matches [] ['a', 'b'] [] := by
  obtain ⟨e, he, hb, hab⟩ : ∃ e, CustomRegex.build ['k'] ['^', 'a', '|', 'b', '$'] = .ok e ∧
      (ValueRule.regex e).accepts ['b'] true = true ∧
      (ValueRule.regex e).accepts ['a', 'b'] true = false :=
    ⟨_, rfl, by decide +kernel, by decide +kernel⟩
  obtain ⟨part, hread⟩ : ∃ part,
      Regex.read (.initial !true) (stripAnchors ['^', 'a', '|', 'b', '$']) = .ok part := ⟨_, rfl⟩
  refine ⟨e, part, he, hread, ((accepts_regex_iff_matches he hread ['b']).mp hb).2, ?_⟩
  intro h
  have haccepts := (accepts_regex_iff_matches he hread ['a', 'b']).mpr ⟨by decide, h⟩
  rw [hab] at haccepts
  cases haccepts

/-- A bracket that closes the group, and another one that opens a group to be closed: the
expression cannot be read by itself, and it accepts a value for what it starts with. -/
theorem accepts_part_of_value :
    ∃ e : CustomRegex, CustomRegex.build ['k'] ['a', ')', '|', '(', '?', ':', 'b'] = .ok e ∧
      (∀ part, Regex.read (.initial false) (stripAnchors ['a', ')', '|', '(', '?', ':', 'b']) ≠
        .ok part) ∧
      (ValueRule.regex e).accepts ['a', 'x', 'y', 'z'] true = true := by
  refine ⟨_, rfl, ?_, ?_⟩
  · intro part h
    cases h
  · decide +kernel

end ValueRule

end UriRouting
