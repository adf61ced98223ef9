import UriRouting.Proofs.Regex.LeftAnchor
import UriRouting.Proofs.Regex.RightAnchor
import UriRouting.Proofs.ValueRule.WholeValue

/-!
# UriRouting.Proofs.ValueRule.Stripping

What stripping its anchors does to an expression of the caller's (`stripAnchors`). Anchors are told
by their characters alone, at the first and the last place of the text.

`stripAnchors_keeps_meaning` has the outcome for expressions that can be built as they are, whatever
sets of characters have names and whatever is too large (`Regex.Engine`):

* where the rule is built, it accepts the values that the expression matches as they are, anchors
  and all: the anchors at the far ends hold there anyway;
* the rule is built if the stripped text can be read, does not end in a comment and stays within
  the limits with the group between anchors around it;
* the stripped text can be read, unless the first anchor stands before the mark of a repetition, or
  the last character is a dollar sign behind a backslash, which is no anchor
  (`stripAnchors_escaped_dollar`).
-/

namespace UriRouting

namespace Regex

/-- **An expression is read without the anchors at its ends as it is with them**, and matches the
same whole texts, unless the left anchor is repeated or the right one is none. Then it cannot be put
into the group between anchors. -/
theorem Reads.of_anchors {engine : Engine} {ignoreCase : Bool} {left right t : Text} {part' : Part}
    (ht : t ≠ []) (hleft : left = [] ∨ left = ['^']) (hright : right = [] ∨ right = ['$'])
    (h : Reads { flags := engine.flags ignoreCase } (left ++ t ++ right) part') :
    (∃ part, Reads { flags := engine.flags ignoreCase } t part ∧
        ∀ v, part'.regex.Matches [] v [] ↔ part.regex.Matches [] v []) ∨
      ((left = ['^'] ∧ (∃ c ∈ repetitionMarks, ∃ u, t = c :: u) ∨
          right = ['$'] ∧ t.getLast? = some '\\') ∧
        ∀ whole, ¬ Reads
          (State.below { flags := engine.flags ignoreCase } [anchorGroup engine ignoreCase])
          (t ++ closing) whole) := by
  -- the left anchor goes first
  have hcaret : (∃ part, Reads { flags := engine.flags ignoreCase } (t ++ right) part ∧
        ∀ v, part'.regex.Matches [] v [] ↔ part.regex.Matches [] v []) ∨
      left = ['^'] ∧ ∃ c ∈ repetitionMarks, ∃ u, t = c :: u := by
    rcases hleft with rfl | rfl
    · exact .inl ⟨part', h, fun v => Iff.rfl⟩
    · rcases h.of_caret with ⟨part, h, hsame⟩ | ⟨c, hc, u, htext⟩
      · exact .inl ⟨part, h, fun v => hsame v []⟩
      · obtain ⟨d, t, rfl⟩ := List.exists_cons_of_ne_nil ht
        cases htext
        exact .inr ⟨rfl, c, hc, t, rfl⟩
  rcases hcaret with ⟨part₁, h, hsame⟩ | ⟨hleft, c, hc, u, rfl⟩
  · rcases hright with rfl | rfl
    · rw [List.append_nil] at h
      exact .inl ⟨part₁, h, hsame⟩
    · rcases h.of_dollar t rfl with ⟨part, h, hsame'⟩ | ⟨hlast, hnot⟩
      · exact .inl ⟨part, h, fun v => (hsame v).trans (hsame' [] v)⟩
      · exact .inr ⟨.inr ⟨rfl, hlast⟩, hnot engine ignoreCase⟩
  · exact .inr ⟨.inl ⟨hleft, c, hc, u, rfl⟩, fun whole => not_reads_repetition hc rfl⟩

end Regex

namespace CustomRegex

variable {engine : Regex.Engine} {key raw : Text}

/-- What is stripped is an anchor at the start, one at the end, both or nothing. -/
theorem exists_anchors (raw : Text) :
    ∃ left right, (left = [] ∨ left = ['^']) ∧ (right = [] ∨ right = ['$']) ∧
      raw = left ++ stripAnchors raw ++ right := by
  have hdollar {t r : Text} (h : t.reverse = '$' :: r) : t = r.reverse ++ ['$'] := by
    rw [← List.reverse_reverse t, h, List.reverse_cons]
  unfold stripAnchors
  split
  · dsimp only
    split
    · rename_i r hreverse
      exact ⟨['^'], ['$'], .inr rfl, .inr rfl, congrArg ('^' :: ·) (hdollar hreverse)⟩
    · exact ⟨['^'], [], .inr rfl, .inl rfl, by simp⟩
  · dsimp only
    split
    · rename_i r hreverse
      exact ⟨[], ['$'], .inl rfl, .inr rfl, hdollar hreverse⟩
    · exact ⟨[], [], .inl rfl, .inl rfl, by simp⟩

/-- A rule is built if the text between anchors is, for both ways to regard case. -/
theorem exists_build_iff (hne : stripAnchors raw ≠ []) :
    (∃ e, buildWith engine key raw = .ok e) ↔
      ∀ ignoreCase, ∃ r, engine.build (anchored (stripAnchors raw)) ignoreCase = .ok r := by
  constructor
  · rintro ⟨e, h⟩ ignoreCase
    have hbuild := build_expression h !ignoreCase
    rw [Bool.not_not] at hbuild
    exact ⟨_, hbuild⟩
  · intro h
    obtain ⟨sensitive, hsensitive⟩ := h false
    obtain ⟨insensitive, hinsensitive⟩ := h true
    refine ⟨⟨stripAnchors raw, sensitive, insensitive⟩, ?_⟩
    rw [buildWith, if_neg (by simpa using hne), hsensitive, hinsensitive]

/-- The text between anchors is built if the text by itself can be read, and neither a comment at
its end nor the limits are in the way. -/
theorem build_anchored_iff {source : Text} {ignoreCase : Bool} {part : Regex.Part} {r : Regex}
    (hread : Regex.read (engine.flags ignoreCase) source = .ok part) :
    engine.build (anchored source) ignoreCase = .ok r ↔
      ¬ Regex.EndsInComment (engine.flags ignoreCase) source ∧
        part.anchored.WithinLimits engine (anchored source) ignoreCase ∧
        part.anchored.regex = r := by
  have hwhole := Regex.read_enclosed hread
  rw [Regex.Engine.build_eq_ok_iff]
  constructor
  · rintro ⟨whole, h, hlimits, hregex⟩
    obtain ⟨rfl, hcomment⟩ := (hwhole whole).mp h
    exact ⟨hcomment, hlimits, hregex⟩
  · rintro ⟨hcomment, hlimits, hregex⟩
    exact ⟨part.anchored, (hwhole _).mpr ⟨rfl, hcomment⟩, hlimits, hregex⟩

/-- The first character is an anchor under the mark of a repetition, or the last one is a dollar
sign behind a backslash. -/
def AnchorTaken (raw : Text) : Prop :=
  (∃ c ∈ Regex.repetitionMarks, ['^', c] <+: raw) ∨ ['\\', '$'] <:+ raw

/-- An expression that is built by itself is read without its anchors, and matches the same whole
texts, or the text without them cannot be put between anchors. -/
theorem read_stripAnchors {ignoreCase : Bool} {r : Regex}
    (hraw : engine.build raw ignoreCase = .ok r) (hne : stripAnchors raw ≠ []) :
    (∃ part, Regex.read (engine.flags ignoreCase) (stripAnchors raw) = .ok part ∧
        ∀ v, r.Matches [] v [] ↔ part.regex.Matches [] v []) ∨
      (AnchorTaken raw ∧
        ∀ r', engine.build (anchored (stripAnchors raw)) ignoreCase ≠ .ok r') := by
  obtain ⟨part', hread, -, rfl⟩ := Regex.Engine.build_eq_ok_iff.mp hraw
  obtain ⟨left, right, hleft, hright, hparts⟩ := exists_anchors raw
  have hreads := Regex.read_eq_ok_iff.mp hread
  rw [hparts] at hreads
  rcases hreads.of_anchors hne hleft hright with ⟨part, h, hsame⟩ | ⟨htaken, hnot⟩
  · exact .inl ⟨part, Regex.read_eq_ok_iff.mpr h, hsame⟩
  · refine .inr ⟨?_, ?_⟩
    · rw [AnchorTaken, hparts]
      rcases htaken with ⟨rfl, c, hc, u, hu⟩ | ⟨rfl, hlast⟩
      · refine .inl ⟨c, hc, ?_⟩
        rw [hu]
        exact ⟨u ++ right, by simp⟩
      · obtain ⟨u, hu⟩ := List.getLast?_eq_some_iff.mp hlast
        refine .inr ?_
        rw [hu]
        exact ⟨left ++ u, by simp⟩
    · intro r' h
      obtain ⟨whole, hwhole, -⟩ := Regex.Engine.build_eq_ok_iff.mp h
      exact hnot whole (Regex.read_grouped_iff.mp hwhole)

/-- **Stripping the anchors keeps what an expression means.** Let an expression be built by itself,
with more in it than anchors. Then

* a rule is built of it if, for both ways to regard case, the text without the anchors can be read,
  does not end in a comment and stays within the limits between the anchors;
* the text without the anchors can be read, unless one of them is under a repetition or behind a
  backslash;
* the rule accepts the values that are not empty and that the expression itself, with its own
  anchors, matches from their start to their end. -/
theorem stripAnchors_keeps_meaning {r : Bool → Regex}
    (hraw : ∀ ignoreCase, engine.build raw ignoreCase = .ok (r ignoreCase))
    (hne : stripAnchors raw ≠ []) :
    ((∃ e, buildWith engine key raw = .ok e) ↔
      ∀ ignoreCase, ∃ part, Regex.read (engine.flags ignoreCase) (stripAnchors raw) = .ok part ∧
        ¬ Regex.EndsInComment (engine.flags ignoreCase) (stripAnchors raw) ∧
        part.anchored.WithinLimits engine (anchored (stripAnchors raw)) ignoreCase) ∧
    (∀ ignoreCase, (∀ part, Regex.read (engine.flags ignoreCase) (stripAnchors raw) ≠ .ok part) →
      AnchorTaken raw) ∧
    ∀ e, buildWith engine key raw = .ok e → ∀ value caseSensitive,
      (ValueRule.regex e).accepts value caseSensitive = true ↔
        value ≠ [] ∧ (r !caseSensitive).Matches [] value [] := by
  have hstripped (ignoreCase : Bool) := read_stripAnchors (hraw ignoreCase) hne
  refine ⟨?_, ?_, ?_⟩
  · rw [exists_build_iff hne]
    refine forall_congr' fun ignoreCase => ?_
    rcases hstripped ignoreCase with ⟨part, hread, -⟩ | ⟨-, hnot⟩
    · simp only [build_anchored_iff hread]
      constructor
      · rintro ⟨r, hcomment, hlimits, -⟩
        exact ⟨part, hread, hcomment, hlimits⟩
      · rintro ⟨part', hread', hcomment, hlimits⟩
        cases hread.symm.trans hread'
        exact ⟨_, hcomment, hlimits, rfl⟩
    · constructor
      · rintro ⟨r, h⟩
        exact absurd h (hnot r)
      · rintro ⟨part, hread, hcomment, hlimits⟩
        exact absurd ((build_anchored_iff hread).mpr ⟨hcomment, hlimits, rfl⟩) (hnot _)
  · intro ignoreCase hunread
    rcases hstripped ignoreCase with ⟨part, hread, -⟩ | ⟨htaken, -⟩
    · exact absurd hread (hunread part)
    · exact htaken
  · intro e he value caseSensitive
    rcases hstripped !caseSensitive with ⟨part, hread, hsame⟩ | ⟨-, hnot⟩
    · have hmatch : e.isMatch value caseSensitive = true ↔ part.regex.Matches [] value [] := by
        rw [isMatch_eq, expression_eq he hread, Regex.isMatch_anchored_iff]
      simp [ValueRule.accepts, hmatch, hsame value]
    · exact absurd (build_expression he caseSensitive) (hnot _)

/-- Two branches with an anchor each. The rule built of them without the anchors still accepts
whole values only. -/
theorem stripAnchors_keeps_meaning_branches :
    ∃ (r : Bool → Regex) (e : CustomRegex),
      (∀ ignoreCase, Regex.build ['^', 'a', '|', 'b', '$'] ignoreCase = .ok (r ignoreCase)) ∧
      stripAnchors ['^', 'a', '|', 'b', '$'] ≠ [] ∧
      build ['k'] ['^', 'a', '|', 'b', '$'] = .ok e ∧
      (r false).Matches [] ['b'] [] ∧ ¬ (r false).Matches [] ['a', 'b'] [] := by
  obtain ⟨sensitive, hsensitive⟩ :
      ∃ r, Regex.build ['^', 'a', '|', 'b', '$'] false = .ok r := ⟨_, rfl⟩
  obtain ⟨insensitive, hinsensitive⟩ :
      ∃ r, Regex.build ['^', 'a', '|', 'b', '$'] true = .ok r := ⟨_, rfl⟩
  have hraw (ignoreCase : Bool) : Regex.build ['^', 'a', '|', 'b', '$'] ignoreCase =
      .ok (if ignoreCase then insensitive else sensitive) := by
    cases ignoreCase
    · exact hsensitive
    · exact hinsensitive
  obtain ⟨e, he, hb, hab⟩ : ∃ e, build ['k'] ['^', 'a', '|', 'b', '$'] = .ok e ∧
      (ValueRule.regex e).accepts ['b'] true = true ∧
      (ValueRule.regex e).accepts ['a', 'b'] true = false :=
    ⟨_, rfl, by decide +kernel, by decide +kernel⟩
  have hne : stripAnchors ['^', 'a', '|', 'b', '$'] ≠ [] := by decide
  have hmeaning := (stripAnchors_keeps_meaning hraw hne).2.2 e he
  refine ⟨_, e, hraw, hne, he, ((hmeaning ['b'] true).mp hb).2, fun h => ?_⟩
  have haccepts := (hmeaning ['a', 'b'] true).mpr ⟨by decide, h⟩
  rw [hab] at haccepts
  cases haccepts

/-- A dollar sign behind a backslash is stripped as if it was an anchor. The expression can be built
by itself and matches a text, but no rule is built of what is left. -/
theorem stripAnchors_escaped_dollar :
    (∀ ignoreCase, ∃ r, Regex.build ['a', '\\', '$'] ignoreCase = .ok r ∧
      r.Matches [] ['a', '$'] []) ∧
    stripAnchors ['a', '\\', '$'] ≠ [] ∧
    build ['k'] ['a', '\\', '$'] = .error (.invalidRegex ['k']) := by
  refine ⟨fun ignoreCase => ?_, by decide, by decide +kernel⟩
  cases ignoreCase
  · exact ⟨_, rfl, .cons (by decide) (.cons (by decide) .nil)⟩
  · exact ⟨_, rfl, .cons (by decide) (.cons (by decide) .nil)⟩

end CustomRegex

end UriRouting
