import UriRouting.Proofs.Regex.AtEnd
import UriRouting.Proofs.Regex.Enclosed
import UriRouting.Proofs.Regex.Levels

/-!
# UriRouting.Proofs.Regex.RightAnchor

An expression with the right anchor behind it, and the expression without. The reader goes
through both alike, round by round (`take_of_dollar`), up to the end.

`Reads.of_dollar` has the outcome. What is read with the anchor is read without, and it matches
the same texts up to their ends (`SameToEnd`). The exception is a backslash at the end of the
expression, which makes a character of the anchor. Then the expression cannot be put into a group
between anchors either: the backslash takes in the bracket.
-/

namespace UriRouting.Regex

variable {st st' : State}

/-! ### Rounds -/

/-- **A round that is taken with the anchor behind the text is taken without**, and leaves the
anchor behind what it leaves, unless a comment takes it in. Or else a brace is left, with nothing
but blanks up to the anchor. -/
theorem take_of_dollar {c : Char} {u rest' : Text} (h : ¬ (c = '\\' ∧ u = []))
    (htake : take st c (u ++ ['$']) = .ok (st', rest')) :
    (∃ rest, take st c u = .ok (st', rest) ∧ (rest' = rest ++ ['$'] ∨ rest = [] ∧ rest' = [])) ∨
      ∃ v, rest' = '{' :: (v ++ ['$']) ∧ skip st'.flags.verbose v = [] := by
  obtain ⟨action, hread, hperform⟩ := take_eq_ok_iff.mp htake
  rcases (onlyIf_readAction st.flags st.names h).carried
    (carries_readAction dollar_mem_endings st.flags st.names c u) hread with
    ⟨rest, hread', hrest⟩ | ⟨⟨part, hpush⟩, hbrace⟩
  · exact .inl ⟨rest, take_eq_ok_iff.mpr ⟨action, hread', hperform⟩, hrest⟩
  · refine .inr ?_
    dsimp only at hpush
    rw [hpush] at hperform
    cases hperform
    exact hbrace

/-- Where the rest of a text cannot be put into the group between anchors, the text cannot. -/
theorem not_reads_closing_of_take {engine : Engine} {ignoreCase : Bool} {t u rest : Text}
    {c : Char} {whole : Part}
    (hskip : skip st.flags.verbose t = c :: u) (htake : take st c u = .ok (st', rest))
    (hrest : rest ≠ [])
    (h : ¬ Reads (st'.below [anchorGroup engine ignoreCase]) (rest ++ closing) whole) :
    ¬ Reads (st.below [anchorGroup engine ignoreCase]) (t ++ closing) whole := by
  have hskip' : skip (st.below [anchorGroup engine ignoreCase]).flags.verbose (t ++ closing) =
      c :: (u ++ closing) := skip_append_of_cons closing hskip
  rcases take_append closing_mem_endings htake with htake' | ⟨hnil, -⟩
  · rwa [reads_of_take hskip' (htake' [anchorGroup engine ignoreCase])]
  · exact absurd hnil hrest

/-- There are no bounds between a brace and the anchor, if nothing else is there. -/
theorem not_reads_brace {u : Text} {part : Part} (hblank : skip st.flags.verbose u = []) :
    ¬ Reads st ('{' :: (u ++ ['$'])) part := by
  intro h
  have hskip : skip st.flags.verbose ('{' :: (u ++ ['$'])) = '{' :: (u ++ ['$']) := by
    cases st.flags.verbose <;> rfl
  obtain ⟨st', rest, htake, -⟩ := (reads_of_skip hskip).mp h
  obtain ⟨action, hread, -⟩ := take_eq_ok_iff.mp htake
  obtain ⟨bounds, hbounds, -⟩ := map_eq_ok.mp hread
  obtain ⟨bounds', hread'⟩ := (onlyIf_readBounds st.flags.verbose u).ok hbounds
  rw [readBounds_eq, hblank] at hread'
  cases hverbose : st.flags.verbose <;> rw [hverbose] at hread' <;> cases hread'

/-- A backslash at the end of an expression takes in the bracket that is put behind it, and the
group stays open. -/
theorem not_reads_backslash {engine : Engine} {ignoreCase : Bool} {t : Text} {whole : Part}
    (hskip : skip st.flags.verbose t = ['\\']) :
    ¬ Reads (st.below [anchorGroup engine ignoreCase]) (t ++ closing) whole := by
  intro h
  have hskip' : skip (st.below [anchorGroup engine ignoreCase]).flags.verbose (t ++ closing) =
      '\\' :: closing := skip_append_of_cons closing hskip
  obtain ⟨st₁, htake, hgroups⟩ : ∃ st₁,
      take (st.below [anchorGroup engine ignoreCase]) '\\' closing = .ok (st₁, ['$']) ∧
        st₁.groups = st.groups ++ [anchorGroup engine ignoreCase] := ⟨_, rfl, rfl⟩
  obtain ⟨st₂, rest, htake', h⟩ := (reads_of_skip (skip_ending_self dollar_mem_endings _)).mp
    ((reads_of_take hskip' htake).mp h)
  cases htake'
  have hfinish := (reads_of_skip_nil (skip_nil _)).mp h
  simp [State.finish, State.push, hgroups] at hfinish

theorem holds_rightAnchor (fs : Flags) (before : Option Char) :
    (rightAnchor fs).holds before none = true := by
  unfold rightAnchor
  split
  · cases fs.crlf <;> rfl
  · rfl

/-- The parts of two readings match the same texts up to their ends. -/
def SameToEnd (part part' : Part) : Prop :=
  ∀ s t, part'.regex.Matches s t [] ↔ part.regex.Matches s t []

/-- **An expression that is read with the right anchor behind it is read without**, and then it
matches the same texts up to their ends. The exception is a backslash at its end. The induction is
on the rounds. -/
theorem Reads.of_dollar {t' : Text} {part' : Part} (h : Reads st t' part') (t : Text)
    (ht : t' = t ++ ['$']) :
    (∃ part, Reads st t part ∧ SameToEnd part part') ∨
      (t.getLast? = some '\\' ∧
        ∀ engine ignoreCase whole,
          ¬ Reads (st.below [anchorGroup engine ignoreCase]) (t ++ closing) whole) := by
  induction h generalizing t with
  | @done st t' part' hskip' hfinish =>
      subst ht
      cases hskip : skip st.flags.verbose t with
      | nil => exact .inl ⟨part', .done hskip hfinish, fun s v => Iff.rfl⟩
      | cons c u =>
          rw [skip_append_of_cons ['$'] hskip] at hskip'
          cases hskip'
  | @more st st' t' u' rest' c part' hskip' htake hmore ih =>
      subst ht
      cases hskip : skip st.flags.verbose t with
      | nil =>
          refine .inl ?_
          rcases atEnd_iff.mp (atEnd_skip hskip) with hnil | hdollar
          · cases hnil.symm.trans hskip'
          · -- the last round is the one on the anchor
            cases hdollar.symm.trans hskip'
            cases htake
            have hfinish := (reads_of_skip_nil (skip_nil _)).mp hmore
            unfold State.finish at hfinish
            split_ifs at hfinish with hgroups
            cases hfinish
            refine ⟨st.level.close, .done hskip (if_pos hgroups), fun s v => ?_⟩
            rw [matches_close, matches_close]
            exact or_congr (matches_branch_push st.level (holds_rightAnchor st.flags)) Iff.rfl
      | cons d u =>
          cases hskip'.symm.trans (skip_append_of_cons ['$'] hskip)
          by_cases hbackslash : c = '\\' ∧ u = []
          · obtain ⟨rfl, rfl⟩ := hbackslash
            refine .inr ⟨?_, fun engine ignoreCase whole => not_reads_backslash hskip⟩
            obtain ⟨blanks, rfl⟩ := hskip ▸ skip_suffix st.flags.verbose t
            simp
          · rcases take_of_dollar hbackslash htake with ⟨rest, htake', hrest'⟩ | hbrace
            · rcases hrest' with rfl | ⟨rfl, rfl⟩
              · rcases ih rest rfl with ⟨part, hreads, hsame⟩ | ⟨hlast, hnot⟩
                · exact .inl ⟨part, .more hskip htake' hreads, hsame⟩
                · have hrest : rest ≠ [] := by
                    rintro rfl
                    cases hlast
                  refine .inr ⟨?_, fun engine ignoreCase whole =>
                    not_reads_closing_of_take hskip htake' hrest (hnot engine ignoreCase whole)⟩
                  obtain ⟨before, rfl⟩ :=
                    (leaves_take _ _ _ _ _ htake').trans (suffix_of_skip hskip)
                  rw [List.getLast?_append, hlast]
                  rfl
              · exact .inl ⟨part', .more hskip htake' hmore, fun s v => Iff.rfl⟩
            · obtain ⟨v, rfl, hblank⟩ := hbrace
              exact absurd hmore (not_reads_brace hblank)

end UriRouting.Regex
