import UriRouting.Proofs.Regex.Closing

/-!
# UriRouting.Proofs.Regex.Enclosed

Reading an expression inside a group between anchors. The reader goes through the expression
as it does without them, with one more group open below those of the expression
(`State.below`): it cannot tell the difference before the text ends or the ending comes
(`take_append`).

`read_enclosed` has the outcome. An expression that can be read by itself becomes one part
between the two anchors, unless a comment takes the bracket in that is put behind it
(`EndsInComment`): then the group stays open.
-/

namespace UriRouting.Regex

/-! ### Open groups -/

namespace State

/-- The state with more open groups, around those that it has. -/
def below (st : State) (gs : List OpenGroup) : State :=
  { st with groups := st.groups ++ gs }

variable {st st' : State} {gs : List OpenGroup}

@[simp] theorem below_nil : st.below [] = st := by
  simp [below]

@[simp] theorem below_flags : (st.below gs).flags = st.flags := rfl

@[simp] theorem below_level : (st.below gs).level = st.level := rfl

@[simp] theorem below_names : (st.below gs).names = st.names := rfl

@[simp] theorem below_groups : (st.below gs).groups = st.groups ++ gs := rfl

@[simp] theorem push_below (part : Part) : (st.below gs).push part = (st.push part).below gs := rfl

@[simp] theorem nextBranch_below : (st.below gs).nextBranch = st.nextBranch.below gs := rfl

@[simp] theorem enter_below (name : Option Text) (flags : Flags) :
    (st.below gs).enter name flags = (st.enter name flags).below gs := rfl

theorem leave_below (h : st.leave = .ok st') : (st.below gs).leave = .ok (st'.below gs) := by
  unfold leave at h ⊢
  cases hgroups : st.groups with
  | nil =>
      rw [hgroups] at h
      cases h
  | cons inner groups =>
      rw [hgroups] at h
      cases h
      simp [below, hgroups]

theorem repeatLast_below {least : Nat} {most : Option Nat} {greedy : Bool}
    (h : st.repeatLast least most greedy = .ok st') :
    (st.below gs).repeatLast least most greedy = .ok (st'.below gs) := by
  unfold repeatLast at h ⊢
  cases hparts : st.level.parts with
  | nil =>
      rw [hparts] at h
      cases h
  | cons part parts =>
      rw [below_level, hparts]
      rw [hparts] at h
      dsimp only at h ⊢
      split_ifs at h ⊢
      cases h
      rfl

theorem finish_below (g : OpenGroup) : (st.below [g]).finish = .error .unclosedGroup := by
  simp [finish]

end State

/-! ### Rounds -/

variable {st st' : State}

theorem Action.perform_below {action : Action} {gs : List OpenGroup}
    (h : action.perform st = .ok st') : action.perform (st.below gs) = .ok (st'.below gs) := by
  cases action with
  | push part =>
      cases h
      rfl
  | set flags =>
      cases h
      rfl
  | enter name flags =>
      cases h
      rfl
  | leave => exact State.leave_below h
  | nextBranch =>
      cases h
      rfl
  | repeatLast least most greedy => exact State.repeatLast_below h

/-- **One round with an ending behind the text**, whatever groups are open around: what is left has
the ending behind it, unless a comment takes it in. -/
theorem take_append (htail : tail ∈ endings) {c : Char} {t rest : Text}
    (h : take st c t = .ok (st', rest)) :
    (∀ gs, take (st.below gs) c (t ++ tail) = .ok (st'.below gs, rest ++ tail)) ∨
      (rest = [] ∧ ∀ gs, take (st.below gs) c (t ++ tail) = .ok (st'.below gs, [])) := by
  obtain ⟨action, hread, hperform⟩ := take_eq_ok_iff.mp h
  refine (carries_readAction htail st.flags st.names c t action rest hread).imp ?_
    (And.imp_right ?_)
  · intro hread' gs
    exact take_eq_ok_iff.mpr ⟨action, hread', Action.perform_below hperform⟩
  · intro hread' gs
    exact take_eq_ok_iff.mpr ⟨action, hread', Action.perform_below hperform⟩

/-! ### Whole expressions -/

/-- After a round that is taken, the rest decides. -/
theorem reads_of_take {t u rest : Text} {c : Char} {part : Part}
    (hskip : skip st.flags.verbose t = c :: u) (htake : take st c u = .ok (st', rest)) :
    Reads st t part ↔ Reads st' rest part := by
  rw [reads_of_skip hskip, htake]
  constructor
  · rintro ⟨_, _, heq, h⟩
    cases heq
    exact h
  · intro h
    exact ⟨st', rest, rfl, h⟩

theorem reads_congr_skip {t t' : Text} {part : Part}
    (hskip : skip st.flags.verbose t = skip st.flags.verbose t') :
    Reads st t part ↔ Reads st t' part := by
  cases hskip' : skip st.flags.verbose t' with
  | nil => rw [reads_of_skip_nil (hskip.trans hskip'), reads_of_skip_nil hskip']
  | cons c u => rw [reads_of_skip (hskip.trans hskip'), reads_of_skip hskip']

/-- A comment at the end of an expression takes in the bracket that is put behind it. -/
def EndsInComment (flags : Flags) (t : Text) : Prop :=
  ∃ part, read flags (t ++ closing) = .ok part

/-- The group that an expression is put into, with the anchor before it. -/
def anchorGroup (engine : Engine) (ignoreCase : Bool) : OpenGroup :=
  ⟨none, engine.flags ignoreCase, { parts := [{ regex := assert .textStart, depth := 0 }] }⟩

/-- The part that comes of an expression between anchors. -/
def Part.anchored (part : Part) : Part :=
  rowOfParts (anchoredParts [part.enclosed none])

/-- The closing ends the group, and the anchor behind it is the last part. -/
theorem reads_below_closing {part : Part} (h : st.finish = .ok part) (engine : Engine)
    (ignoreCase : Bool) (whole : Part) :
    Reads (st.below [anchorGroup engine ignoreCase]) closing whole ↔ whole = part.anchored := by
  unfold State.finish at h
  split_ifs at h with hgroups
  cases h
  rw [List.isEmpty_iff] at hgroups
  have hskip : skip (st.below [anchorGroup engine ignoreCase]).flags.verbose closing = [')', '$'] :=
    skip_ending_self closing_mem_endings _
  have hleave : take (st.below [anchorGroup engine ignoreCase]) ')' ['$'] =
      .ok ({ st with
        flags := engine.flags ignoreCase
        level := { parts := [st.level.close.enclosed none,
          { regex := assert .textStart, depth := 0 }] }
        groups := [] }, ['$']) := by
    rw [take_close]
    simp [State.leave, State.below, hgroups, anchorGroup, Level.push, Part.enclosed, Except.map]
  rw [reads_of_take hskip hleave, reads_of_take rfl rfl, reads_of_skip_nil rfl]
  constructor
  · intro h
    cases h
    rfl
  · rintro rfl
    rfl

/-- **An expression is read between anchors as it is by itself**, or else the closing is taken in
by a comment and the group stays open. -/
theorem Reads.enclosed {t : Text} {part : Part} (h : Reads st t part) (engine : Engine)
    (ignoreCase : Bool) :
    ((∀ whole, Reads (st.below [anchorGroup engine ignoreCase]) (t ++ closing) whole ↔
        whole = part.anchored) ∧ ∀ whole, ¬ Reads st (t ++ closing) whole) ∨
      ((∀ whole, ¬ Reads (st.below [anchorGroup engine ignoreCase]) (t ++ closing) whole) ∧
        Reads st (t ++ closing) part) := by
  -- at the end of the text, the group around it is still open
  have hopen {st : State} {t : Text} (hskip : skip st.flags.verbose t = []) (whole : Part) :
      ¬ Reads (st.below [anchorGroup engine ignoreCase]) t whole := by
    have hskip' : skip (st.below [anchorGroup engine ignoreCase]).flags.verbose t = [] := hskip
    rw [reads_of_skip_nil hskip', State.finish_below]
    intro h
    cases h
  induction h with
  | @done st t part hskip hfinish =>
      rcases skip_append closing_mem_endings st.flags.verbose t with hskip' | ⟨-, hskip'⟩
      · rw [hskip, List.nil_append] at hskip'
        have hself := skip_ending_self closing_mem_endings st.flags.verbose
        have hleave : st.leave = .error .unopenedGroup := by
          unfold State.finish at hfinish
          split_ifs at hfinish with hgroups
          rw [State.leave, List.isEmpty_iff.mp hgroups]
        refine .inl ⟨fun whole => ?_, fun whole h => ?_⟩
        · rw [← reads_below_closing hfinish engine ignoreCase]
          exact reads_congr_skip (hskip'.trans hself.symm)
        · obtain ⟨st', rest, htake, -⟩ := (reads_of_skip hskip').mp h
          rw [take_close, hleave] at htake
          cases htake
      · exact .inr ⟨hopen hskip', .done hskip' hfinish⟩
  | @more st st' t u rest c part hskip htake hmore ih =>
      have hskip' := skip_append_of_cons closing hskip
      -- what comes of the rest comes of the text, with the group around it and without
      have hnext {rest' : Text} (htake : ∀ gs, take (st.below gs) c (u ++ closing) =
          .ok (st'.below gs, rest')) (gs : List OpenGroup) (whole : Part) :
          Reads (st.below gs) (t ++ closing) whole ↔ Reads (st'.below gs) rest' whole :=
        reads_of_take hskip' (htake gs)
      have hnext' {rest' : Text} (htake : ∀ gs, take (st.below gs) c (u ++ closing) =
          .ok (st'.below gs, rest')) (whole : Part) :
          Reads st (t ++ closing) whole ↔ Reads st' rest' whole := by
        have h := hnext htake [] whole
        rwa [State.below_nil, State.below_nil] at h
      rcases take_append closing_mem_endings htake with htake' | ⟨rfl, htake'⟩
      · simp only [hnext htake', hnext' htake']
        exact ih
      · simp only [hnext htake', hnext' htake']
        exact .inr ⟨hopen (skip_nil _), hmore⟩

/-- A text between anchors is read as the text in a group that is open, and the closing. -/
theorem read_grouped_iff {engine : Engine} {ignoreCase : Bool} {source : Text} {whole : Part} :
    read (engine.flags ignoreCase) (['^', '(', '?', ':'] ++ source ++ closing) = .ok whole ↔
      Reads (State.below { flags := engine.flags ignoreCase } [anchorGroup engine ignoreCase])
        (source ++ closing) whole := by
  have hopen : take (State.push { flags := engine.flags ignoreCase }
      { regex := assert .textStart, depth := 0 }) '(' ('?' :: ':' :: (source ++ closing)) =
      .ok (State.below { flags := engine.flags ignoreCase } [anchorGroup engine ignoreCase],
        source ++ closing) := rfl
  rw [read_eq_ok_iff, List.append_assoc]
  exact (reads_of_take rfl rfl).trans (reads_of_take rfl hopen)

/-- **An expression between anchors is read as one part**, unless it ends in a comment. -/
theorem read_enclosed {engine : Engine} {ignoreCase : Bool} {source : Text} {part : Part}
    (h : read (engine.flags ignoreCase) source = .ok part) (whole : Part) :
    read (engine.flags ignoreCase) (['^', '(', '?', ':'] ++ source ++ closing) = .ok whole ↔
      whole = part.anchored ∧ ¬ EndsInComment (engine.flags ignoreCase) source := by
  rw [read_grouped_iff, EndsInComment]
  simp only [read_eq_ok_iff]
  rcases (read_eq_ok_iff.mp h).enclosed engine ignoreCase with ⟨hwhole, hnot⟩ | ⟨hnot, hreads⟩
  · rw [hwhole]
    exact (and_iff_left fun ⟨part, hreads⟩ => hnot part hreads).symm
  · constructor
    · intro hwhole
      exact absurd hwhole (hnot whole)
    · intro hwhole
      exact absurd ⟨part, hreads⟩ hwhole.2

end UriRouting.Regex
