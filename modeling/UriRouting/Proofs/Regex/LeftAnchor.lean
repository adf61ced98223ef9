import UriRouting.Proofs.Regex.Enclosed
import UriRouting.Proofs.Regex.Levels

/-!
# UriRouting.Proofs.Regex.LeftAnchor

An expression with the left anchor before it, and the expression without. The reader goes through
both in step. Its states differ in the first part of the first branch, outside of all groups, which
is the anchor (`State.Led`), and only a repetition of nothing tells them apart.

`Reads.of_caret` has the outcome. What is read with the anchor is read without, and it matches the
same texts from their starts (`SameFromStart`). The exception is an expression that starts with
the mark of a repetition, which is one of the anchor then.
-/

namespace UriRouting.Regex

/-- The parts of two readings match the same texts from their starts. -/
def SameFromStart (part part' : Part) : Prop :=
  ∀ t u, part'.regex.Matches [] t u ↔ part.regex.Matches [] t u

/-- The part that comes of the left anchor. -/
def startPart : Part :=
  { regex := assert .textStart, depth := 0 }

/-! ### States in step -/

/-- The second level has the anchor as the first part of its first branch. -/
inductive Level.Led : Level → Level → Prop where
  | first (parts : List Part) : Led ⟨[], parts⟩ ⟨[], parts ++ [startPart]⟩
  | later (branches parts : List Part) {branch branch' : Part}
      (h : SameFromStart branch branch') :
      Led ⟨branches ++ [branch], parts⟩ ⟨branches ++ [branch'], parts⟩

namespace Level.Led

variable {l l' : Level}

theorem push (h : l.Led l') (part : Part) : (l.push part).Led (l'.push part) := by
  cases h with
  | first parts => exact .first (part :: parts)
  | later branches parts h => exact .later branches (part :: parts) h

theorem branch (h : l.Led l') : SameFromStart l.branch l'.branch := by
  cases h with
  | first parts =>
      intro t u
      exact matches_branch_concat [] parts fun _ => rfl
  | later branches parts h =>
      intro t u
      exact Iff.rfl

theorem nextBranch (h : l.Led l') :
    Level.Led { branches := l.branch :: l.branches } { branches := l'.branch :: l'.branches } := by
  cases h with
  | first parts => exact .later [] [] (Led.first parts).branch
  | later branches parts h => exact .later (_ :: branches) [] h

theorem close (h : l.Led l') : SameFromStart l.close l'.close := by
  intro t u
  rw [matches_close, matches_close]
  refine or_congr (h.branch t u) ?_
  cases h with
  | first parts => exact Iff.rfl
  | later branches parts h => simp [or_and_right, exists_or, h t u]

end Level.Led

/-- The second state has the anchor as its first part, outside of all groups. -/
inductive State.Led : State → State → Prop where
  | outside (flags : Flags) (names : List Text) {l l' : Level} (h : l.Led l') :
      Led ⟨flags, l, [], names⟩ ⟨flags, l', [], names⟩
  | inside (flags : Flags) (names : List Text) (l : Level) (groups : List OpenGroup)
      (name : Option Text) (outer : Flags) {o o' : Level} (h : o.Led o') :
      Led ⟨flags, l, groups ++ [⟨name, outer, o⟩], names⟩
        ⟨flags, l, groups ++ [⟨name, outer, o'⟩], names⟩

/-- Something has been read already. -/
def State.Started (st : State) : Prop :=
  st.level.parts ≠ [] ∨ st.level.branches ≠ [] ∨ st.groups ≠ []

namespace State.Led

variable {st st' st₁ st₁' : State}

theorem flags_eq (h : st.Led st') : st'.flags = st.flags := by
  cases h <;> rfl

theorem names_eq (h : st.Led st') : st'.names = st.names := by
  cases h <;> rfl

theorem setFlags (h : st.Led st') (flags : Flags) :
    State.Led { st with flags := flags } { st' with flags := flags } := by
  cases h with
  | outside _ names h => exact .outside flags names h
  | inside _ names l groups name outer h => exact .inside flags names l groups name outer h

theorem push (h : st.Led st') (part : Part) : (st.push part).Led (st'.push part) := by
  cases h with
  | outside flags names h => exact .outside flags names (h.push part)
  | inside flags names l groups name outer h =>
      exact .inside flags names (l.push part) groups name outer h

theorem nextBranch (h : st.Led st') : st.nextBranch.Led st'.nextBranch := by
  cases h with
  | outside flags names h => exact .outside flags names h.nextBranch
  | inside flags names l groups name outer h => exact .inside flags names _ groups name outer h

theorem enter (h : st.Led st') (name : Option Text) (flags : Flags) :
    (st.enter name flags).Led (st'.enter name flags) := by
  cases h with
  | outside outer names h => exact .inside flags (name.toList ++ names) {} [] name outer h
  | inside outer names l groups name' outer' h =>
      exact .inside flags (name.toList ++ names) {} (⟨name, outer, l⟩ :: groups) name' outer' h

theorem leave (h : st.Led st₁) (hleave : st₁.leave = .ok st₁') :
    ∃ st', st.leave = .ok st' ∧ st'.Led st₁' := by
  cases h with
  | outside flags names h => cases hleave
  | inside flags names l groups name outer h =>
      cases groups with
      | nil =>
          cases hleave
          exact ⟨_, rfl, .outside outer names (h.push _)⟩
      | cons g groups =>
          cases hleave
          exact ⟨_, rfl, .inside g.flags names _ groups name outer h⟩

/-- Where something has been read, the last part is the same in both states. -/
theorem repeatLast (h : st.Led st₁) (hstarted : st.Started) {least : Nat} {most : Option Nat}
    {greedy : Bool} (hrepeat : st₁.repeatLast least most greedy = .ok st₁') :
    ∃ st', st.repeatLast least most greedy = .ok st' ∧ st'.Led st₁' := by
  unfold State.repeatLast at hrepeat ⊢
  cases h with
  | outside flags names h =>
      cases h with
      | first parts =>
          cases parts with
          | nil => simp [State.Started] at hstarted
          | cons part parts =>
              dsimp only [List.cons_append] at hrepeat ⊢
              split_ifs at hrepeat ⊢
              cases hrepeat
              exact ⟨_, rfl, .outside flags names (.first (_ :: parts))⟩
      | later branches parts h =>
          cases parts with
          | nil => cases hrepeat
          | cons part parts =>
              dsimp only at hrepeat ⊢
              split_ifs at hrepeat ⊢
              cases hrepeat
              exact ⟨_, rfl, .outside flags names (.later branches (_ :: parts) h)⟩
  | inside flags names l groups name outer h =>
      cases hparts : l.parts with
      | nil =>
          simp only [hparts] at hrepeat
          cases hrepeat
      | cons part parts =>
          simp only [hparts] at hrepeat ⊢
          split_ifs at hrepeat ⊢
          cases hrepeat
          exact ⟨_, rfl, .inside flags names _ groups name outer h⟩

theorem finish (h : st.Led st₁) {part' : Part} (hfinish : st₁.finish = .ok part') :
    ∃ part, st.finish = .ok part ∧ SameFromStart part part' := by
  cases h with
  | outside flags names h =>
      cases hfinish
      exact ⟨_, rfl, h.close⟩
  | inside flags names l groups name outer h => simp [State.finish] at hfinish

end State.Led

/-! ### Rounds in step -/

variable {st st₁ st₁' : State}

/-- The action puts the last part under a repetition. -/
def Action.IsRepetition : Action → Prop
  | repeatLast _ _ _ => True
  | _ => False

/-- What can be done with the anchor can be done without, but for a repetition of the anchor. -/
theorem Action.perform_led {action : Action} (h : st.Led st₁)
    (hstarted : action.IsRepetition → st.Started)
    (hperform : action.perform st₁ = .ok st₁') :
    ∃ st', action.perform st = .ok st' ∧ st'.Led st₁' := by
  cases action with
  | push part =>
      cases hperform
      exact ⟨_, rfl, h.push part⟩
  | set flags =>
      cases hperform
      exact ⟨_, rfl, (h.setFlags flags).push _⟩
  | enter name flags =>
      cases hperform
      exact ⟨_, rfl, h.enter name flags⟩
  | leave => exact h.leave hperform
  | nextBranch =>
      cases hperform
      exact ⟨_, rfl, h.nextBranch⟩
  | repeatLast least most greedy => exact h.repeatLast (hstarted trivial) hperform

/-- After an action, something has been read. -/
theorem Action.started_of_perform {action : Action} {st' : State}
    (h : action.perform st = .ok st') : st'.Started := by
  cases action with
  | push part =>
      cases h
      exact .inl (List.cons_ne_nil _ _)
  | set flags =>
      cases h
      exact .inl (List.cons_ne_nil _ _)
  | enter name flags =>
      cases h
      exact .inr (.inr (List.cons_ne_nil _ _))
  | leave =>
      rw [perform, State.leave] at h
      cases hgroups : st.groups with
      | nil =>
          rw [hgroups] at h
          cases h
      | cons g groups =>
          rw [hgroups] at h
          cases h
          exact .inl (List.cons_ne_nil _ _)
  | nextBranch =>
      cases h
      exact .inr (.inl (List.cons_ne_nil _ _))
  | repeatLast least most greedy =>
      rw [perform, State.repeatLast] at h
      cases hparts : st.level.parts with
      | nil =>
          rw [hparts] at h
          cases h
      | cons part parts =>
          rw [hparts] at h
          dsimp only at h
          split_ifs at h
          cases h
          exact .inl (List.cons_ne_nil _ _)

/-- The marks that start a repetition. -/
def repetitionMarks : Text :=
  ['?', '*', '+', '{']

theorem mem_repetitionMarks {c : Char} :
    c ∈ repetitionMarks ↔ c = '?' ∨ c = '*' ∨ c = '+' ∨ c = '{' := by
  simp [repetitionMarks]

/-- An opening bracket starts no repetition. -/
theorem not_isRepetition_of_readOpening {fs : Flags} {names : List Text} {t rest : Text}
    {action : Action} (h : readOpening fs names t = .ok (action, rest)) :
    ¬ action.IsRepetition := by
  by_cases hhead : t.head? = some '?'
  · obtain ⟨u, rfl⟩ := List.head?_eq_some_iff.mp hhead
    rw [readOpening_mark] at h
    split_ifs at h
    cases hname : nameFrom? u with
    | some v =>
        rw [hname] at h
        obtain ⟨name, -, haction⟩ := making_eq_ok_iff.mp h
        cases haction
        exact id
    | none =>
        rw [hname] at h
        obtain ⟨settings, -, haction⟩ := making_eq_ok_iff.mp h
        unfold settingsAction at haction
        split_ifs at haction
        · cases haction
          exact id
        · cases haction
          exact id
  · rw [readOpening_plain fs names hhead] at h
    cases h
    exact id

/-- A round reads a repetition on one of the marks. -/
theorem isRepetition_iff {fs : Flags} {names : List Text} {c : Char} {t rest : Text}
    {action : Action} (h : readAction fs names c t = .ok (action, rest)) :
    action.IsRepetition ↔ c ∈ repetitionMarks := by
  cases hoperator : isOperator c with
  | false =>
      rw [readAction_smallest fs names hoperator] at h
      obtain ⟨primitive, -, haction⟩ := making_eq_ok_iff.mp h
      obtain ⟨regex, -, rfl⟩ := map_eq_ok.mp haction
      refine iff_of_false id fun hc => ?_
      rcases mem_repetitionMarks.mp hc with rfl | rfl | rfl | rfl <;> cases hoperator
  | true =>
      rcases isOperator_iff.mp hoperator with rfl | rfl | rfl | rfl | rfl | rfl | rfl | rfl
      · exact iff_of_false (not_isRepetition_of_readOpening h) (by decide)
      · cases h
        exact iff_of_false id (by decide)
      · cases h
        exact iff_of_false id (by decide)
      · obtain ⟨part, -, haction⟩ := making_eq_ok_iff.mp h
        cases haction
        exact iff_of_false id (by decide)
      · cases h
        exact iff_of_true trivial (by decide)
      · cases h
        exact iff_of_true trivial (by decide)
      · cases h
        exact iff_of_true trivial (by decide)
      · obtain ⟨bounds, -, heq⟩ := map_eq_ok.mp h
        cases heq
        exact iff_of_true trivial (by decide)

/-- **A round that is taken with the anchor is taken without**, but for a repetition of the
anchor. -/
theorem State.Led.take (h : st.Led st₁) {c : Char} {t rest : Text}
    (hstarted : c ∈ repetitionMarks → st.Started)
    (htake : Regex.take st₁ c t = .ok (st₁', rest)) :
    ∃ st', Regex.take st c t = .ok (st', rest) ∧ st'.Led st₁' ∧ st'.Started := by
  obtain ⟨action, hread, hperform⟩ := take_eq_ok_iff.mp htake
  rw [h.flags_eq, h.names_eq] at hread
  obtain ⟨st', hperform', h'⟩ := Action.perform_led h
    (fun hrepeat => hstarted ((isRepetition_iff hread).mp hrepeat)) hperform
  exact ⟨st', take_eq_ok_iff.mpr ⟨action, hread, hperform'⟩, h',
    Action.started_of_perform hperform'⟩

/-! ### Whole expressions -/

/-- The two readings stay in step to the end, by induction on the rounds. -/
theorem Reads.of_led {t : Text} {part' : Part} (h : Reads st₁ t part') (hled : st.Led st₁)
    (hstarted : st.Started) : ∃ part, Reads st t part ∧ SameFromStart part part' := by
  induction h generalizing st with
  | done hskip hfinish =>
      obtain ⟨part, hfinish', hsame⟩ := hled.finish hfinish
      exact ⟨part, .done (hled.flags_eq ▸ hskip) hfinish', hsame⟩
  | more hskip htake _ ih =>
      obtain ⟨st', htake', hled', hstarted'⟩ := hled.take (fun _ => hstarted) htake
      obtain ⟨part, hreads, hsame⟩ := ih hled' hstarted'
      exact ⟨part, .more (hled.flags_eq ▸ hskip) htake' hreads, hsame⟩

/-- **An expression that is read with the left anchor before it is read without**, and then it
matches the same texts from their starts. The exception is the mark of a repetition at its
start. -/
theorem Reads.of_caret {engine : Engine} {ignoreCase : Bool} {t : Text} {part' : Part}
    (h : Reads { flags := engine.flags ignoreCase } ('^' :: t) part') :
    (∃ part, Reads { flags := engine.flags ignoreCase } t part ∧ SameFromStart part part') ∨
      ∃ c ∈ repetitionMarks, ∃ u, t = c :: u := by
  have hled : State.Led { flags := engine.flags ignoreCase }
      (State.push { flags := engine.flags ignoreCase } startPart) :=
    .outside (engine.flags ignoreCase) [] (.first [])
  have hcaret : take { flags := engine.flags ignoreCase } '^' t =
      .ok (State.push { flags := engine.flags ignoreCase } startPart, t) := rfl
  have h := (reads_of_take rfl hcaret).mp h
  cases t with
  | nil =>
      obtain ⟨part, hfinish, hsame⟩ := hled.finish ((reads_of_skip_nil rfl).mp h)
      exact .inl ⟨part, .done rfl hfinish, hsame⟩
  | cons c u =>
      by_cases hc : c ∈ repetitionMarks
      · exact .inr ⟨c, hc, u, rfl⟩
      · obtain ⟨st', rest, htake, h⟩ := (reads_of_skip rfl).mp h
        obtain ⟨st, htake', hled', hstarted⟩ := hled.take (fun hmark => absurd hmark hc) htake
        obtain ⟨part, hreads, hsame⟩ := h.of_led hled' hstarted
        exact .inl ⟨part, .more rfl htake' hreads, hsame⟩

/-- There is no repetition of nothing. -/
theorem not_reads_repetition {c : Char} (hc : c ∈ repetitionMarks) (hempty : st.level.parts = [])
    {t : Text} {whole : Part} : ¬ Reads st (c :: t) whole := by
  have hskip : skip st.flags.verbose (c :: t) = c :: t := by
    rcases mem_repetitionMarks.mp hc with rfl | rfl | rfl | rfl <;> cases st.flags.verbose <;> rfl
  intro h
  obtain ⟨st', rest, htake, -⟩ := (reads_of_skip hskip).mp h
  obtain ⟨action, hread, hperform⟩ := take_eq_ok_iff.mp htake
  have hrepeat := (isRepetition_iff hread).mpr hc
  cases action with
  | repeatLast least most greedy => simp [Action.perform, State.repeatLast, hempty] at hperform
  | _ => exact hrepeat

end UriRouting.Regex
