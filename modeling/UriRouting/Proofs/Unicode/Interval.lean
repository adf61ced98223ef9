import UriRouting.Proofs.Unicode.Folding

/-!
# UriRouting.Proofs.Unicode.Interval

What intervals of code points contain.

* `Interval.anyContains_union_iff`, `Interval.anyContains_gaps_iff` — putting intervals together and
  leaving them out;
* `Span.anyContains_intervals_iff` — a span as intervals;
* `Interval.anyContains_fold_iff` — closing intervals under a case mapping adds what the mapping
  does not tell apart from their code points (`IsFold`).

The intervals stay in ascending order with gaps between them all the while (`Interval.Apart`). So
they are as few as the code points allow.
-/

namespace UriRouting.Unicode

namespace Interval

/-! ### Intervals with gaps between them -/

/-- Intervals in ascending order, none of them empty, with gaps between them. -/
structure Apart (ivs : List Interval) : Prop where
  /-- None is empty. -/
  nonempty : ∀ iv ∈ ivs, iv.first ≤ iv.last
  /-- There are code points between two of them. -/
  gaps : ivs.Pairwise fun iv iv' => iv.last + 1 < iv'.first

theorem contains_iff {iv : Interval} {n : Nat} :
    iv.contains n = true ↔ iv.first ≤ n ∧ n ≤ iv.last := by
  simp [contains]

theorem contains_single {m n : Nat} : (single m).contains n = true ↔ n = m := by
  rw [contains_iff]
  simp only [single]
  omega

theorem anyContains_iff {ivs : List Interval} {n : Nat} :
    anyContains ivs n = true ↔ ∃ iv ∈ ivs, iv.contains n = true :=
  List.any_eq_true

theorem not_anyContains_nil {n : Nat} : ¬ anyContains [] n = true :=
  Bool.false_ne_true

theorem anyContains_cons_iff {iv : Interval} {ivs : List Interval} {n : Nat} :
    anyContains (iv :: ivs) n = true ↔
      (iv.first ≤ n ∧ n ≤ iv.last) ∨ anyContains ivs n = true := by
  rw [anyContains, List.any_cons, Bool.or_eq_true, contains_iff]
  rfl

theorem apart_nil : Apart [] :=
  ⟨by simp, .nil⟩

theorem apart_cons_iff {iv : Interval} {ivs : List Interval} : Apart (iv :: ivs) ↔
    iv.first ≤ iv.last ∧ (∀ iv' ∈ ivs, iv.last + 1 < iv'.first) ∧ Apart ivs := by
  constructor
  · intro h
    have hgaps := List.pairwise_cons.mp h.gaps
    have hnonempty := List.forall_mem_cons.mp h.nonempty
    exact ⟨hnonempty.1, hgaps.1, hnonempty.2, hgaps.2⟩
  · rintro ⟨hiv, hbehind, h⟩
    exact ⟨List.forall_mem_cons.mpr ⟨hiv, h.nonempty⟩, List.pairwise_cons.mpr ⟨hbehind, h.gaps⟩⟩

theorem anyContains_insert_iff {iv : Interval} {ivs : List Interval} (hiv : iv.first ≤ iv.last)
    (hivs : ∀ iv' ∈ ivs, iv'.first ≤ iv'.last) (n : Nat) :
    anyContains (insert iv ivs) n = true ↔
      (iv.first ≤ n ∧ n ≤ iv.last) ∨ anyContains ivs n = true := by
  induction ivs generalizing iv with
  | nil => exact anyContains_cons_iff
  | cons iv' ivs ih =>
      obtain ⟨hiv', hivs⟩ := List.forall_mem_cons.mp hivs
      rw [insert]
      split
      · exact anyContains_cons_iff
      · split
        · rw [anyContains_cons_iff, anyContains_cons_iff, ih hiv hivs]
          exact or_left_comm
        · have hle : min iv.first iv'.first ≤ max iv.last iv'.last := by
            omega
          rw [@ih ⟨_, _⟩ hle hivs, anyContains_cons_iff, ← or_assoc]
          refine or_congr_left ?_
          simp only
          omega

/-- An interval that is put among others stays behind what is before them all. -/
theorem lt_first_insert {bound : Nat} {iv : Interval} {ivs : List Interval}
    (hiv : bound < iv.first) (hivs : ∀ iv' ∈ ivs, bound < iv'.first) :
    ∀ iv' ∈ insert iv ivs, bound < iv'.first := by
  induction ivs generalizing iv with
  | nil => exact List.forall_mem_singleton.mpr hiv
  | cons iv' ivs ih =>
      obtain ⟨hiv', hivs'⟩ := List.forall_mem_cons.mp hivs
      rw [insert]
      split
      · exact List.forall_mem_cons.mpr ⟨hiv, hivs⟩
      · split
        · exact List.forall_mem_cons.mpr ⟨hiv', ih hiv hivs'⟩
        · exact ih (Nat.lt_min.mpr ⟨hiv, hiv'⟩) hivs'

theorem Apart.insert {iv : Interval} {ivs : List Interval} (hivs : Apart ivs)
    (hiv : iv.first ≤ iv.last) : Apart (insert iv ivs) := by
  induction ivs generalizing iv with
  | nil => exact apart_cons_iff.mpr ⟨hiv, by simp, apart_nil⟩
  | cons iv' ivs ih =>
      obtain ⟨hiv', hbehind, hivs'⟩ := apart_cons_iff.mp hivs
      rw [Interval.insert]
      split
      · rename_i hbefore
        refine apart_cons_iff.mpr ⟨hiv, List.forall_mem_cons.mpr ⟨hbefore, ?_⟩, hivs⟩
        intro other hother
        have hlt := hbehind other hother
        omega
      · split
        · rename_i hlt
          exact apart_cons_iff.mpr ⟨hiv', lt_first_insert hlt hbehind, ih hivs' hiv⟩
        · exact ih hivs' (by simp only; omega)

theorem Apart.union {ivs ivs' : List Interval} (hivs' : Apart ivs')
    (hivs : ∀ iv ∈ ivs, iv.first ≤ iv.last) : Apart (union ivs ivs') := by
  induction ivs with
  | nil => exact hivs'
  | cons iv ivs ih =>
      obtain ⟨hiv, hivs⟩ := List.forall_mem_cons.mp hivs
      exact (ih hivs).insert hiv

theorem anyContains_union_iff {ivs ivs' : List Interval} (hivs : ∀ iv ∈ ivs, iv.first ≤ iv.last)
    (hivs' : Apart ivs') (n : Nat) :
    anyContains (union ivs ivs') n = true ↔
      anyContains ivs n = true ∨ anyContains ivs' n = true := by
  induction ivs with
  | nil => simp [union, anyContains]
  | cons iv ivs ih =>
      obtain ⟨hiv, hivs⟩ := List.forall_mem_cons.mp hivs
      have hunion : union (iv :: ivs) ivs' = insert iv (union ivs ivs') := rfl
      rw [hunion, anyContains_insert_iff hiv (hivs'.union hivs).nonempty, ih hivs,
        anyContains_cons_iff, or_assoc]

/-! ### Gaps -/

theorem anyContains_gaps_iff {start : Nat} {ivs : List Interval} (hivs : Apart ivs)
    (hstart : ∀ iv ∈ ivs, start ≤ iv.first) {n : Nat} (hn : n ≤ maxCodePoint) :
    anyContains (gaps start ivs) n = true ↔ start ≤ n ∧ ¬ anyContains ivs n = true := by
  induction ivs generalizing start with
  | nil =>
      rw [gaps]
      split
      · rw [anyContains_cons_iff]
        simp [not_anyContains_nil, hn]
      · refine iff_of_false not_anyContains_nil ?_
        omega
  | cons iv ivs ih =>
      obtain ⟨hiv, hbehind, hivs⟩ := apart_cons_iff.mp hivs
      obtain ⟨hfirst, -⟩ := List.forall_mem_cons.mp hstart
      have hrest := ih hivs (fun iv' hiv' => Nat.le_of_lt (hbehind iv' hiv'))
      -- what is before the interval is in no later one either
      have hnone (h : n < iv.first) : ¬ anyContains ivs n = true := by
        rw [anyContains_iff]
        rintro ⟨iv', hiv', hcontains⟩
        have hlt := hbehind iv' hiv'
        have hle := (contains_iff.mp hcontains).1
        omega
      rw [gaps, anyContains_cons_iff]
      split
      · rw [anyContains_cons_iff, hrest]
        simp only
        grind
      · rw [hrest]
        grind

theorem le_first_gaps {start : Nat} {ivs : List Interval} (hivs : Apart ivs)
    (hstart : ∀ iv ∈ ivs, start ≤ iv.first) : ∀ iv ∈ gaps start ivs, start ≤ iv.first := by
  induction ivs generalizing start with
  | nil =>
      rw [gaps]
      split
      · exact List.forall_mem_singleton.mpr (Nat.le_refl start)
      · simp
  | cons iv ivs ih =>
      obtain ⟨hiv, hbehind, hivs⟩ := apart_cons_iff.mp hivs
      have hfirst := (List.forall_mem_cons.mp hstart).1
      have hrest : ∀ iv' ∈ gaps (iv.last + 1) ivs, start ≤ iv'.first := by
        intro iv' hiv'
        have hle := ih hivs (fun other hother => Nat.le_of_lt (hbehind other hother)) iv' hiv'
        omega
      rw [gaps]
      split
      · exact List.forall_mem_cons.mpr ⟨Nat.le_refl start, hrest⟩
      · exact hrest

theorem Apart.gapsFrom {start : Nat} {ivs : List Interval} (hivs : Apart ivs)
    (hstart : ∀ iv ∈ ivs, start ≤ iv.first) : Apart (Interval.gaps start ivs) := by
  induction ivs generalizing start with
  | nil =>
      rw [Interval.gaps]
      split
      · rename_i hle
        exact apart_cons_iff.mpr ⟨hle, by simp, apart_nil⟩
      · exact apart_nil
  | cons iv ivs ih =>
      obtain ⟨hiv, hbehind, hivs⟩ := apart_cons_iff.mp hivs
      have hstart' : ∀ iv' ∈ ivs, iv.last + 1 ≤ iv'.first :=
        fun iv' hiv' => Nat.le_of_lt (hbehind iv' hiv')
      rw [Interval.gaps]
      split
      · rename_i hlt
        refine apart_cons_iff.mpr ⟨by simp only; omega, fun iv' hiv' => ?_, ih hivs hstart'⟩
        have hle := le_first_gaps hivs hstart' iv' hiv'
        simp only
        omega
      · exact ih hivs hstart'

/-- The gaps of all code points. -/
theorem Apart.compl {ivs : List Interval} (hivs : Apart ivs) : Apart (Interval.gaps 0 ivs) :=
  hivs.gapsFrom fun iv _ => Nat.zero_le iv.first

theorem anyContains_compl_iff {ivs : List Interval} (hivs : Apart ivs) {n : Nat}
    (hn : n ≤ maxCodePoint) :
    anyContains (gaps 0 ivs) n = true ↔ ¬ anyContains ivs n = true := by
  rw [anyContains_gaps_iff hivs (fun iv _ => Nat.zero_le iv.first) hn]
  exact and_iff_right (Nat.zero_le n)

end Interval

/-! ### Spans -/

namespace Span

theorem nonempty_intervals (s : Span) : ∀ iv ∈ s.intervals, iv.first ≤ iv.last := by
  rw [intervals]
  split
  · simp
  · rename_i hle
    split
    · exact List.forall_mem_singleton.mpr (Nat.le_of_not_lt hle)
    · exact List.forall_mem_map.mpr fun i _ => Nat.le_refl _

theorem contains_iff {s : Span} {n : Nat} :
    s.contains n = true ↔ s.first ≤ n ∧ n ≤ s.last ∧ (n - s.first) % s.step = 0 := by
  simp [contains, and_assoc]

/-- The code points of a span, counted from its first one. -/
theorem contains_iff_exists {s : Span} {n : Nat} (hs : s.first ≤ s.last) :
    s.contains n = true ↔
      ∃ i < (s.last - s.first) / s.step + 1, n = s.first + s.step * i := by
  rw [contains_iff]
  constructor
  · rintro ⟨hfirst, hlast, hstep⟩
    refine ⟨(n - s.first) / s.step, ?_, ?_⟩
    · exact Nat.lt_succ_of_le (Nat.div_le_div_right (by omega))
    · rw [Nat.mul_div_cancel' (Nat.dvd_of_mod_eq_zero hstep)]
      omega
  · rintro ⟨i, hi, rfl⟩
    have hle : s.step * i ≤ s.last - s.first :=
      Nat.le_trans (Nat.mul_le_mul_left s.step (Nat.le_of_lt_succ hi)) (Nat.mul_div_le _ _)
    refine ⟨Nat.le_add_right _ _, by omega, ?_⟩
    rw [Nat.add_sub_cancel_left, Nat.mul_mod_right]

/-- **The intervals of a span make it up.** -/
theorem anyContains_intervals_iff {s : Span} {n : Nat} :
    Interval.anyContains s.intervals n = true ↔ s.contains n = true := by
  rw [intervals]
  split
  · refine iff_of_false Interval.not_anyContains_nil ?_
    rw [contains_iff]
    omega
  · rename_i hle
    split
    · rename_i hstep
      rw [Interval.anyContains_cons_iff, contains_iff, hstep, Nat.mod_one]
      simp [Interval.anyContains]
    · rw [contains_iff_exists (Nat.le_of_not_lt hle), Interval.anyContains_iff]
      simp only [List.mem_map, List.mem_range]
      constructor
      · rintro ⟨_, ⟨i, hi, rfl⟩, hn⟩
        exact ⟨i, hi, Interval.contains_single.mp hn⟩
      · rintro ⟨i, hi, hn⟩
        exact ⟨_, ⟨i, hi, rfl⟩, Interval.contains_single.mpr hn⟩

end Span

/-! ### Runs of a case mapping -/

namespace CaseRun

variable {r : CaseRun} {iv : Interval} {n : Nat}

theorem contains_iff :
    r.contains n = true ↔ r.first ≤ n ∧ n ≤ r.last ∧ (n - r.first) % r.step = 0 := by
  simp [contains, and_assoc]

/-- The members of a run in an interval are a span. -/
theorem contains_members_iff (hr : 0 < r.step) :
    (r.members iv).contains n = true ↔ iv.contains n = true ∧ r.contains n = true := by
  have hround (i : Nat) : (iv.first - r.first + (r.step - 1)) / r.step ≤ i ↔
      iv.first - r.first ≤ r.step * i := by
    rw [Nat.div_le_iff_le_mul_add_pred hr]
    omega
  rw [Span.contains_iff, contains_iff, Interval.contains_iff, members]
  simp only
  generalize hk : (iv.first - r.first + (r.step - 1)) / r.step = k at hround
  have hle := (hround k).mp (Nat.le_refl k)
  rw [Nat.mul_comm k]
  constructor
  · rintro ⟨hfirst, hlast, hstep⟩
    have hsplit : n - r.first = (n - (r.first + r.step * k)) + r.step * k := by
      omega
    refine ⟨by omega, by omega, by omega, ?_⟩
    rw [hsplit, Nat.add_mul_mod_self_left, hstep]
  · rintro ⟨⟨hfirst, hlast⟩, hfirst', hlast', hstep⟩
    obtain ⟨i, hi⟩ := Nat.dvd_of_mod_eq_zero hstep
    have hki : k ≤ i := (hround i).mpr (by omega)
    have hmul := Nat.mul_le_mul_left r.step hki
    refine ⟨by omega, by omega, ?_⟩
    have hsub : n - (r.first + r.step * k) = r.step * (i - k) := by
      rw [Nat.mul_sub]
      omega
    rw [hsub, Nat.mul_mod_right]

/-- What a run maps the code points of an interval to. -/
theorem anyContains_images_iff (hr : 0 < r.step) :
    Interval.anyContains (r.images iv) n = true ↔
      ∃ m, iv.contains m = true ∧ r.contains m = true ∧ r.image m = n := by
  have hmembers (m : Nat) : iv.contains m = true ∧ r.contains m = true ∧ r.image m = n ↔
      (r.members iv).contains m = true ∧ r.image m = n := by
    rw [contains_members_iff hr, and_assoc]
  simp only [hmembers, images]
  -- of the members only these two facts are needed
  have hbegin : r.first ≤ (r.members iv).first := Nat.le_add_right _ _
  have hstep : (r.members iv).step = r.step := rfl
  generalize r.members iv = s at hbegin hstep
  split
  · refine iff_of_false Interval.not_anyContains_nil ?_
    rintro ⟨m, hm, -⟩
    rw [Span.contains_iff] at hm
    omega
  · rw [Span.anyContains_intervals_iff, Span.contains_iff, ← hstep]
    simp only [Span.contains_iff, image]
    constructor
    · rintro ⟨hfirst, hlast, hmod⟩
      refine ⟨n - r.target + r.first, ⟨by omega, by omega, ?_⟩, by omega⟩
      rw [← hmod]
      congr 1
      omega
    · rintro ⟨m, ⟨hfirst, hlast, hmod⟩, rfl⟩
      refine ⟨by omega, by omega, ?_⟩
      rw [← hmod]
      congr 1
      omega

/-- What a run maps to the code points of an interval. -/
theorem anyContains_sources_iff (hr : 0 < r.step) :
    Interval.anyContains (r.sources iv) n = true ↔
      r.contains n = true ∧ iv.contains (r.image n) = true := by
  rw [sources]
  split
  · refine iff_of_false Interval.not_anyContains_nil ?_
    rw [Interval.contains_iff, contains_iff, image]
    omega
  · rw [Span.anyContains_intervals_iff, contains_members_iff hr, contains_iff,
      Interval.contains_iff, Interval.contains_iff, image]
    simp only
    omega

theorem nonempty_images (r : CaseRun) (iv : Interval) :
    ∀ iv' ∈ r.images iv, iv'.first ≤ iv'.last := by
  rw [images]
  split
  · simp
  · exact Span.nonempty_intervals _

theorem nonempty_sources (r : CaseRun) (iv : Interval) :
    ∀ iv' ∈ r.sources iv, iv'.first ≤ iv'.last := by
  rw [sources]
  split
  · simp
  · exact Span.nonempty_intervals _

end CaseRun

/-! ### Closing intervals under a case mapping -/

/-- What some runs map a code point to. -/
def mapped (runs : List CaseRun) (n : Nat) : Nat :=
  (runs.find? (·.contains n)).elim n (·.image n)

/-- Runs of which no two map the same code point, and none maps an image. -/
structure IsFold (runs : List CaseRun) : Prop where
  /-- There is a distance between neighbours. -/
  step : ∀ r ∈ runs, 0 < r.step
  /-- What a run maps is mapped as the run does it. -/
  mapped_eq : ∀ r ∈ runs, ∀ n, r.contains n = true → mapped runs n = r.image n
  /-- Images are not mapped any further. -/
  mapped_image : ∀ r ∈ runs, ∀ n, r.contains n = true → mapped runs (r.image n) = r.image n

variable {runs : List CaseRun}

theorem mapped_eq_self {n : Nat} (h : ∀ r ∈ runs, ¬ r.contains n = true) : mapped runs n = n := by
  rw [mapped, List.find?_eq_none.mpr h]
  rfl

/-- A code point is mapped by a run, or stays. -/
theorem exists_run_or_mapped_eq (runs : List CaseRun) (n : Nat) :
    (∃ r ∈ runs, r.contains n = true ∧ mapped runs n = r.image n) ∨
      (∀ r ∈ runs, ¬ r.contains n = true) ∧ mapped runs n = n := by
  cases hfind : runs.find? (·.contains n) with
  | none => exact .inr ⟨List.find?_eq_none.mp hfind, by simp [mapped, hfind]⟩
  | some r =>
      exact .inl ⟨r, List.mem_of_find?_eq_some hfind,
        List.find?_some (p := fun r : CaseRun => r.contains n) hfind, by simp [mapped, hfind]⟩

theorem anyContains_flatMap_iff {α : Type} {f : α → List Interval} {l : List α} {n : Nat} :
    Interval.anyContains (l.flatMap f) n = true ↔
      ∃ a ∈ l, Interval.anyContains (f a) n = true := by
  simp [Interval.anyContains, List.any_flatMap]

namespace Interval

open CaseRun (nonempty_images nonempty_sources)

theorem nonempty_flatMap {f : CaseRun → Interval → List Interval}
    (hf : ∀ r iv, ∀ iv' ∈ f r iv, iv'.first ≤ iv'.last) (runs : List CaseRun)
    (ivs : List Interval) :
    ∀ iv' ∈ ivs.flatMap fun iv => runs.flatMap (f · iv), iv'.first ≤ iv'.last := by
  intro iv' h
  obtain ⟨iv, -, h⟩ := List.mem_flatMap.mp h
  obtain ⟨r, -, h⟩ := List.mem_flatMap.mp h
  exact hf r iv iv' h

theorem Apart.fold (runs : List CaseRun) {ivs : List Interval} (hivs : Apart ivs) :
    Apart (fold runs ivs) :=
  (hivs.union (nonempty_flatMap nonempty_images runs ivs)).union
    (nonempty_flatMap nonempty_sources runs _)

theorem anyContains_flatMap_runs_iff {f : CaseRun → Interval → List Interval}
    {ivs : List Interval} {n : Nat} :
    anyContains (ivs.flatMap fun iv => runs.flatMap (f · iv)) n = true ↔
      ∃ iv ∈ ivs, ∃ r ∈ runs, anyContains (f r iv) n = true := by
  simp only [anyContains_flatMap_iff]

/-- What the runs map the code points of some intervals to. -/
theorem anyContains_images_iff (h : IsFold runs) {ivs : List Interval} {n : Nat} :
    anyContains (ivs.flatMap fun iv => runs.flatMap (·.images iv)) n = true ↔
      ∃ m, anyContains ivs m = true ∧ ∃ r ∈ runs, r.contains m = true ∧ r.image m = n := by
  rw [anyContains_flatMap_runs_iff]
  constructor
  · rintro ⟨iv, hiv, r, hr, hn⟩
    obtain ⟨m, hm, hrm, himage⟩ := (CaseRun.anyContains_images_iff (h.step r hr)).mp hn
    exact ⟨m, anyContains_iff.mpr ⟨iv, hiv, hm⟩, r, hr, hrm, himage⟩
  · rintro ⟨m, hm, r, hr, hrm, himage⟩
    obtain ⟨iv, hiv, hm⟩ := anyContains_iff.mp hm
    exact ⟨iv, hiv, r, hr,
      (CaseRun.anyContains_images_iff (h.step r hr)).mpr ⟨m, hm, hrm, himage⟩⟩

/-- What the runs map to code points of some intervals. -/
theorem anyContains_sources_iff (h : IsFold runs) {ivs : List Interval} {n : Nat} :
    anyContains (ivs.flatMap fun iv => runs.flatMap (·.sources iv)) n = true ↔
      ∃ r ∈ runs, r.contains n = true ∧ anyContains ivs (r.image n) = true := by
  rw [anyContains_flatMap_runs_iff]
  constructor
  · rintro ⟨iv, hiv, r, hr, hn⟩
    obtain ⟨hrn, himage⟩ := (CaseRun.anyContains_sources_iff (h.step r hr)).mp hn
    exact ⟨r, hr, hrn, anyContains_iff.mpr ⟨iv, hiv, himage⟩⟩
  · rintro ⟨r, hr, hrn, himage⟩
    obtain ⟨iv, hiv, himage⟩ := anyContains_iff.mp himage
    exact ⟨iv, hiv, r, hr, (CaseRun.anyContains_sources_iff (h.step r hr)).mpr ⟨hrn, himage⟩⟩

/-- **Intervals that are closed under a case mapping** have what it does not tell apart from their
code points. -/
theorem anyContains_fold_iff (h : IsFold runs) {ivs : List Interval} (hivs : Apart ivs) (n : Nat) :
    anyContains (fold runs ivs) n = true ↔
      ∃ m, anyContains ivs m = true ∧ mapped runs m = mapped runs n := by
  have himages := nonempty_flatMap nonempty_images runs ivs
  rw [fold, anyContains_union_iff (nonempty_flatMap nonempty_sources runs _) (hivs.union himages),
    anyContains_sources_iff h]
  -- the code points, and what they are mapped to
  generalize htargets : union (ivs.flatMap fun iv => runs.flatMap (·.images iv)) ivs = targets
  have hmem (t : Nat) : anyContains targets t = true ↔
      (∃ m, anyContains ivs m = true ∧ ∃ r ∈ runs, r.contains m = true ∧ r.image m = t) ∨
        anyContains ivs t = true := by
    rw [← htargets, anyContains_union_iff himages hivs, anyContains_images_iff h]
  have hback {t : Nat} (ht : anyContains targets t = true) :
      ∃ m, anyContains ivs m = true ∧ mapped runs m = mapped runs t := by
    rcases (hmem t).mp ht with ⟨m, hm, r, hr, hrm, rfl⟩ | ht
    · exact ⟨m, hm, by rw [h.mapped_eq r hr m hrm, h.mapped_image r hr m hrm]⟩
    · exact ⟨t, ht, rfl⟩
  constructor
  · rintro (⟨r, hr, hrn, himage⟩ | hn)
    · rw [h.mapped_eq r hr n hrn, ← h.mapped_image r hr n hrn]
      exact hback himage
    · exact hback hn
  · rintro ⟨m, hm, heq⟩
    have htarget : anyContains targets (mapped runs n) = true := by
      rw [hmem, ← heq]
      rcases exists_run_or_mapped_eq runs m with ⟨r, hr, hrm, himage⟩ | ⟨-, hstays⟩
      · exact .inl ⟨m, hm, r, hr, hrm, himage.symm⟩
      · exact .inr (by rwa [hstays])
    rcases exists_run_or_mapped_eq runs n with ⟨r, hr, hrn, himage⟩ | ⟨-, hstays⟩
    · exact .inl ⟨r, hr, hrn, by rwa [← himage]⟩
    · exact .inr (by rwa [← hstays])

end Interval

end UriRouting.Unicode
