import Mathlib.Data.List.Chain
import UriRouting.Proofs.Text.Case
import UriRouting.Proofs.Unicode.Interval

/-!
# UriRouting.Proofs.Unicode.CharSet

Sets of characters as intervals.

* `CharSet.anyContains_intervals` — the characters in the intervals of a set are its members;
* `CharSet.apart_intervals` — the intervals are in ascending order, with gaps between them.

The case is of two kinds, simple case folding and that of the letters of ASCII. Both come from runs
that are one behind the other and map no image (`AreKeptApart`).
-/

namespace UriRouting.Unicode

variable {runs : List CaseRun}

/-! ### Runs that are kept apart -/

/-- Whether a run maps no image of another one: those that lie between its members are at odds with
them. -/
def CaseRun.misses (r' r : CaseRun) : Bool :=
  r.target + (r.last - r.first) < r'.first || r'.last < r.target ||
    (r'.step == 2 && (r.step == 2 || r.first == r.last) && (r.target + r'.first) % 2 == 1)

/-- Whether a run maps characters only: its members lie on one side of the surrogates. -/
def CaseRun.startsValid (r : CaseRun) : Bool :=
  r.last < 0xD800 || (0xDFFF < r.first && r.last < 0x110000)

/-- Runs of characters one behind the other, none of which maps an image. -/
structure AreKeptApart (runs : List CaseRun) : Prop where
  /-- There is a distance between neighbours. -/
  step : runs.all (fun r => 0 < r.step) = true
  /-- One run is behind the other. -/
  behind : runs.IsChain fun r r' => r.last < r'.first ∧ r'.first ≤ r'.last
  /-- No run maps an image. -/
  misses : runs.all (fun r => runs.all fun r' => r'.misses r) = true
  /-- Characters are mapped. -/
  startsValid : runs.all CaseRun.startsValid = true
  /-- They are mapped to characters. -/
  staysValid : runs.all CaseRun.staysValid = true

namespace AreKeptApart

theorem eq_of_contains (h : AreKeptApart runs) {r r' : CaseRun} (hr : r ∈ runs) (hr' : r' ∈ runs)
    {n : Nat} (hn : r.contains n = true) (hn' : r'.contains n = true) : r = r' := by
  have htrans : IsTrans CaseRun fun r r' => r.last < r'.first ∧ r'.first ≤ r'.last :=
    ⟨fun _ _ _ h h' => ⟨by omega, h'.2⟩⟩
  let Same (r r' : CaseRun) : Prop := r.contains n = true → r'.contains n = true → r = r'
  have hsymm : Std.Symm Same := ⟨fun _ _ h hn hn' => (h hn' hn).symm⟩
  refine List.Pairwise.forall_of_forall (R := Same) (fun _ _ _ _ => rfl)
    ((List.isChain_iff_pairwise.mp h.behind).imp ?_) hr hr' hn hn'
  -- what a run maps is not behind its end
  intro r r' hbehind hn hn'
  rw [CaseRun.contains_iff] at hn hn'
  omega

theorem not_contains_image (h : AreKeptApart runs) {r r' : CaseRun} (hr : r ∈ runs)
    (hr' : r' ∈ runs) {n : Nat} (hn : r.contains n = true) : ¬ r'.contains (r.image n) = true := by
  have hmisses := List.all_eq_true.mp (List.all_eq_true.mp h.misses r hr) r' hr'
  simp only [CaseRun.misses, Bool.or_eq_true, Bool.and_eq_true, decide_eq_true_eq,
    beq_iff_eq] at hmisses
  rw [CaseRun.contains_iff] at hn
  rw [CaseRun.contains_iff, CaseRun.image]
  rintro ⟨hfirst, hlast, hstep⟩
  rcases hmisses with (hlt | hlt) | ⟨⟨htwo, hr⟩, hodd⟩
  · omega
  · omega
  · rw [htwo] at hstep
    rcases hr with hr | hr
    · rw [hr] at hn
      omega
    · omega

theorem isFold (h : AreKeptApart runs) : IsFold runs where
  step r hr := of_decide_eq_true (List.all_eq_true.mp h.step r hr)
  mapped_eq := by
    intro r hr n hn
    rcases exists_run_or_mapped_eq runs n with ⟨r', hr', hn', heq⟩ | ⟨hnone, -⟩
    · rw [heq, h.eq_of_contains hr' hr hn' hn]
    · exact absurd hn (hnone r hr)
  mapped_image r hr n hn := mapped_eq_self fun r' hr' => h.not_contains_image hr hr' hn

theorem toNat_applyRuns (h : AreKeptApart runs) (c : Char) :
    (applyRuns runs c).toNat = mapped runs c.toNat := by
  rw [applyRuns, mapped]
  cases hfind : runs.find? (·.contains c.toNat) with
  | none => rfl
  | some r =>
      exact CaseRun.toNat_image
        (List.all_eq_true.mp h.staysValid r (List.mem_of_find?_eq_some hfind))
        (List.find?_some (p := fun r : CaseRun => r.contains c.toNat) hfind)

/-- What is mapped like a character is the code point of a character. -/
theorem isValidChar_of_mapped_eq (h : AreKeptApart runs) {n : Nat} {c : Char}
    (hn : mapped runs n = mapped runs c.toNat) : n.isValidChar := by
  rcases exists_run_or_mapped_eq runs n with ⟨r, hr, hrn, -⟩ | ⟨-, heq⟩
  · have hvalid := List.all_eq_true.mp h.startsValid r hr
    simp only [CaseRun.startsValid, Bool.or_eq_true, Bool.and_eq_true,
      decide_eq_true_eq] at hvalid
    rw [CaseRun.contains_iff] at hrn
    simp only [Nat.isValidChar]
    omega
  · rw [← heq, hn, ← h.toNat_applyRuns]
    exact (applyRuns runs c).valid

/-- The characters in intervals that are closed under a case mapping. -/
theorem anyContains_fold_iff (h : AreKeptApart runs) {ivs : List Interval}
    (hivs : Interval.Apart ivs) {set : CharSet}
    (hset : ∀ d : Char, Interval.anyContains ivs d.toNat = set.contains d) (c : Char) :
    Interval.anyContains (Interval.fold runs ivs) c.toNat = true ↔
      ∃ d, applyRuns runs d = applyRuns runs c ∧ set.contains d = true := by
  rw [Interval.anyContains_fold_iff h.isFold hivs]
  constructor
  · rintro ⟨n, hn, heq⟩
    have hvalid := h.isValidChar_of_mapped_eq heq
    have htoNat : (Char.ofNat n).toNat = n := by
      rw [Char.ofNat, dif_pos hvalid]
      rfl
    refine ⟨Char.ofNat n, ?_, by rw [← hset, htoNat, hn]⟩
    rw [← Char.toNat_inj, h.toNat_applyRuns, h.toNat_applyRuns, htoNat, heq]
  · rintro ⟨d, heq, hd⟩
    refine ⟨d.toNat, by rw [hset, hd], ?_⟩
    rw [← h.toNat_applyRuns, ← h.toNat_applyRuns, heq]

end AreKeptApart

theorem areKeptApart_foldRuns : AreKeptApart foldRuns where
  step := by decide +kernel
  behind := by decide +kernel
  misses := by decide +kernel
  startsValid := by decide +kernel
  staysValid := foldRuns_staysValid

theorem areKeptApart_asciiRun : AreKeptApart [asciiRun] where
  step := by decide
  behind := by decide
  misses := by decide
  startsValid := by decide
  staysValid := by decide

/-! ### Sets -/

theorem applyRuns_asciiRun_eq (c : Char) : applyRuns [asciiRun] c = c.toLower := by
  rcases Nat.lt_or_ge c.toNat 0x80 with hc | hc
  · exact applyRuns_asciiRun hc
  · have hout : asciiRun.contains c.toNat = false := by
      rw [Bool.eq_false_iff, ne_eq, CaseRun.contains_iff]
      simp only [asciiRun]
      omega
    simp [applyRuns, hout, toLower_eq_self hc]

theorem eq_toLower_or_eq_toUpper (c : Char) : c = c.toLower ∨ c = c.toUpper :=
  of_isAscii_of_caseless (P := fun c => c = c.toLower ∨ c = c.toUpper) (by decide +kernel)
    (fun _ hupper _ => .inr hupper.symm) c

namespace CharSet

open Unicode.Interval (Apart anyContains)

/-- A set with the other case of its letters of ASCII has what its run does not tell apart from
its members. -/
theorem contains_asciiFolded_iff {set : CharSet} {c : Char} :
    (asciiFolded set).contains c = true ↔
      ∃ d, applyRuns [asciiRun] d = applyRuns [asciiRun] c ∧ set.contains d = true := by
  simp only [applyRuns_asciiRun_eq]
  rw [contains, Bool.or_eq_true, Bool.or_eq_true]
  constructor
  · rintro ((h | h) | h)
    · exact ⟨c, rfl, h⟩
    · exact ⟨c.toLower, Char.toLower_toLower_eq_toLower c, h⟩
    · exact ⟨c.toUpper, Char.toLower_toUpper_eq_toLower c, h⟩
  · rintro ⟨d, heq, hd⟩
    rcases eq_toLower_or_eq_toUpper d with hcase | hcase
    · rw [hcase, heq] at hd
      exact .inl (.inr hd)
    · rw [hcase, ← Char.toUpper_toLower_eq_toUpper, heq, Char.toUpper_toLower_eq_toUpper] at hd
      exact .inr hd

theorem toNat_le_maxCodePoint (c : Char) : c.toNat ≤ maxCodePoint := by
  have hvalid := c.valid
  simp only [UInt32.isValidChar, Nat.isValidChar] at hvalid
  simp only [maxCodePoint, Char.toNat]
  omega

theorem nonempty_tableIntervals (t : Table) :
    ∀ iv ∈ t.flatMap Span.intervals, iv.first ≤ iv.last := by
  intro iv hiv
  obtain ⟨s, -, hiv⟩ := List.mem_flatMap.mp hiv
  exact s.nonempty_intervals iv hiv

theorem apart_interIntervals {ivs ivs' : List Interval} (hivs : Apart ivs) (hivs' : Apart ivs') :
    Apart (interIntervals ivs ivs') :=
  (hivs'.compl.union hivs.compl.nonempty).compl

theorem apart_diffIntervals {ivs ivs' : List Interval} (hivs : Apart ivs) (hivs' : Apart ivs') :
    Apart (diffIntervals ivs ivs') :=
  (hivs'.union hivs.compl.nonempty).compl

/-- **The intervals of a set** are in ascending order, with gaps between them. -/
theorem apart_intervals (set : CharSet) : Apart set.intervals := by
  induction set with
  | table t => exact Interval.apart_nil.union (nonempty_tableIntervals t)
  | oneOf cs => exact Interval.apart_nil.union (List.forall_mem_map.mpr fun _ _ => Nat.le_refl _)
  | union a b iha ihb => exact ihb.union iha.nonempty
  | inter a b iha ihb => exact apart_interIntervals iha ihb
  | diff a b iha ihb => exact apart_diffIntervals iha ihb
  | symmDiff a b iha ihb =>
      exact (apart_diffIntervals ihb iha).union (apart_diffIntervals iha ihb).nonempty
  | compl a iha => exact iha.compl
  | folded a iha => exact iha.fold foldRuns
  | asciiFolded a iha => exact iha.fold [asciiRun]

section Operations

variable {ivs ivs' : List Interval} (hivs : Apart ivs) (hivs' : Apart ivs') (c : Char)

include hivs

theorem anyContains_compl :
    anyContains (Interval.gaps 0 ivs) c.toNat = !anyContains ivs c.toNat := by
  rw [Bool.eq_iff_iff, Interval.anyContains_compl_iff hivs (toNat_le_maxCodePoint c)]
  simp

include hivs'

theorem anyContains_union :
    anyContains (Interval.union ivs ivs') c.toNat =
      (anyContains ivs c.toNat || anyContains ivs' c.toNat) := by
  rw [Bool.eq_iff_iff, Interval.anyContains_union_iff hivs.nonempty hivs', Bool.or_eq_true]

theorem anyContains_interIntervals :
    anyContains (interIntervals ivs ivs') c.toNat =
      (anyContains ivs c.toNat && anyContains ivs' c.toNat) := by
  rw [interIntervals, anyContains_compl (hivs'.compl.union hivs.compl.nonempty),
    anyContains_union hivs.compl hivs'.compl, anyContains_compl hivs, anyContains_compl hivs']
  simp

theorem anyContains_diffIntervals :
    anyContains (diffIntervals ivs ivs') c.toNat =
      (anyContains ivs c.toNat && !anyContains ivs' c.toNat) := by
  rw [diffIntervals, anyContains_compl (hivs'.union hivs.compl.nonempty),
    anyContains_union hivs.compl hivs', anyContains_compl hivs]
  simp

end Operations

/-- **The characters in the intervals of a set are its members.** -/
theorem anyContains_intervals (set : CharSet) (c : Char) :
    anyContains set.intervals c.toNat = set.contains c := by
  induction set generalizing c with
  | table t =>
      rw [Bool.eq_iff_iff, intervals, contains, Table.contains,
        Interval.anyContains_union_iff (nonempty_tableIntervals t) Interval.apart_nil,
        anyContains_flatMap_iff, List.any_eq_true, or_iff_left (by simp [anyContains])]
      simp only [Span.anyContains_intervals_iff]
  | oneOf cs =>
      rw [Bool.eq_iff_iff, intervals, contains, Interval.anyContains_union_iff
        (List.forall_mem_map.mpr fun _ _ => Nat.le_refl _) Interval.apart_nil]
      simp [anyContains, Interval.contains_single, Char.toNat_inj]
  | union a b iha ihb =>
      rw [intervals, contains, anyContains_union a.apart_intervals b.apart_intervals, iha, ihb]
  | inter a b iha ihb =>
      rw [intervals, contains, anyContains_interIntervals a.apart_intervals b.apart_intervals, iha,
        ihb]
  | diff a b iha ihb =>
      rw [intervals, contains, anyContains_diffIntervals a.apart_intervals b.apart_intervals, iha,
        ihb]
  | symmDiff a b iha ihb =>
      have ha := a.apart_intervals
      have hb := b.apart_intervals
      rw [intervals, contains,
        anyContains_union (apart_diffIntervals ha hb) (apart_diffIntervals hb ha),
        anyContains_diffIntervals ha hb, anyContains_diffIntervals hb ha, iha, ihb]
      cases a.contains c <;> cases b.contains c <;> rfl
  | compl a iha => rw [intervals, contains, anyContains_compl a.apart_intervals, iha]
  | folded a iha =>
      rw [Bool.eq_iff_iff, contains_folded_iff, intervals]
      exact areKeptApart_foldRuns.anyContains_fold_iff a.apart_intervals iha c
  | asciiFolded a iha =>
      rw [Bool.eq_iff_iff, contains_asciiFolded_iff, intervals]
      exact areKeptApart_asciiRun.anyContains_fold_iff a.apart_intervals iha c

end CharSet

end UriRouting.Unicode
