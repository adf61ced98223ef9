import UriRouting.Unicode.CharSet

/-!
# UriRouting.Proofs.Unicode.Folding

Simple case folding as a relation on characters. `orbit` searches the runs backwards for
what folds like a character; `mem_orbit_iff` says that it finds all of it, so that a set
made of orbits is a set closed under folding. On ASCII, folding and the lower-case mapping
are what core's `Char.toLower` does.
-/

namespace UriRouting.Unicode

/-- Whether a run maps to characters only: its images lie on one side of the surrogates. -/
def CaseRun.staysValid (r : CaseRun) : Bool :=
  r.target + (r.last - r.first) < 0xD800 ||
    (0xDFFF < r.target && r.target + (r.last - r.first) < 0x110000)

theorem foldRuns_staysValid : foldRuns.all CaseRun.staysValid = true := by
  decide +kernel

/-- The image of a code point of a run is the code point of a character. -/
theorem CaseRun.isValidChar_image {r : CaseRun} (hr : r.staysValid = true) {n : Nat}
    (hn : r.contains n = true) : (r.image n).isValidChar := by
  simp only [staysValid, Bool.or_eq_true, Bool.and_eq_true, decide_eq_true_eq] at hr
  simp only [contains, Bool.and_eq_true, decide_eq_true_eq] at hn
  simp only [image, Nat.isValidChar]
  omega

theorem CaseRun.toNat_image {r : CaseRun} (hr : r.staysValid = true) {n : Nat}
    (hn : r.contains n = true) : (Char.ofNat (r.image n)).toNat = r.image n := by
  rw [Char.ofNat, dif_pos (isValidChar_image hr hn)]
  rfl

/-- Going back along a run from the image of a code point of its own. -/
theorem CaseRun.source?_image {r : CaseRun} {n : Nat} (hn : r.contains n = true) :
    r.source? (r.image n) = some n := by
  have hle : r.first ≤ n := by
    simp only [contains, Bool.and_eq_true, decide_eq_true_eq] at hn
    exact hn.1.1
  have hback : r.first + (r.image n - r.target) = n := by
    simp only [image]
    omega
  simp [source?, hback, hn]

/-- **The orbit of a character is its class under simple case folding.** -/
theorem mem_orbit_iff {c d : Char} : d ∈ orbit c ↔ foldSimple d = foldSimple c := by
  simp only [orbit, List.mem_filter, beq_iff_eq, and_iff_right_iff_imp]
  intro hfold
  rw [List.mem_cons, List.mem_filterMap]
  rw [← hfold, foldSimple, applyRuns]
  cases hfind : foldRuns.find? (·.contains d.toNat) with
  | none => exact Or.inl rfl
  | some r =>
      have hmem := List.mem_of_find?_eq_some hfind
      have hcontains : r.contains d.toNat = true :=
        List.find?_some (p := fun r : CaseRun => r.contains d.toNat) hfind
      refine Or.inr ⟨r, hmem, ?_⟩
      rw [CaseRun.toNat_image (List.all_eq_true.mp foldRuns_staysValid r hmem) hcontains,
        CaseRun.source?_image hcontains, Option.map_some, Char.ofNat_toNat]

/-- A set closed under folding has what folds like a member of the set. -/
theorem contains_folded_iff {set : CharSet} {c : Char} :
    (CharSet.folded set).contains c = true ↔
      ∃ d, foldSimple d = foldSimple c ∧ set.contains d = true := by
  simp [CharSet.contains, List.any_eq_true, mem_orbit_iff]

/-! ### Characters of ASCII -/

/-- What holds of the first 128 characters, one by one, holds of every character of ASCII. -/
theorem of_isAscii {P : Char → Prop} (h : ∀ n < 0x80, P (Char.ofNat n)) {c : Char}
    (hc : c.toNat < 0x80) : P c := by
  have hn := h c.toNat hc
  rwa [Char.ofNat_toNat] at hn

theorem applyRuns_asciiRun {c : Char} (hc : c.toNat < 0x80) :
    applyRuns [asciiRun] c = c.toLower :=
  of_isAscii (P := fun c => applyRuns [asciiRun] c = c.toLower) (by decide +kernel) hc

/-- Runs of which only the first touches ASCII change its capitals. -/
theorem applyRuns_cons_asciiRun {runs : List CaseRun}
    (hruns : runs.all (fun r => 0x80 ≤ r.first) = true) {c : Char} (hc : c.toNat < 0x80) :
    applyRuns (asciiRun :: runs) c = c.toLower := by
  have hnone : runs.find? (·.contains c.toNat) = none := by
    refine List.find?_eq_none.mpr fun r hr hcontains => ?_
    have hfirst := decide_eq_true_eq.mp (List.all_eq_true.mp hruns r hr)
    simp only [CaseRun.contains, Bool.and_eq_true, decide_eq_true_eq] at hcontains
    omega
  rw [← applyRuns_asciiRun hc]
  simp only [applyRuns, List.find?_cons, List.find?_nil, hnone]

theorem foldSimple_eq_toLower {c : Char} (hc : c.toNat < 0x80) : foldSimple c = c.toLower := by
  have htail : foldRuns.tail.all (fun r => 0x80 ≤ r.first) = true := by
    decide +kernel
  exact applyRuns_cons_asciiRun htail hc

theorem toLowercase_eq_toLower {c : Char} (hc : c.toNat < 0x80) :
    toLowercase c = [c.toLower] := by
  have htail : lowercaseRuns.tail.all (fun r => 0x80 ≤ r.first) = true := by
    decide +kernel
  rw [toLowercase, if_neg (by omega)]
  exact congrArg (fun d => [d]) (applyRuns_cons_asciiRun htail hc)

theorem toLower_isAscii {c : Char} (hc : c.toNat < 0x80) :
    c.toLower.toNat < 0x80 ∧ c.toLower.toLower = c.toLower :=
  of_isAscii (P := fun c => c.toLower.toNat < 0x80 ∧ c.toLower.toLower = c.toLower)
    (by decide +kernel) hc

theorem toLower_eq_self {c : Char} (hc : 0x80 ≤ c.toNat) : c.toLower = c := by
  unfold Char.toLower
  split
  · rename_i h
    simp [UInt32.le_iff_toNat_le] at h
    omega
  · rfl

/-- Folding does not see the case of the letters of ASCII. -/
theorem foldSimple_toLower (c : Char) : foldSimple c.toLower = foldSimple c := by
  rcases Nat.lt_or_ge c.toNat 0x80 with hc | hc
  · have hlower := toLower_isAscii hc
    rw [foldSimple_eq_toLower hc, foldSimple_eq_toLower hlower.1, hlower.2]
  · rw [toLower_eq_self hc]

/-- Neither do the lower-case forms. -/
theorem toLowercase_toLower (c : Char) : toLowercase c.toLower = toLowercase c := by
  rcases Nat.lt_or_ge c.toNat 0x80 with hc | hc
  · have hlower := toLower_isAscii hc
    rw [toLowercase_eq_toLower hc, toLowercase_eq_toLower hlower.1, hlower.2]
  · rw [toLower_eq_self hc]

/-- Two characters outside ASCII fold into it: the long small s and the kelvin sign. -/
theorem eq_of_foldSimple_isAscii {c : Char} (hfold : (foldSimple c).toNat < 0x80)
    (hc : 0x80 ≤ c.toNat) : c = 'ſ' ∨ c = Char.ofNat 0x212A := by
  have hruns : foldRuns.all (fun r => r.last < 0x80 || 0x80 ≤ r.target ||
      (r.first == r.last && (r.first == 0x17F || r.first == 0x212A))) = true := by
    decide +kernel
  rw [foldSimple, applyRuns] at hfold
  cases hfind : foldRuns.find? (·.contains c.toNat) with
  | none =>
      rw [hfind] at hfold
      exact absurd hfold (Nat.not_lt.mpr hc)
  | some r =>
      have hmem := List.mem_of_find?_eq_some hfind
      have hcontains : r.contains c.toNat = true :=
        List.find?_some (p := fun r : CaseRun => r.contains c.toNat) hfind
      have hvalid := List.all_eq_true.mp foldRuns_staysValid r hmem
      rw [hfind, CaseRun.toNat_image hvalid hcontains, CaseRun.image] at hfold
      have hr := List.all_eq_true.mp hruns r hmem
      simp only [CaseRun.contains, Bool.and_eq_true, Bool.or_eq_true, decide_eq_true_eq,
        beq_iff_eq] at hcontains hr
      have hnat : c.toNat = 0x17F ∨ c.toNat = 0x212A := by
        omega
      rw [← Char.ofNat_toNat c]
      exact hnat.imp (congrArg Char.ofNat) (congrArg Char.ofNat)

end UriRouting.Unicode
