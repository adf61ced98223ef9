import UriRouting.Proofs.Unicode.CharSet
import UriRouting.Proofs.Unicode.Utf8
import UriRouting.Regex.Size

/-!
# UriRouting.Proofs.Regex.Size

What the tree that a set is measured by reads.

* `treePath_iff` — a path down the tree of some sequences is a choice of bytes from one of them;
* `treePath_encodings_iff` — so the paths down the tree of a set are the encodings of its members.
-/

namespace UriRouting.Regex

open Unicode (CharSet Chooses)

/-- A path down the tree of some sequences. -/
def TreePath : List (List Unicode.Interval) → List Nat → Prop
  | seqs, [] => [] ∈ seqs
  | seqs, byte :: bytes =>
    ∃ branch ∈ branches seqs, branch.1.contains byte = true ∧ TreePath branch.2 bytes

/-- The branches of some sequences have what the sequences have. -/
theorem exists_branch_iff {P : Unicode.Interval → List Unicode.Interval → Prop}
    (seqs : List (List Unicode.Interval)) :
    (∃ branch ∈ branches seqs, ∃ rest ∈ branch.2, P branch.1 rest) ↔
      ∃ range rest, range :: rest ∈ seqs ∧ P range rest := by
  induction seqs with
  | nil => simp [branches]
  | cons seq seqs ih =>
      cases seq with
      | nil =>
          rw [branches, ih]
          simp
      | cons range rest =>
          have hcons :
              (∃ range' rest', range' :: rest' ∈ (range :: rest) :: seqs ∧ P range' rest') ↔
                P range rest ∨ ∃ range' rest', range' :: rest' ∈ seqs ∧ P range' rest' := by
            simp only [List.mem_cons, List.cons.injEq]
            grind
          rw [hcons, ← ih, branches]
          cases branches seqs with
          | nil => simp
          | cons branch others =>
              simp only
              split
              · rename_i heq
                subst heq
                simp [or_assoc]
              · simp

theorem treePath_iff {seqs : List (List Unicode.Interval)} {bytes : List Nat} :
    TreePath seqs bytes ↔ ∃ seq ∈ seqs, Chooses seq bytes := by
  induction bytes generalizing seqs with
  | nil => simp [TreePath, Chooses]
  | cons byte bytes ih =>
      have hbranch := exists_branch_iff (P := fun range rest =>
        range.contains byte = true ∧ Chooses rest bytes) seqs
      have hseq : (∃ seq ∈ seqs, Chooses seq (byte :: bytes)) ↔
          ∃ range rest, range :: rest ∈ seqs ∧ range.contains byte = true ∧ Chooses rest bytes := by
        constructor
        · rintro ⟨_, hmem, hchooses⟩
          cases hchooses with
          | cons hbyte hrest => exact ⟨_, _, hmem, hbyte, hrest⟩
        · rintro ⟨range, rest, hmem, hbyte, hrest⟩
          exact ⟨range :: rest, hmem, .cons hbyte hrest⟩
      rw [hseq, ← hbranch]
      simp only [TreePath, ih]
      constructor
      · rintro ⟨branch, hmem, hbyte, rest, hrest, hchooses⟩
        exact ⟨branch, hmem, rest, hrest, hbyte, hchooses⟩
      · rintro ⟨branch, hmem, rest, hrest, hbyte, hchooses⟩
        exact ⟨branch, hmem, hbyte, rest, hrest, hchooses⟩

/-- **The paths down the tree of a set are the encodings of its members.** -/
theorem treePath_encodings_iff (set : CharSet) (c : Char) :
    TreePath (set.intervals.flatMap Unicode.Interval.utf8) (Unicode.bytes c) ↔
      set.contains c = true := by
  rw [treePath_iff, ← set.anyContains_intervals c, Unicode.Interval.anyContains_iff]
  simp only [List.mem_flatMap]
  constructor
  · rintro ⟨seq, ⟨iv, hiv, hseq⟩, hchooses⟩
    exact ⟨iv, hiv, (iv.chooses_utf8_iff c).mp ⟨seq, hseq, hchooses⟩⟩
  · rintro ⟨iv, hiv, hcontains⟩
    obtain ⟨seq, hseq, hchooses⟩ := (iv.chooses_utf8_iff c).mpr hcontains
    exact ⟨seq, ⟨iv, hiv, hseq⟩, hchooses⟩

end UriRouting.Regex
