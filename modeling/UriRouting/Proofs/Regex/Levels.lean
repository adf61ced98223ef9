import UriRouting.Proofs.Regex.Matches
import UriRouting.Proofs.Regex.Reading

/-!
# UriRouting.Proofs.Regex.Levels

What is matched by the level of a group that has been read. A branch matches the pieces that its
parts match in a row (`matches_branch`), and the level those that one of its branches matches
(`matches_close`).

A condition that holds at an end of the text makes no difference there: the first part of a branch
may be one that holds at the start (`matches_branch_concat`), and the last one that holds at the
end (`matches_branch_push`).
-/

namespace UriRouting.Regex

variable {s t u : Text}

theorem matches_empty : empty.Matches s t u ↔ t = [] :=
  List.forall₂_nil_left_iff

theorem matches_concat_singleton (r : Regex) : (concat [r]).Matches s t u ↔ r.Matches s t u := by
  rw [matches_concat_cons]
  constructor
  · rintro ⟨t₁, t₂, rfl, h, htail⟩
    obtain rfl : t₂ = [] := matches_empty.mp htail
    rwa [List.append_nil]
  · intro h
    exact ⟨t, [], by simp, h, matches_empty.mpr rfl⟩

theorem matches_concat_append (rs rs' : List Regex) :
    (concat (rs ++ rs')).Matches s t u ↔
      ∃ t₁ t₂, t = t₁ ++ t₂ ∧ (concat rs).Matches s t₁ (t₂ ++ u) ∧
        (concat rs').Matches (s ++ t₁) t₂ u := by
  induction rs generalizing s t with
  | nil =>
      constructor
      · intro h
        exact ⟨[], t, rfl, matches_empty.mpr rfl, by simpa using h⟩
      · rintro ⟨t₁, t₂, rfl, hnil, h⟩
        obtain rfl : t₁ = [] := matches_empty.mp hnil
        simpa using h
  | cons r rs ih =>
      rw [List.cons_append, matches_concat_cons]
      simp only [ih, matches_concat_cons]
      constructor
      · rintro ⟨t₁, _, rfl, hr, t₂, t₃, rfl, hrs, hrs'⟩
        refine ⟨t₁ ++ t₂, t₃, by simp, ⟨t₁, t₂, rfl, ?_, hrs⟩, ?_⟩
        · rwa [← List.append_assoc]
        · rwa [← List.append_assoc]
      · rintro ⟨_, t₃, rfl, ⟨t₁, t₂, rfl, hr, hrs⟩, hrs'⟩
        refine ⟨t₁, t₂ ++ t₃, by simp, ?_, t₂, t₃, rfl, hrs, ?_⟩
        · rwa [List.append_assoc]
        · rwa [List.append_assoc]

theorem matches_alternatives (r : Regex) (rs : List Regex) :
    (alternatives r rs).Matches s t u ↔ ∃ r' ∈ r :: rs, r'.Matches s t u := by
  induction rs generalizing r with
  | nil => simp [alternatives]
  | cons r' rs ih =>
      rw [alternatives, Matches, ih]
      simp

/-! ### Branches -/

theorem matches_branch (l : Level) :
    l.branch.regex.Matches s t u ↔ (concat (l.parts.reverse.map (·.regex))).Matches s t u := by
  unfold Level.branch
  split
  · rename_i hparts
    rw [hparts]
    exact Iff.rfl
  · rename_i part hparts
    rw [hparts]
    exact (matches_concat_singleton part.regex).symm
  · exact Iff.rfl

/-- A condition that holds at the end of the text, as the last part. -/
theorem matches_branch_push {condition : Assertion} (l : Level)
    (hcondition : ∀ before, condition.holds before none = true) :
    (l.push { regex := assert condition, depth := 0 }).branch.regex.Matches s t [] ↔
      l.branch.regex.Matches s t [] := by
  rw [matches_branch, matches_branch, Level.push, List.reverse_cons, List.map_append,
    matches_concat_append]
  simp only [List.map_cons, List.map_nil, matches_concat_singleton]
  constructor
  · rintro ⟨t₁, _, rfl, h, rfl, -⟩
    simpa using h
  · intro h
    exact ⟨t, [], by simp, h, rfl, hcondition _⟩

/-- A condition that holds at the start of the text, as the first part. -/
theorem matches_branch_concat {condition : Assertion} (branches : List Part) (parts : List Part)
    (hcondition : ∀ after, condition.holds none after = true) :
    (Level.branch ⟨branches, parts ++ [{ regex := assert condition, depth := 0 }]⟩).regex.Matches
      [] t u ↔ (Level.branch ⟨branches, parts⟩).regex.Matches [] t u := by
  rw [matches_branch, matches_branch, List.reverse_append, List.reverse_singleton,
    List.singleton_append, List.map_cons, matches_concat_cons]
  constructor
  · rintro ⟨_, t₂, rfl, ⟨rfl, -⟩, h⟩
    exact h
  · intro h
    exact ⟨[], t, rfl, ⟨rfl, hcondition _⟩, h⟩

/-! ### Levels -/

theorem matches_close (l : Level) :
    l.close.regex.Matches s t u ↔
      l.branch.regex.Matches s t u ∨ ∃ branch ∈ l.branches, branch.regex.Matches s t u := by
  have hmem (branch : Part) : branch ∈ l.branches ↔ branch ∈ l.branches.reverse :=
    List.mem_reverse.symm
  simp only [hmem]
  unfold Level.close
  cases l.branches.reverse with
  | nil => simp
  | cons first rest =>
      rw [matches_alternatives]
      simp only [List.mem_cons, List.mem_map, List.mem_append, List.not_mem_nil, or_false]
      constructor
      · rintro ⟨_, rfl | ⟨branch, hbranch | rfl, rfl⟩, h⟩
        · exact .inr ⟨first, .inl rfl, h⟩
        · exact .inr ⟨branch, .inr hbranch, h⟩
        · exact .inl h
      · rintro (h | ⟨branch, rfl | hbranch, h⟩)
        · exact ⟨_, .inr ⟨l.branch, .inr rfl, rfl⟩, h⟩
        · exact ⟨_, .inl rfl, h⟩
        · exact ⟨_, .inr ⟨branch, .inl hbranch, rfl⟩, h⟩

end UriRouting.Regex
