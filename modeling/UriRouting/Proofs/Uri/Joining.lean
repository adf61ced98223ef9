import UriRouting.Proofs.Uri.Path

/-!
# UriRouting.Proofs.Uri.Joining

Paths in normal form, and what joining makes of them.

* `isNormal_iff` — normal forms are the paths that are given back as they are;
* `isCore_iff`, `normalize_eq_normalize_iff` — paths have the same normal form if they differ in
  slashes at their ends only;
* `stem_join`, `stem_inj` — joining paths is putting one behind the other, but for the slash that
  stands alone; what is true of texts put one behind the other is true of joined paths;
* `join_assoc`, `slash_join`, `join_slash` — so joining is a monoid with a single slash as its
  unit;
* `normalForms_join` — all of it.
-/

namespace UriRouting.Uri

/-! ### Normal forms -/

/-- Paths in normal form. -/
structure IsNormal (path : Text) : Prop where
  /-- They start with a slash. -/
  head : path.head? = some '/'
  /-- They are nothing but this slash, or there is neither a second one behind it nor one at the
  end. -/
  ends : path = ['/'] ∨ path[1]? ≠ some '/' ∧ path.getLast? ≠ some '/'

theorem isNormal_iff {path : Text} : IsNormal path ↔ normalize path = path := by
  rw [normalize_eq_self_iff]
  constructor
  · intro h
    obtain ⟨rest, rfl⟩ := List.head?_eq_some_iff.mp h.head
    refine ⟨rest, rfl, ?_⟩
    cases rest with
    | nil => simp
    | cons c rest =>
        obtain ⟨hsecond, hlast⟩ := h.ends.resolve_left (by simp)
        exact ⟨by simpa using hsecond, by simpa using hlast⟩
  · intro h
    obtain ⟨rest, rfl, hhead, hlast⟩ := h
    refine ⟨rfl, ?_⟩
    cases rest with
    | nil => exact .inl rfl
    | cons c rest => exact .inr ⟨by simpa using hhead, by simpa using hlast⟩

theorem isNormal_normalize (path : Text) : IsNormal (normalize path) :=
  isNormal_iff.mpr (normalize_normalize path)

/-! ### What is between the slashes at the ends -/

/-- What is left of a text without the slashes at its ends. -/
structure IsCore (core text : Text) : Prop where
  /-- It does not start with a slash. -/
  head : core.head? ≠ some '/'
  /-- It does not end with a slash. -/
  last : core.getLast? ≠ some '/'
  /-- There are only slashes around it. -/
  slashes : ∃ m n, text = List.replicate m '/' ++ core ++ List.replicate n '/'

theorem isCore_trimSlashes (text : Text) : IsCore (trimSlashes text) text := by
  refine ⟨head?_trimSlashes text, getLast?_trimSlashes text, ?_⟩
  obtain ⟨front, back, htext, hfront, hback⟩ := Text.exists_strip (· == '/') text
  have hslashes (t : Text) (ht : ∀ c ∈ t, (c == '/') = true) : t = List.replicate t.length '/' :=
    List.eq_replicate_of_mem fun c hc => beq_iff_eq.mp (ht c hc)
  refine ⟨front.length, back.length, ?_⟩
  rw [← hslashes front hfront, ← hslashes back hback]
  exact htext

/-- **There is one such rest of a text**, the one that is trimmed. -/
theorem isCore_iff {core text : Text} : IsCore core text ↔ trimSlashes text = core := by
  constructor
  · intro h
    obtain ⟨m, n, rfl⟩ := h.slashes
    rw [trimSlashes_append_replicate, trimSlashes_replicate_append,
      trimSlashes_eq_self h.head h.last]
  · intro h
    rw [← h]
    exact isCore_trimSlashes text

/-- **Paths have the same normal form if they differ in slashes at their ends only.** -/
theorem normalize_eq_normalize_iff {s t : Text} :
    normalize s = normalize t ↔ ∃ core, IsCore core s ∧ IsCore core t := by
  rw [normalize_eq, normalize_eq, List.cons_inj_right]
  simp only [isCore_iff]
  constructor
  · intro h
    exact ⟨_, h, rfl⟩
  · intro h
    obtain ⟨core, hs, ht⟩ := h
    rw [hs, ht]

/-! ### Joining -/

theorem normalize_ne_nil (path : Text) : normalize path ≠ [] := by
  rw [normalize_eq]
  exact List.cons_ne_nil _ _

/-- A path in normal form is told by what it puts in front of others. -/
theorem stem_inj {p q : Text} (hp : normalize p = p) (hq : normalize q = q)
    (h : stem p = stem q) : p = q := by
  have hpnil : p ≠ [] := hp ▸ normalize_ne_nil p
  have hqnil : q ≠ [] := hq ▸ normalize_ne_nil q
  unfold stem at h
  split at h
  · rename_i hslash
    split at h
    · rename_i hslash'
      rw [hslash, hslash']
    · exact absurd h.symm hqnil
  · split at h
    · exact absurd h hpnil
    · exact h

/-- **Joined paths put one behind the other what each of them puts in front.** -/
theorem stem_join {p : Text} (hp : normalize p = p) (u : Text) :
    stem (join p u) = stem p ++ stem (normalize u) := by
  rw [join_eq hp]
  by_cases hroot : normalize u = ['/']
  · rw [if_pos hroot, hroot, stem, stem, if_pos rfl, List.append_nil]
  · -- a path that is no single slash is longer than one
    have hne : stem p ++ normalize u ≠ ['/'] := by
      intro h
      unfold stem at h
      split at h
      · exact hroot h
      · obtain ⟨rest, hrest, -⟩ := normalize_eq_self_iff.mp hp
        rw [hrest, List.cons_append, List.cons_inj_right, List.append_eq_nil_iff] at h
        exact normalize_ne_nil u h.2
    have hjoin : stem (stem p ++ normalize u) = stem p ++ normalize u := by
      rw [stem, if_neg hne]
    have hu : stem (normalize u) = normalize u := by
      rw [stem, if_neg hroot]
    rw [if_neg hroot, hjoin, hu]

theorem join_assoc {p q : Text} (hp : normalize p = p) (hq : normalize q = q) (u : Text) :
    join (join p q) u = join p (join q u) := by
  apply stem_inj (normalize_join _ _) (normalize_join _ _)
  calc stem (join (join p q) u)
      = stem p ++ stem q ++ stem (normalize u) := by
        rw [stem_join (normalize_join p q), stem_join hp, hq]
    _ = stem p ++ (stem q ++ stem (normalize u)) := List.append_assoc _ _ _
    _ = stem (join p (join q u)) := by
        rw [stem_join hp, normalize_join, stem_join hq]

theorem slash_join (u : Text) : join ['/'] u = normalize u := by
  rw [join, List.cons_append, List.nil_append, normalize_eq, trimSlashes_cons_slash,
    ← normalize_eq, normalize_normalize]

theorem join_slash {p : Text} (hp : normalize p = p) : join p ['/'] = p := by
  have hroot : normalize ['/'] = ['/'] := rfl
  rw [join_eq hp, if_pos hroot]

/-! ### The laws -/

/-- What the normal form of a path is. -/
structure NormalForm (s : Text) : Prop where
  /-- It starts with a slash, and there is no other one at its ends. -/
  isNormal : IsNormal (normalize s)
  /-- It is its own normal form. -/
  fixed : normalize (normalize s) = normalize s
  /-- It is made anew from the path without the slashes at its ends, also where a path is given
  back as it is. -/
  rebuilt : normalize s = '/' :: trimSlashes s
  /-- The paths that have it are those that differ in slashes at their ends only. -/
  same : ∀ t, normalize s = normalize t ↔ ∃ core, IsCore core s ∧ IsCore core t

/-- The laws of joining paths, of which `p` and `q` are in normal form. -/
structure JoinLaws (p q u : Text) : Prop where
  /-- What is joined is in normal form. -/
  normal : IsNormal (join p u)
  /-- It makes no difference which paths are joined first. -/
  assoc : join (join p q) u = join p (join q u)
  /-- A single slash in front changes nothing. -/
  left_id : join ['/'] p = p
  /-- A single slash behind changes nothing. -/
  right_id : join p ['/'] = p

/-- **Paths have one normal form, and joining is a monoid on normal forms.** -/
theorem normalForms_join :
    (∀ s, NormalForm s) ∧ ∀ p q u, IsNormal p → IsNormal q → JoinLaws p q u := by
  constructor
  · intro s
    exact ⟨isNormal_normalize s, normalize_normalize s, normalize_eq s,
      fun t => normalize_eq_normalize_iff⟩
  · intro p q u hp hq
    have hp' := isNormal_iff.mp hp
    have hq' := isNormal_iff.mp hq
    refine ⟨isNormal_iff.mpr (normalize_join p u), join_assoc hp' hq' u, ?_, join_slash hp'⟩
    rw [slash_join, hp']

/-- A path with slashes inside and at its ends below two base paths. -/
theorem normalForms_join_users :
    IsNormal "/api".toList ∧ IsNormal "/v1".toList ∧
      JoinLaws "/api".toList "/v1".toList "//users//7/".toList := by
  have hapi : IsNormal "/api".toList := ⟨rfl, .inr ⟨by decide, by decide⟩⟩
  have hv1 : IsNormal "/v1".toList := ⟨rfl, .inr ⟨by decide, by decide⟩⟩
  exact ⟨hapi, hv1, normalForms_join.2 _ _ _ hapi hv1⟩

end UriRouting.Uri
