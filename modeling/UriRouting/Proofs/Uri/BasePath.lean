import Mathlib.Logic.Function.Iterate
import UriRouting.Proofs.Uri.Joining

/-!
# UriRouting.Proofs.Uri.BasePath

The form that the base path of a group is given. White space and slashes are taken off its ends once
each, the white space first, so that white space in front of the last slashes is left at the end.

* `isClean_iff` — clean paths, in normal form and without white space at their ends, are those that
  are given back as they are;
* `isClean_normalizeBase_iff` — the form of a base path is clean unless the base path has white
  space in front of the slashes at its end (`HidesBlank`);
* `exists_iterate_eq_cleanBase` — the form of the form, and so on, comes to rest at the path without
  slashes at its start, and without slashes and white space at its end;
* `baseForm_normalizeBase` — all of it.
-/

namespace UriRouting.Uri

open Unicode (isWhiteSpace)

theorem isWhiteSpace_slash : isWhiteSpace '/' = false := by decide

theorem ne_slash_of_isWhiteSpace {c : Char} (hc : isWhiteSpace c = true) : c ≠ '/' := by
  intro h
  rw [h, isWhiteSpace_slash] at hc
  cases hc

theorem getLast?_cons_slash_iff {c : Char} (hc : c ≠ '/') (t : Text) :
    List.getLast? ('/' :: t) = some c ↔ t.getLast? = some c := by
  rw [List.getLast?_cons]
  cases t.getLast? with
  | none => simp [hc.symm]
  | some d => simp

theorem trim_cons_slash (t : Text) :
    Text.trim ('/' :: t) = '/' :: Text.stripRight isWhiteSpace t := by
  rw [Text.trim, Text.strip, List.dropWhile_cons_of_neg (by simp [isWhiteSpace_slash]),
    Text.stripRight_cons_of_neg isWhiteSpace_slash]

theorem normalizeBase_eq (base : Text) : normalizeBase base = '/' :: trimSlashes base.trim := by
  unfold normalizeBase
  dsimp only
  split
  · rename_i hempty
    rw [List.isEmpty_iff.mp hempty]
    rfl
  · exact normalize_eq _

theorem normalizeBase_cons_slash (t : Text) :
    normalizeBase ('/' :: t) = '/' :: trimSlashes (Text.stripRight isWhiteSpace t) := by
  rw [normalizeBase_eq, trim_cons_slash, trimSlashes_cons_slash]

/-! ### Clean base paths -/

/-- Base paths that are clean. -/
structure IsClean (path : Text) : Prop where
  /-- They start with a slash, and there is no other one at their ends. -/
  isNormal : IsNormal path
  /-- They do not start with white space. -/
  head : ∀ c, path.head? = some c → isWhiteSpace c = false
  /-- They do not end with white space. -/
  last : ∀ c, path.getLast? = some c → isWhiteSpace c = false

theorem IsClean.trim_eq {path : Text} (h : IsClean path) : path.trim = path :=
  Text.strip_eq_self h.head h.last

/-- A path that starts with a slash gets no longer. -/
theorem normalizeBase_sublist (t : Text) :
    (normalizeBase ('/' :: t)).Sublist ('/' :: Text.stripRight isWhiteSpace t) := by
  rw [normalizeBase_cons_slash]
  exact (trimSlashes_sublist _).cons_cons '/'

/-- **Clean base paths are those that are given back as they are.** -/
theorem isClean_iff {path : Text} : IsClean path ↔ normalizeBase path = path := by
  constructor
  · intro h
    rw [normalizeBase_eq, h.trim_eq, ← normalize_eq]
    exact isNormal_iff.mp h.isNormal
  · intro h
    have hnormal : normalize path = path := by
      rw [← h]
      exact normalize_normalizeBase path
    obtain ⟨rest, rfl, -, -⟩ := normalize_eq_self_iff.mp hnormal
    -- what is given back has at most what is left without white space at the end
    have hstrip : Text.stripRight isWhiteSpace rest = rest := by
      have hle := normalizeBase_sublist rest
      rw [h] at hle
      exact (Text.stripRight_sublist _ rest).antisymm (List.cons_sublist_cons.mp hle)
    have htrim : Text.trim ('/' :: rest) = '/' :: rest := by rw [trim_cons_slash, hstrip]
    refine ⟨isNormal_iff.mpr hnormal, fun c hc => ?_, fun c hc => ?_⟩
    · rw [← htrim] at hc
      exact Text.head?_strip hc
    · rw [← htrim] at hc
      exact Text.getLast?_strip hc

/-! ### White space that is left -/

/-- Base paths with white space in front of slashes at the end. White space that they start with
does not count, nor does what stands behind the slashes. -/
def HidesBlank (base : Text) : Prop :=
  ∃ front blank n back, base = front ++ [blank] ++ List.replicate (n + 1) '/' ++ back ∧
    isWhiteSpace blank = true ∧ (∃ c ∈ front, isWhiteSpace c = false) ∧
    ∀ c ∈ back, isWhiteSpace c = true

theorem getLast?_append_slashes (t : Text) (n : Nat) :
    (t ++ List.replicate (n + 1) '/').getLast? = some '/' := by
  rw [List.replicate_succ', ← List.append_assoc, List.getLast?_concat]

/-- Without the white space around them, such base paths end in white space and slashes. -/
theorem hidesBlank_iff {base : Text} :
    HidesBlank base ↔ ∃ front blank n,
      base.trim = front ++ [blank] ++ List.replicate (n + 1) '/' ∧ isWhiteSpace blank = true := by
  constructor
  · intro h
    obtain ⟨front, blank, n, back, rfl, hblank, ⟨c, hc, hcblank⟩, hback⟩ := h
    obtain ⟨d, rest, hdrop, hd⟩ := Text.exists_dropWhile_eq_cons hc hcblank
    have hfront : front.takeWhile isWhiteSpace ++ d :: rest = front := by
      rw [← hdrop, List.takeWhile_append_dropWhile]
    refine ⟨d :: rest, blank, n, ?_, hblank⟩
    rw [Text.trim, Text.strip_append_right hback, ← hfront, List.append_assoc, List.append_assoc,
      Text.strip_append_left fun c => List.mem_takeWhile_imp, ← List.append_assoc]
    -- between something that is no white space and a slash there is nothing to take off
    refine Text.strip_eq_self (fun c hc => ?_) (fun c hc => ?_)
    · cases hc
      exact hd
    · rw [getLast?_append_slashes] at hc
      cases hc
      exact isWhiteSpace_slash
  · intro h
    obtain ⟨front, blank, n, htrim, hblank⟩ := h
    obtain ⟨before, after, hbase, -, hafter⟩ := Text.exists_strip isWhiteSpace base
    have hhead (c : Char) (hc : base.trim.head? = some c) : isWhiteSpace c = false :=
      Text.head?_strip hc
    rw [htrim] at hhead
    rw [← Text.trim, htrim] at hbase
    refine ⟨before ++ front, blank, n, after, by simp [hbase], hblank, ?_, hafter⟩
    -- what comes first is no white space, so it is not the white space in front of the slashes
    cases front with
    | nil => exact absurd hblank (by simp [hhead blank rfl])
    | cons d rest => exact ⟨d, by simp, hhead d rfl⟩

/-- White space that is left without the slashes had slashes behind it. -/
theorem getLast?_trimSlashes_trim_iff {base : Text} {c : Char} (hc : isWhiteSpace c = true) :
    (trimSlashes base.trim).getLast? = some c ↔
      ∃ front n, base.trim = front ++ [c] ++ List.replicate (n + 1) '/' := by
  constructor
  · intro hlast
    obtain ⟨core, hcore⟩ := List.getLast?_eq_some_iff.mp hlast
    obtain ⟨m, n, htrim⟩ := (isCore_trimSlashes base.trim).slashes
    rw [hcore] at htrim
    cases n with
    | zero =>
        have hend : base.trim.getLast? = some c := by simp [htrim]
        rw [Text.getLast?_strip hend] at hc
        cases hc
    | succ n => exact ⟨List.replicate m '/' ++ core, n, by simp [htrim]⟩
  · intro h
    obtain ⟨front, n, htrim⟩ := h
    have hslash : (c == '/') = false := beq_false_of_ne (ne_slash_of_isWhiteSpace hc)
    rw [htrim, trimSlashes_append_replicate]
    exact Text.getLast?_strip_concat (p := (· == '/')) hslash front

/-- White space in front of the last slashes is what is left at the end. -/
theorem exists_getLast?_normalizeBase_iff {base : Text} :
    (∃ c, (normalizeBase base).getLast? = some c ∧ isWhiteSpace c = true) ↔ HidesBlank base := by
  have hlast (c : Char) (hc : isWhiteSpace c = true) : (normalizeBase base).getLast? = some c ↔
      ∃ front n, base.trim = front ++ [c] ++ List.replicate (n + 1) '/' := by
    rw [normalizeBase_eq, getLast?_cons_slash_iff (ne_slash_of_isWhiteSpace hc),
      getLast?_trimSlashes_trim_iff hc]
  rw [hidesBlank_iff]
  constructor
  · intro h
    obtain ⟨c, hend, hc⟩ := h
    obtain ⟨front, n, htrim⟩ := (hlast c hc).mp hend
    exact ⟨front, c, n, htrim, hc⟩
  · intro h
    obtain ⟨front, c, n, htrim, hc⟩ := h
    exact ⟨c, (hlast c hc).mpr ⟨front, n, htrim⟩, hc⟩

theorem isNormal_normalizeBase (base : Text) : IsNormal (normalizeBase base) :=
  isNormal_iff.mpr (normalize_normalizeBase base)

theorem head?_normalizeBase {base : Text} {c : Char} (h : (normalizeBase base).head? = some c) :
    isWhiteSpace c = false := by
  rw [normalizeBase_eq] at h
  cases h
  exact isWhiteSpace_slash

/-- **The form of a base path is clean unless white space stands in front of its last slashes.** -/
theorem isClean_normalizeBase_iff {base : Text} :
    IsClean (normalizeBase base) ↔ ¬ HidesBlank base := by
  rw [← exists_getLast?_normalizeBase_iff]
  constructor
  · intro h hleft
    obtain ⟨c, hlast, hc⟩ := hleft
    rw [h.last c hlast] at hc
    cases hc
  · intro h
    refine ⟨isNormal_normalizeBase base, fun c => head?_normalizeBase, fun c hlast => ?_⟩
    exact Bool.eq_false_iff.mpr fun hc => h ⟨c, hlast, hc⟩

/-! ### Coming to rest -/

/-- The base path without slashes at its start, and without slashes and white space at its end, in
whatever order. White space at its start is taken off in front of the slashes only. -/
def cleanBase (base : Text) : Text :=
  '/' :: Text.stripRight (fun c => c == '/' || isWhiteSpace c) (base.trim.dropWhile (· == '/'))

theorem IsClean.cleanBase_eq {path : Text} (h : IsClean path) : cleanBase path = path := by
  obtain ⟨rest, rfl, hhead, hlast⟩ := normalize_eq_self_iff.mp (isNormal_iff.mp h.isNormal)
  have hdrop : rest.dropWhile (· == '/') = rest := by
    refine Text.dropWhile_eq_self fun c hc => beq_false_of_ne fun hslash => hhead ?_
    rw [hc, hslash]
  rw [cleanBase, h.trim_eq, List.dropWhile_cons_of_pos (by rfl), hdrop, Text.stripRight_eq_self]
  intro c hc
  have hslash : c ≠ '/' := fun hslash => hlast (hslash ▸ hc)
  simp [h.last c ((getLast?_cons_slash_iff hslash rest).mpr hc), hslash]

/-- What is taken off at first is taken off in the end. -/
theorem cleanBase_normalizeBase (base : Text) :
    cleanBase (normalizeBase base) = cleanBase base := by
  have hdrop : (Text.stripRight isWhiteSpace (trimSlashes base.trim)).dropWhile (· == '/') =
      Text.stripRight isWhiteSpace (trimSlashes base.trim) := by
    refine Text.dropWhile_eq_self fun c hc => beq_false_of_ne fun hslash => ?_
    exact head?_trimSlashes base.trim (hslash ▸ Text.head?_of_head?_stripRight hc)
  rw [normalizeBase_eq, cleanBase, trim_cons_slash, List.dropWhile_cons_of_pos (by rfl), hdrop,
    Text.stripRight_stripRight (fun c hc => by simp [hc]), trimSlashes, Text.strip,
    Text.stripRight_stripRight (fun c hc => by simp [hc]), cleanBase]

theorem cleanBase_iterate (n : Nat) (base : Text) :
    cleanBase (normalizeBase^[n] base) = cleanBase base := by
  induction n generalizing base with
  | zero => rfl
  | succ n ih => rw [Function.iterate_succ_apply, ih, cleanBase_normalizeBase]

/-- A path in normal form that is not clean gets shorter. The induction is on its length. -/
theorem exists_isClean_iterate {path : Text} (h : IsNormal path) :
    ∃ n, IsClean (normalizeBase^[n] path) := by
  induction hlength : path.length using Nat.strongRecOn generalizing path with
  | ind length ih =>
      by_cases hclean : IsClean path
      · exact ⟨0, hclean⟩
      · have hshorter : (normalizeBase path).length < path.length := by
          obtain ⟨rest, rfl, -, -⟩ := normalize_eq_self_iff.mp (isNormal_iff.mp h)
          have hsub := (normalizeBase_sublist rest).trans
            ((Text.stripRight_sublist isWhiteSpace rest).cons_cons '/')
          refine Nat.lt_of_le_of_ne hsub.length_le fun heq => hclean ?_
          exact isClean_iff.mpr (hsub.eq_of_length heq)
        obtain ⟨n, hn⟩ := ih _ (hlength ▸ hshorter) (isNormal_normalizeBase path) rfl
        exact ⟨n + 1, by rwa [Function.iterate_succ_apply]⟩

/-- **The form of the form of a base path, and so on, comes to rest when it is clean.** -/
theorem exists_iterate_eq_cleanBase (base : Text) :
    ∃ n, normalizeBase^[n + 1] base = cleanBase base ∧ IsClean (cleanBase base) := by
  obtain ⟨n, hn⟩ := exists_isClean_iterate (isNormal_normalizeBase base)
  rw [← Function.iterate_succ_apply] at hn
  have heq : normalizeBase^[n + 1] base = cleanBase base := by
    rw [← cleanBase_iterate (n + 1) base, hn.cleanBase_eq]
  exact ⟨n, heq, heq ▸ hn⟩

/-! ### The form of a base path -/

/-- What the form of a base path is. -/
structure BaseForm (base : Text) : Prop where
  /-- It starts with a slash, and there is no other one at its ends. -/
  isNormal : IsNormal (normalizeBase base)
  /-- It does not start with white space. -/
  head : ∀ c, (normalizeBase base).head? = some c → isWhiteSpace c = false
  /-- It ends with white space if the base path has white space in front of the slashes at its
  end. -/
  last : (∃ c, (normalizeBase base).getLast? = some c ∧ isWhiteSpace c = true) ↔ HidesBlank base
  /-- Otherwise, and only then, it is its own form. -/
  fixed : normalizeBase (normalizeBase base) = normalizeBase base ↔ ¬ HidesBlank base
  /-- The form of the form, and so on, comes to rest at a clean path. -/
  settles : ∃ n, normalizeBase^[n + 1] base = cleanBase base ∧ IsClean (cleanBase base) ∧
    normalizeBase (cleanBase base) = cleanBase base

/-- **The form of a base path starts and ends as it should, unless white space stands in front of
the last slashes of the base path.** Then this white space is left at the end, and the form has
another form itself. -/
theorem baseForm_normalizeBase (base : Text) : BaseForm base where
  isNormal := isNormal_normalizeBase base
  head := fun _ => head?_normalizeBase
  last := exists_getLast?_normalizeBase_iff
  fixed := by rw [← isClean_iff, isClean_normalizeBase_iff]
  settles := by
    obtain ⟨n, hn, hclean⟩ := exists_iterate_eq_cleanBase base
    exact ⟨n, hn, hclean, isClean_iff.mp hclean⟩

/-- The white space in front of the last slash is left, and only taken off the second time. -/
theorem normalizeBase_leaves_blank :
    normalizeBase "/api /".toList = "/api ".toList ∧
    (normalizeBase "/api /".toList).getLast? = some ' ' ∧ isWhiteSpace ' ' = true ∧
    normalizeBase (normalizeBase "/api /".toList) = "/api".toList ∧
    normalizeBase (normalizeBase "/api /".toList) ≠ normalizeBase "/api /".toList := by
  decide

end UriRouting.Uri
