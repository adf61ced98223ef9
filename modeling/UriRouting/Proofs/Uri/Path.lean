import UriRouting.Proofs.Text
import UriRouting.Uri.Path

/-!
# UriRouting.Proofs.Uri.Path

The normal form of paths.

* `normalize_eq` — it is a slash and the path without the slashes at its ends, also where a
  path is given back as it is;
* `normalize_normalize` — it is its own normal form;
* `head?_trimSlashes` — no second slash comes after the first;
* `normalize_eq_self_iff` — a slash is enough where there is none at the ends;
* `join_eq` — a path below a base path is in normal form behind it.
-/

namespace UriRouting.Uri

@[simp] theorem trimSlashes_cons_slash (path : Text) :
    trimSlashes ('/' :: path) = trimSlashes path := rfl

/-- Where slashes have been trimmed, the text does not start with one. -/
theorem head?_trimSlashes (path : Text) : (trimSlashes path).head? ≠ some '/' :=
  fun h => absurd (Text.head?_strip h) (by decide)

/-- Where slashes have been trimmed, the text does not end with one. -/
theorem getLast?_trimSlashes (path : Text) : (trimSlashes path).getLast? ≠ some '/' :=
  fun h => absurd (Text.getLast?_strip h) (by decide)

theorem trimSlashes_sublist (path : Text) : (trimSlashes path).Sublist path :=
  Text.strip_sublist _ path

theorem trimSlashes_eq_self {path : Text} (hhead : path.head? ≠ some '/')
    (hlast : path.getLast? ≠ some '/') : trimSlashes path = path := by
  refine Text.strip_eq_self (fun c hc => ?_) (fun c hc => ?_)
  · exact beq_false_of_ne fun hslash => hhead (hslash ▸ hc)
  · exact beq_false_of_ne fun hslash => hlast (hslash ▸ hc)

theorem trimSlashes_trimSlashes (path : Text) :
    trimSlashes (trimSlashes path) = trimSlashes path :=
  Text.strip_strip _ path

/-- Slashes at the ends of a text are trimmed with it. -/
theorem trimSlashes_replicate_append (m : Nat) (text : Text) :
    trimSlashes (List.replicate m '/' ++ text) = trimSlashes text :=
  Text.strip_append_left (by simp) text

theorem trimSlashes_append_replicate (text : Text) (n : Nat) :
    trimSlashes (text ++ List.replicate n '/') = trimSlashes text :=
  Text.strip_append_right (by simp) text

/-- **The normal form is a slash and the path without the slashes at its ends.** -/
theorem normalize_eq (path : Text) : normalize path = '/' :: trimSlashes path := by
  unfold normalize
  dsimp only
  split
  · rename_i h
    simp only [Bool.or_eq_true, Bool.and_eq_true, beq_iff_eq] at h
    rcases h with ⟨hlength, hhead⟩ | rfl
    · obtain ⟨rest, rfl⟩ := List.head?_eq_some_iff.mp hhead
      -- nothing but the first slash has been trimmed
      rw [trimSlashes_cons_slash, List.length_cons, Nat.add_right_cancel_iff] at hlength
      rw [trimSlashes_cons_slash, (trimSlashes_sublist rest).eq_of_length hlength.symm]
    · rfl
  · rfl

@[simp] theorem normalize_normalize (path : Text) : normalize (normalize path) = normalize path := by
  rw [normalize_eq, normalize_eq path, trimSlashes_cons_slash, trimSlashes_trimSlashes]

/-- A text with a slash before it, and no other one at its ends, is in normal form. -/
theorem normalize_cons_slash {path : Text} (hhead : path.head? ≠ some '/')
    (hlast : path.getLast? ≠ some '/') : normalize ('/' :: path) = '/' :: path := by
  rw [normalize_eq, trimSlashes_cons_slash, trimSlashes_eq_self hhead hlast]

theorem normalize_eq_self_iff {path : Text} :
    normalize path = path ↔
      ∃ rest, path = '/' :: rest ∧ rest.head? ≠ some '/' ∧ rest.getLast? ≠ some '/' := by
  constructor
  · intro h
    rw [normalize_eq] at h
    exact ⟨_, h.symm, head?_trimSlashes path, getLast?_trimSlashes path⟩
  · rintro ⟨rest, rfl, hhead, hlast⟩
    exact normalize_cons_slash hhead hlast

/-! ### Joining -/

@[simp] theorem normalize_normalizeBase (base : Text) :
    normalize (normalizeBase base) = normalizeBase base := by
  unfold normalizeBase
  extract_lets trimmed
  split
  · rfl
  · exact normalize_normalize trimmed

@[simp] theorem normalize_join (base uri : Text) : normalize (join base uri) = join base uri :=
  normalize_normalize _

/-- What a base path puts in front of paths: a single slash is nothing in front of the slash that
a path starts with. -/
def stem (base : Text) : Text :=
  if base = ['/'] then [] else base

/-- **A path below a base path is in normal form behind it.** A path that is a single slash only
stands for the base path itself. -/
theorem join_eq {base : Text} (hbase : normalize base = base) (uri : Text) :
    join base uri = if normalize uri = ['/'] then base else stem base ++ normalize uri := by
  obtain ⟨rest, rfl, hhead, hlast⟩ := normalize_eq_self_iff.mp hbase
  obtain ⟨path, huri, hpath⟩ : ∃ path, normalize uri = '/' :: path ∧ path = trimSlashes uri :=
    ⟨_, normalize_eq uri, rfl⟩
  rw [join, huri, List.cons_append, normalize_eq, trimSlashes_cons_slash]
  split
  · rename_i hroot
    rw [List.tail_eq_of_cons_eq hroot, show rest ++ ['/'] = rest ++ List.replicate 1 '/' from rfl,
      trimSlashes_append_replicate, trimSlashes_eq_self hhead hlast]
  · rename_i hroot
    rw [stem]
    split
    · rename_i hslash
      rw [List.tail_eq_of_cons_eq hslash, List.nil_append, trimSlashes_cons_slash, hpath,
        trimSlashes_trimSlashes]
    · rename_i hslash
      obtain ⟨c, rest, rfl⟩ := List.exists_cons_of_ne_nil fun h => hslash (congrArg ('/' :: ·) h)
      obtain ⟨d, path, rfl⟩ := List.exists_cons_of_ne_nil fun h => hroot (congrArg ('/' :: ·) h)
      -- the last character is that of the path
      have hend : (c :: rest ++ '/' :: d :: path).getLast? ≠ some '/' := by
        rw [List.getLast?_append_cons, List.getLast?_cons_cons, hpath]
        exact getLast?_trimSlashes uri
      have htrim : trimSlashes (c :: rest ++ '/' :: d :: path) = c :: rest ++ '/' :: d :: path :=
        trimSlashes_eq_self hhead hend
      rw [htrim]
      rfl

end UriRouting.Uri
