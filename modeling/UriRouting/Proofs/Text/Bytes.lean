import UriRouting.Text

/-!
# UriRouting.Proofs.Text.Bytes

Texts cut at numbers of bytes. There is nothing to cut where a number of bytes ends within a
character or goes beyond the text.

* `splitAtByte?_eq_some_iff` — the two sides of a cut are the text, and the first one has the
  bytes;
* `append_inj_of_utf8Size` — there is one cut at most;
* `between?_append` — what stands between two other texts is cut out by its bytes;
* `StandsAt.unique` — one character at most stands behind a number of bytes.
-/

namespace UriRouting.Text

/-- The parts of a text before and after a number of bytes. -/
def splitAtByte? : Nat → Text → Option (Text × Text)
  | 0, t => some ([], t)
  | _ + 1, [] => none
  | n + 1, c :: t =>
    if c.utf8Size ≤ n + 1 then
      (splitAtByte? (n + 1 - c.utf8Size) t).map fun cut => (c :: cut.1, cut.2)
    else none

/-- The part of a text between two numbers of bytes. -/
def between? (t : Text) (start stop : Nat) : Option Text :=
  (splitAtByte? stop t).bind fun cut => (splitAtByte? start cut.1).map (·.2)

theorem splitAtByte?_append (u v : Text) : splitAtByte? u.utf8Size (u ++ v) = some (u, v) := by
  induction u with
  | nil => cases v <;> rfl
  | cons c u ih =>
      obtain ⟨n, hn⟩ : ∃ n, c.utf8Size + utf8Size u = n + 1 :=
        Nat.exists_eq_add_one_of_ne_zero (by have hpos := c.utf8Size_pos; omega)
      have hrest : n + 1 - c.utf8Size = utf8Size u := by omega
      rw [utf8Size_cons, hn, List.cons_append, splitAtByte?, if_pos (by omega), hrest, ih]
      rfl

theorem of_splitAtByte? {n : Nat} {t u v : Text} (h : splitAtByte? n t = some (u, v)) :
    t = u ++ v ∧ u.utf8Size = n := by
  induction t generalizing n u with
  | nil =>
      cases n with
      | zero =>
          cases h
          exact ⟨rfl, rfl⟩
      | succ n => cases h
  | cons c t ih =>
      cases n with
      | zero =>
          cases h
          exact ⟨rfl, rfl⟩
      | succ n =>
          rw [splitAtByte?] at h
          split at h
          · obtain ⟨⟨u', v'⟩, hrest, hcut⟩ := Option.map_eq_some_iff.mp h
            cases hcut
            obtain ⟨rfl, hsize⟩ := ih hrest
            refine ⟨rfl, ?_⟩
            show c.utf8Size + utf8Size u' = n + 1
            omega
          · cases h

/-- **A text is cut at a number of bytes** if that is the number of bytes of its first part. -/
theorem splitAtByte?_eq_some_iff {n : Nat} {t u v : Text} :
    splitAtByte? n t = some (u, v) ↔ t = u ++ v ∧ u.utf8Size = n := by
  constructor
  · exact of_splitAtByte?
  · rintro ⟨rfl, rfl⟩
    exact splitAtByte?_append u v

/-- A text has one cut at a number of bytes. -/
theorem append_inj_of_utf8Size {u u' v v' : Text} (h : u ++ v = u' ++ v')
    (hsize : utf8Size u = utf8Size u') : u = u' ∧ v = v' := by
  have hcut := splitAtByte?_append u v
  rw [h, hsize, splitAtByte?_append] at hcut
  cases hcut
  exact ⟨rfl, rfl⟩

theorem between?_append (u s v : Text) :
    between? (u ++ s ++ v) u.utf8Size (u ++ s).utf8Size = some s := by
  rw [between?, splitAtByte?_append, Option.bind_some, splitAtByte?_append, Option.map_some]

theorem between?_append_end (u s : Text) :
    between? (u ++ s) u.utf8Size (u ++ s).utf8Size = some s := by
  have hcut := between?_append u s []
  rwa [List.append_nil] at hcut

/-- A character stands in a text behind a number of bytes. -/
def StandsAt (t : Text) (n : Nat) (c : Char) : Prop :=
  ∃ before after, t = before ++ c :: after ∧ utf8Size before = n

theorem StandsAt.unique {t : Text} {n : Nat} {c d : Char} (hc : StandsAt t n c)
    (hd : StandsAt t n d) : c = d := by
  obtain ⟨before, after, rfl, hsize⟩ := hc
  obtain ⟨before', after', heq, hsize'⟩ := hd
  obtain ⟨-, hrest⟩ := append_inj_of_utf8Size heq (hsize.trans hsize'.symm)
  exact List.head_eq_of_cons_eq hrest

end UriRouting.Text
