import Mathlib.Data.List.DropRight
import UriRouting.Text

/-!
# UriRouting.Proofs.Text

What is stripped of texts.

* `exists_strip`, `strip_eq_self`, `strip_append_left`, `strip_append_right` — what stripping leaves
  of a text, and what it takes off;
* `strip_strip`, `strip_map` — stripping is done once and for all, and what does not tell two
  characters apart commutes with a map that identifies them.
-/

namespace UriRouting

namespace Text

/-! ### Stripping -/

theorem stripRight_eq (p : Char → Bool) (t : Text) : stripRight p t = t.rdropWhile p := rfl

theorem stripRight_sublist (p : Char → Bool) (t : Text) : (stripRight p t).Sublist t :=
  (List.rdropWhile_prefix p t).sublist

theorem stripRight_cons_of_neg {p : Char → Bool} {c : Char} (hc : p c = false) (t : Text) :
    stripRight p (c :: t) = c :: stripRight p t := by
  rw [stripRight, List.reverse_cons, List.dropWhile_append]
  split
  · rename_i hempty
    rw [stripRight, List.isEmpty_iff.mp hempty, List.dropWhile_cons_of_neg (by simp [hc])]
    rfl
  · simp [stripRight]

/-- What has been stripped before makes no difference where more is stripped. -/
theorem stripRight_stripRight {p q : Char → Bool} (h : ∀ c, p c = true → q c = true) (t : Text) :
    stripRight q (stripRight p t) = stripRight q t := by
  simp only [stripRight_eq]
  induction t using List.reverseRecOn with
  | nil => rfl
  | append_singleton t c ih =>
      cases hc : p c with
      | true =>
          rw [List.rdropWhile_concat_pos _ _ _ hc, ih, List.rdropWhile_concat_pos _ _ _ (h c hc)]
      | false => rw [List.rdropWhile_concat_neg _ _ _ (by simp [hc])]

theorem strip_eq (p : Char → Bool) (t : Text) : strip p t = (t.dropWhile p).rdropWhile p := rfl

theorem strip_sublist (p : Char → Bool) (t : Text) : (strip p t).Sublist t :=
  (stripRight_sublist p _).trans (List.dropWhile_sublist _)

theorem head?_of_head?_stripRight {p : Char → Bool} {t : Text} {c : Char}
    (h : (stripRight p t).head? = some c) : t.head? = some c := by
  obtain ⟨u, hu⟩ := List.head?_eq_some_iff.mp h
  obtain ⟨back, hback⟩ : stripRight p t <+: t := List.rdropWhile_prefix p t
  rw [← hback, hu]
  rfl

/-- Where characters have been stripped, the text does not start with one. -/
theorem head?_strip {p : Char → Bool} {t : Text} {c : Char} (h : (strip p t).head? = some c) :
    p c = false := by
  have hhead := List.head?_dropWhile_not p t
  rwa [head?_of_head?_stripRight h] at hhead

theorem getLast?_stripRight {p : Char → Bool} {t : Text} {c : Char}
    (h : (stripRight p t).getLast? = some c) : p c = false := by
  have hhead := List.head?_dropWhile_not p t.reverse
  rw [stripRight, List.getLast?_reverse] at h
  rwa [h] at hhead

theorem getLast?_strip {p : Char → Bool} {t : Text} {c : Char}
    (h : (strip p t).getLast? = some c) : p c = false :=
  getLast?_stripRight h

theorem stripRight_eq_self {p : Char → Bool} {t : Text}
    (hlast : ∀ c, t.getLast? = some c → p c = false) : stripRight p t = t := by
  rw [stripRight_eq, List.rdropWhile_eq_self_iff]
  intro hne
  simp [hlast _ (List.getLast?_eq_getLast_of_ne_nil hne)]

theorem exists_dropWhile_eq_cons {p : Char → Bool} {t : Text} {c : Char} (hmem : c ∈ t)
    (hc : p c = false) : ∃ d rest, t.dropWhile p = d :: rest ∧ p d = false := by
  have hhead := List.head?_dropWhile_not p t
  cases hdrop : t.dropWhile p with
  | nil => simp [List.dropWhile_eq_nil_iff.mp hdrop c hmem] at hc
  | cons d rest =>
      rw [hdrop] at hhead
      exact ⟨d, rest, rfl, hhead⟩

theorem dropWhile_eq_self {p : Char → Bool} {t : Text}
    (hhead : ∀ c, t.head? = some c → p c = false) : t.dropWhile p = t := by
  cases t with
  | nil => rfl
  | cons c t => exact List.dropWhile_cons_of_neg (by simp [hhead c rfl])

/-- A text with nothing to strip at its ends is left as it is. -/
theorem strip_eq_self {p : Char → Bool} {t : Text} (hhead : ∀ c, t.head? = some c → p c = false)
    (hlast : ∀ c, t.getLast? = some c → p c = false) : strip p t = t := by
  rw [strip, dropWhile_eq_self hhead, stripRight_eq_self hlast]

@[simp] theorem strip_strip (p : Char → Bool) (t : Text) : strip p (strip p t) = strip p t :=
  strip_eq_self (fun _ => head?_strip) (fun _ => getLast?_strip)

theorem strip_append_left {p : Char → Bool} {front : Text} (h : ∀ c ∈ front, p c = true)
    (t : Text) : strip p (front ++ t) = strip p t := by
  rw [strip, List.dropWhile_append_of_pos h, strip]

theorem strip_append_right {p : Char → Bool} {back : Text} (h : ∀ c ∈ back, p c = true)
    (t : Text) : strip p (t ++ back) = strip p t := by
  rw [strip, List.dropWhile_append]
  split
  · rename_i hempty
    rw [strip, List.isEmpty_iff.mp hempty, List.dropWhile_eq_nil_iff.mpr h]
  · rw [stripRight, List.reverse_append, List.dropWhile_append_of_pos (by simpa using h), strip,
      stripRight]

/-- What is not stripped stays at the end. -/
theorem getLast?_strip_concat {p : Char → Bool} {c : Char} (hc : p c = false) (t : Text) :
    (strip p (t ++ [c])).getLast? = some c := by
  have hstay (u : Text) : (stripRight p (u ++ [c])).getLast? = some c := by
    rw [stripRight_eq_self (by simp [hc]), List.getLast?_concat]
  rw [strip, List.dropWhile_append]
  split
  · rw [List.dropWhile_cons_of_neg (by simp [hc])]
    exact hstay []
  · exact hstay _

/-- A text is what is left of it, with what has been stripped around it. -/
theorem exists_strip (p : Char → Bool) (t : Text) :
    ∃ front back, t = front ++ strip p t ++ back ∧ (∀ c ∈ front, p c = true) ∧
      ∀ c ∈ back, p c = true := by
  refine ⟨t.takeWhile p, (t.dropWhile p).rtakeWhile p, ?_, fun c => List.mem_takeWhile_imp,
    fun c => List.mem_rtakeWhile_imp⟩
  rw [List.append_assoc, strip_eq, List.rdropWhile_append_rtakeWhile,
    List.takeWhile_append_dropWhile]

theorem strip_map {p : Char → Bool} {f : Char → Char} (h : ∀ c, p (f c) = p c) (t : Text) :
    strip p (t.map f) = (strip p t).map f := by
  have hp : p ∘ f = p := funext h
  simp [strip, stripRight, List.dropWhile_map, hp, ← List.map_reverse]

@[simp] theorem trim_trim (t : Text) : t.trim.trim = t.trim := strip_strip _ t

end Text

end UriRouting
