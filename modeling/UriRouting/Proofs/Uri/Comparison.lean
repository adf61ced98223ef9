import UriRouting.Proofs.Text.Bytes
import UriRouting.Proofs.Uri.Charwise

/-!
# UriRouting.Proofs.Uri.Comparison

Texts are compared by what a comparison sees of their characters (`seen`), all of it with regard to
case, and their lower-case forms without. So the comparisons have the laws that equality has.

* `eqFolded_iff_map` — texts are equal if the same is seen of them;
* `startsWithFolded_iff_exists` — a text starts with another if a front part of it is equal to the
  other one;
* `comparisons_coherent` — the laws (`CoherentComparison`), whichever way the comparisons take.
-/

namespace UriRouting.Uri

/-- What a comparison sees of a character. -/
def seen (caseSensitive : Bool) (c : Char) : Text :=
  if caseSensitive then [c] else Unicode.toLowercase c

theorem sameFolded_iff {caseSensitive : Bool} {c d : Char} :
    sameFolded caseSensitive c d = true ↔ seen caseSensitive c = seen caseSensitive d := by
  cases caseSensitive with
  | true => simp [sameFolded, seen]
  | false => simp [sameFolded, seen, sameLowercase_eq]

theorem forall₂_sameFolded_iff {caseSensitive : Bool} {s t : Text} :
    List.Forall₂ (fun c d => sameFolded caseSensitive c d = true) s t ↔
      s.map (seen caseSensitive) = t.map (seen caseSensitive) := by
  have heq : s.map (seen caseSensitive) = t.map (seen caseSensitive) ↔
      List.Forall₂ (· = ·) (s.map (seen caseSensitive)) (t.map (seen caseSensitive)) := by
    rw [List.forall₂_eq_eq_eq]
  rw [heq, List.forall₂_map_left_iff, List.forall₂_map_right_iff]
  simp only [sameFolded_iff]

/-- **Texts are equal if the same is seen of them.** -/
theorem eqFolded_iff_map {s t : Text} {caseSensitive : Bool} :
    eqFolded s t caseSensitive = true ↔
      s.map (seen caseSensitive) = t.map (seen caseSensitive) :=
  eqFolded_iff.trans forall₂_sameFolded_iff

/-- **A text starts with another if a front part of it is equal to that one.** -/
theorem startsWithFolded_iff_exists {s start : Text} {caseSensitive : Bool} :
    startsWithFolded s start caseSensitive = true ↔
      ∃ front back, s = front ++ back ∧ eqFolded front start caseSensitive = true := by
  rw [startsWithFolded_iff]
  simp only [eqFolded_iff]
  constructor
  · intro h
    exact ⟨_, _, (List.take_append_drop start.length s).symm, h⟩
  · intro h
    obtain ⟨front, back, rfl, hfront⟩ := h
    rwa [List.take_left' hfront.length_eq]

@[simp] theorem eqFolded_self (t : Text) (caseSensitive : Bool) :
    eqFolded t t caseSensitive = true :=
  eqFolded_iff_map.mpr rfl

@[simp] theorem startsWithFolded_append (start t : Text) (caseSensitive : Bool) :
    startsWithFolded (start ++ t) start caseSensitive = true :=
  startsWithFolded_iff_exists.mpr ⟨start, t, rfl, eqFolded_self start caseSensitive⟩

/-! ### Both ways -/

/-- It makes no difference that texts of ASCII are compared by the letters of ASCII. -/
theorem eqFolded_eq_eqCharwise (s t : Text) : eqFolded s t false = eqCharwise s t := by
  rw [Bool.eq_iff_iff, eqFolded_iff, eqCharwise_iff]
  rfl

theorem startsWithFolded_eq_startsCharwise (s start : Text) :
    startsWithFolded s start false = startsCharwise s start := by
  rw [Bool.eq_iff_iff, startsWithFolded_iff, startsCharwise_iff]
  rfl

/-! ### Laws -/

theorem equivalence_eqFolded (caseSensitive : Bool) :
    Equivalence fun s t : Text => eqFolded s t caseSensitive = true := by
  simp only [eqFolded_iff_map]
  exact ⟨fun _ => rfl, Eq.symm, Eq.trans⟩

theorem eqFolded_append {s s' t t' : Text} {caseSensitive : Bool}
    (hs : eqFolded s s' caseSensitive = true) (ht : eqFolded t t' caseSensitive = true) :
    eqFolded (s ++ t) (s' ++ t') caseSensitive = true := by
  rw [eqFolded_iff_map] at hs ht ⊢
  rw [List.map_append, List.map_append, hs, ht]

/-- The laws of comparing texts, with or without regard to case. -/
structure CoherentComparison (caseSensitive : Bool) : Prop where
  /-- Each text equals itself, and two texts that equal a third one equal each other. -/
  equivalence : Equivalence fun s t : Text => eqFolded s t caseSensitive = true
  /-- Texts made of equal parts are equal. -/
  append : ∀ s s' t t', eqFolded s s' caseSensitive = true → eqFolded t t' caseSensitive = true →
    eqFolded (s ++ t) (s' ++ t') caseSensitive = true
  /-- A text starts with another if, cut at some number of bytes where a character ends, its front
  part equals the other one. -/
  start : ∀ s start, startsWithFolded s start caseSensitive = true ↔
    ∃ n front back, Text.splitAtByte? n s = some (front, back) ∧
      eqFolded front start caseSensitive = true

theorem coherentComparison (caseSensitive : Bool) : CoherentComparison caseSensitive where
  equivalence := equivalence_eqFolded caseSensitive
  append := by
    intro s s' t t' hs ht
    exact eqFolded_append hs ht
  start := by
    intro s start
    rw [startsWithFolded_iff_exists]
    constructor
    · intro h
      obtain ⟨front, back, rfl, hfront⟩ := h
      exact ⟨_, front, back, Text.splitAtByte?_append front back, hfront⟩
    · intro h
      obtain ⟨n, front, back, hcut, hfront⟩ := h
      exact ⟨front, back, (Text.of_splitAtByte? hcut).1, hfront⟩

/-- **The comparisons are coherent**: with or without regard to case they have the laws of equality
and of its fronts, and without it the way by the letters of ASCII leads to the same. -/
theorem comparisons_coherent :
    (∀ s t, eqFolded s t false = eqCharwise s t) ∧
      (∀ s start, startsWithFolded s start false = startsCharwise s start) ∧
        ∀ caseSensitive, CoherentComparison caseSensitive :=
  ⟨eqFolded_eq_eqCharwise, startsWithFolded_eq_startsCharwise, coherentComparison⟩

/-- The Kelvin sign equals the small letter and the capital of ASCII, and these equal each other. -/
example : eqFolded ['\u212A'] ['k'] false = true ∧ eqFolded ['K'] ['\u212A'] false = true ∧
    eqFolded ['K'] ['k'] false = true := by
  decide +kernel

end UriRouting.Uri
