import UriRouting.Proofs.Template.Readings
import UriRouting.Proofs.Template.Scanning

/-!
# UriRouting.Proofs.Template.Segment

Templates that are a literal text and one more segment, which is a variable
(`segmentTemplate`).

* `tokenize_segmentTemplate` — such a template has two tokens: no slot reaches over the slash;
* `split_segmentTokens_iff` — a split of a subject is a cut at a slash, with a spelling of the
  literal before it and the value after it;
* `head?_splits_segmentTokens` — there is one at most, since no value has a slash.
-/

namespace UriRouting.Template

/-- A text, a slash and a slot. -/
def segmentTemplate (lead name : Text) : Text :=
  lead ++ '/' :: Slot.write ⟨name, false⟩

/-- A literal, and a variable after a slash. -/
def segmentTokens (lead name : Text) : List Token :=
  [.literal lead, .var ⟨some '/', .segment none, name, false⟩]

/-! ### Scanning -/

/-- Only a brace can be the start of a slot. -/
theorem slotNames_scan_cons {c : Char} (hc : c ≠ '{') (t : Text) :
    slotNames (Piece.scan (c :: t)) = slotNames (Piece.scan t) := by
  rw [scan_cons_of_not_startsSlot (not_startsSlot_cons hc t), slotNames,
    List.filterMap_cons_none rfl]
  rfl

/-- The pieces of a text and one segment. -/
theorem scan_segmentTemplate {lead name : Text} (hlead : slotNames (Piece.scan lead) = [])
    (hne : name ≠ []) (hname : name.all isAsciiWordCharacter = true) :
    Piece.scan (segmentTemplate lead name) =
      lead.map .char ++ [.char '/', .slot ⟨name, false⟩] := by
  have hslot := scan_write_append (s := ⟨name, false⟩) ⟨hne, List.all_eq_true.mp hname⟩ []
  rw [List.append_nil, Piece.scan] at hslot
  rw [segmentTemplate, scan_append_slash, scan_of_slotNames_eq_nil hlead,
    scan_cons_of_not_startsSlot (not_startsSlot_cons (by decide) _), hslot]

theorem slotNames_chars (t : Text) : slotNames (t.map .char) = [] := by
  rw [slotNames, List.map_eq_nil_iff, List.filterMap_map, List.filterMap_eq_nil_iff]
  exact fun _ _ => rfl

/-- The only slot is the one for the segment. -/
theorem slotNames_segmentTemplate {lead name : Text} (hlead : slotNames (Piece.scan lead) = [])
    (hne : name ≠ []) (hname : name.all isAsciiWordCharacter = true) :
    slotNames (Piece.scan (segmentTemplate lead name)) = [name] := by
  have hchars := slotNames_chars lead
  rw [slotNames, List.map_eq_nil_iff] at hchars
  rw [scan_segmentTemplate hlead hne hname, slotNames, List.filterMap_append, hchars]
  rfl

/-! ### Tokens -/

/-- **The tokens of a text and one segment.** -/
theorem tokenize_segmentTemplate {lead name : Text} (hlead : slotNames (Piece.scan lead) = [])
    (hlead' : lead ≠ []) (hne : name ≠ []) (hname : name.all isAsciiWordCharacter = true)
    {anything : List Text} (hanything : name ∉ anything) :
    tokenize (Piece.scan (segmentTemplate lead name)) anything = segmentTokens lead name := by
  have htext : literalToken lead.reverse = [.literal lead] := by
    simp [literalToken, hlead']
  rw [scan_segmentTemplate hlead hne hname, tokenize, ofPieces_append_chars, List.append_nil,
    Token.ofPieces, ofPieces_slot]
  have hvalue : slotVariable anything ('/' :: lead.reverse) ⟨name, false⟩ [] =
      ⟨some '/', .segment none, name, false⟩ := by
    simp [slotVariable, hanything, detach, isSeparator, separators, valueClass]
  rw [hvalue]
  change literalToken lead.reverse ++ _ = _
  rw [htext]
  rfl

/-! ### Splits -/

theorem split_segmentTokens_iff {caseSensitive : Bool} {lead name subject : Text}
    {values : List (Option Text)} :
    Split caseSensitive (segmentTokens lead name) subject values ↔
      ∃ piece value, subject = piece ++ '/' :: value ∧ Spells caseSensitive lead piece ∧
        value ≠ [] ∧ '/' ∉ value ∧ values = [some value] := by
  constructor
  · intro h
    cases h with
    | leading _ hts => cases hts
    | kept m _ hleast hmost h =>
        obtain rfl : m = 2 := Nat.le_antisymm hmost hleast
        cases h with
        | literal hpiece h =>
            cases h with
            | var hvalue h =>
                cases h
                exact ⟨_, _, by simp, hpiece, hvalue.1, hvalue.2.1, rfl⟩
  · rintro ⟨piece, value, rfl, hpiece, hne, hslash, rfl⟩
    have hcovers : Covers caseSensitive ((segmentTokens lead name).take 2) (piece ++ '/' :: value)
        [some value] := by
      have hvalue : Covers caseSensitive [.var ⟨some '/', .segment none, name, false⟩]
          (['/'] ++ value ++ []) [some value] :=
        .var ⟨hne, hslash, by simp⟩ .nil
      rw [List.append_nil] at hvalue
      exact .literal hpiece hvalue
    exact .kept 2 (firstOptional_literal_pos _ _) (Nat.le_refl _) (Nat.le_refl _) hcovers

/-- A text can be cut at its last slash only if what comes after has none. -/
theorem eq_of_append_slash {s s' t t' : Text} (h : s ++ '/' :: t = s' ++ '/' :: t')
    (ht : '/' ∉ t) (ht' : '/' ∉ t') : s = s' ∧ t = t' := by
  rcases List.append_eq_append_iff.mp h with ⟨a, rfl, ha⟩ | ⟨a, rfl, ha⟩
  · cases a with
    | nil => exact ⟨(List.append_nil s).symm, List.tail_eq_of_cons_eq ha⟩
    | cons c a => exact absurd (by rw [List.tail_eq_of_cons_eq ha]; simp) ht
  · cases a with
    | nil => exact ⟨List.append_nil s', (List.tail_eq_of_cons_eq ha).symm⟩
    | cons c a => exact absurd (by rw [List.tail_eq_of_cons_eq ha]; simp) ht'

/-- **The only split of a subject**, if there is one, is at its last slash. -/
theorem head?_splits_segmentTokens {caseSensitive : Bool} {lead name stem value : Text}
    (hne : value ≠ []) (hslash : '/' ∉ value) {values : List (Option Text)} :
    (splits caseSensitive (segmentTokens lead name) (stem ++ '/' :: value)).head? =
        some values ↔ Spells caseSensitive lead stem ∧ values = [some value] := by
  have hsplit (values : List (Option Text)) :
      values ∈ splits caseSensitive (segmentTokens lead name) (stem ++ '/' :: value) ↔
        Spells caseSensitive lead stem ∧ values = [some value] := by
    rw [mem_splits (by simp [segmentTokens]), split_segmentTokens_iff]
    constructor
    · rintro ⟨piece, value', heq, hpiece, -, hslash', rfl⟩
      obtain ⟨rfl, rfl⟩ := eq_of_append_slash heq hslash hslash'
      exact ⟨hpiece, rfl⟩
    · rintro ⟨hpiece, rfl⟩
      exact ⟨stem, value, rfl, hpiece, hne, hslash, rfl⟩
  constructor
  · intro h
    exact (hsplit values).mp (List.mem_of_mem_head? h)
  · intro h
    have hmem := (hsplit values).mpr h
    obtain ⟨found, rest, hsplits⟩ := List.exists_cons_of_ne_nil (List.ne_nil_of_mem hmem)
    have hfound := (hsplit found).mp (by rw [hsplits]; exact List.mem_cons_self ..)
    rw [hsplits, List.head?_cons, hfound.2, h.2]

end UriRouting.Template
