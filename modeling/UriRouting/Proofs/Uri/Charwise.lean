import Mathlib.Data.List.Forall2
import UriRouting.Proofs.Unicode.Folding
import UriRouting.Uri.Comparison

/-!
# UriRouting.Proofs.Uri.Charwise

Texts are compared up to case in one of two ways, by the letters of ASCII if both texts are made
of ASCII, and by lower-case forms otherwise. It does not matter which way is taken: both compare
one character after the other (`sameFolded`), and within ASCII they agree.

* `eqFolded_iff` — two texts are equal if their characters are, one by one;
* `startsWithFolded_iff` — a text starts with another if as much of it is equal to the other one.
-/

namespace UriRouting.Uri

/-- Whether two characters are equal, up to case unless `caseSensitive`. -/
def sameFolded (caseSensitive : Bool) (c d : Char) : Bool :=
  if caseSensitive then c == d else sameLowercase c d

theorem sameLowercase_eq (c d : Char) :
    sameLowercase c d = (Unicode.toLowercase c == Unicode.toLowercase d) := by
  rw [sameLowercase]
  by_cases h : c = d
  · subst h
    simp
  · simp [h]

theorem sameLowercase_comm (c d : Char) : sameLowercase c d = sameLowercase d c := by
  rw [sameLowercase_eq, sameLowercase_eq, BEq.comm]

theorem sameFolded_comm (caseSensitive : Bool) (c d : Char) :
    sameFolded caseSensitive c d = sameFolded caseSensitive d c := by
  cases caseSensitive with
  | true => exact BEq.comm
  | false => exact sameLowercase_comm c d

/-- Within ASCII the lower-case forms are the small letters. -/
theorem sameLowercase_iff_of_isAscii {c d : Char} (hc : c.toNat < 0x80) (hd : d.toNat < 0x80) :
    sameLowercase c d = true ↔ c.toLower = d.toLower := by
  rw [sameLowercase_eq, Unicode.toLowercase_eq_toLower hc, Unicode.toLowercase_eq_toLower hd]
  simp

theorem eqCharwise_iff {s t : Text} :
    eqCharwise s t = true ↔ List.Forall₂ (fun c d => sameLowercase c d = true) s t := by
  induction s generalizing t with
  | nil => cases t <;> simp [eqCharwise]
  | cons c s ih => cases t <;> simp [eqCharwise, ih]

theorem eqIgnoreCase_iff {s t : Text} (hs : s.isAscii = true) (ht : t.isAscii = true) :
    s.eqIgnoreCase t = true ↔ List.Forall₂ (fun c d => sameLowercase c d = true) s t := by
  induction s generalizing t with
  | nil => cases t <;> simp [Text.eqIgnoreCase, Text.lower]
  | cons c s ih =>
      cases t with
      | nil => simp [Text.eqIgnoreCase, Text.lower]
      | cons d t =>
          simp only [Text.isAscii, List.all_cons, Bool.and_eq_true, decide_eq_true_eq] at hs ht
          have htail := ih hs.2 ht.2
          simp only [Text.eqIgnoreCase, Text.lower, beq_iff_eq] at htail
          simp only [Text.eqIgnoreCase, Text.lower, beq_iff_eq, List.map_cons, List.cons.injEq,
            List.forall₂_cons, sameLowercase_iff_of_isAscii hs.1 ht.1, htail]

theorem startsCharwise_iff {s start : Text} :
    startsCharwise s start = true ↔
      List.Forall₂ (fun c d => sameLowercase c d = true) (s.take start.length) start := by
  induction start generalizing s with
  | nil => cases s <;> simp [startsCharwise]
  | cons d start ih => cases s <;> simp [startsCharwise, ih]

/-- **Texts are equal up to case if their characters are.** -/
theorem eqFolded_iff {s t : Text} {caseSensitive : Bool} :
    eqFolded s t caseSensitive = true ↔
      List.Forall₂ (fun c d => sameFolded caseSensitive c d = true) s t := by
  cases caseSensitive with
  | true => simp [eqFolded, sameFolded]
  | false =>
      rw [eqFolded, if_neg (by decide)]
      split
      · rename_i hascii
        rw [Bool.and_eq_true] at hascii
        exact eqIgnoreCase_iff hascii.1 hascii.2
      · exact eqCharwise_iff

/-- **A text starts with another one up to case if as much of it is equal to that one.** -/
theorem startsWithFolded_iff {s start : Text} {caseSensitive : Bool} :
    startsWithFolded s start caseSensitive = true ↔
      List.Forall₂ (fun c d => sameFolded caseSensitive c d = true) (s.take start.length)
        start := by
  cases caseSensitive with
  | true =>
      rw [startsWithFolded, if_pos rfl, List.isPrefixOf_iff_prefix, List.prefix_iff_eq_take,
        eq_comm]
      simp [sameFolded]
  | false =>
      rw [startsWithFolded, if_neg (by decide)]
      split
      · rename_i hascii
        rw [Bool.and_eq_true] at hascii
        have htake : Text.isAscii (s.take start.length) = true := by
          have hall := List.all_eq_true.mp hascii.1
          exact List.all_eq_true.mpr fun c hc => hall c (List.mem_of_mem_take hc)
        rw [Bool.and_eq_true, eqIgnoreCase_iff htake hascii.2, decide_eq_true_eq]
        constructor
        · exact fun h => h.2
        · intro h
          have hlength := h.length_eq
          rw [List.length_take] at hlength
          exact ⟨by omega, h⟩
      · exact startsCharwise_iff

end UriRouting.Uri
