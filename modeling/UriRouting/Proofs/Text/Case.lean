import Mathlib
import UriRouting.Proofs.Text
import UriRouting.Proofs.Unicode.Folding

/-!
# UriRouting.Proofs.Text.Case

Texts in capitals and in small letters, where only the letters of ASCII change.

* `upper_eq_upper_iff` — texts that agree in capitals are those that agree in small letters;
* `trim_upper`, `trim_lower` — neither case changes what is white space.
-/

namespace UriRouting

/-! ### Letters -/

namespace Unicode

theorem toUpper_eq_self {c : Char} (hc : 0x80 ≤ c.toNat) : c.toUpper = c := by
  unfold Char.toUpper
  split
  · rename_i h
    simp [UInt32.le_iff_toNat_le] at h
    omega
  · rfl

/-- A law about the case of characters holds if it holds in ASCII and where case changes nothing. -/
theorem of_isAscii_of_caseless {P : Char → Prop} (hascii : ∀ n < 0x80, P (Char.ofNat n))
    (hrest : ∀ c : Char, c.toUpper = c → c.toLower = c → P c) (c : Char) : P c := by
  rcases Nat.lt_or_ge c.toNat 0x80 with hc | hc
  · exact of_isAscii hascii hc
  · exact hrest c (toUpper_eq_self hc) (toLower_eq_self hc)

theorem isWhiteSpace_toUpper (c : Char) : isWhiteSpace c.toUpper = isWhiteSpace c :=
  of_isAscii_of_caseless (P := fun c => isWhiteSpace c.toUpper = isWhiteSpace c)
    (by decide +kernel) (fun c hupper _ => by rw [hupper]) c

theorem isWhiteSpace_toLower (c : Char) : isWhiteSpace c.toLower = isWhiteSpace c :=
  of_isAscii_of_caseless (P := fun c => isWhiteSpace c.toLower = isWhiteSpace c)
    (by decide +kernel) (fun c _ hlower => by rw [hlower]) c

end Unicode

open Unicode (isWhiteSpace_toUpper isWhiteSpace_toLower)

namespace Text

/-! ### Texts -/

@[simp] theorem upper_eq_nil_iff {t : Text} : t.upper = [] ↔ t = [] := List.map_eq_nil_iff

@[simp] theorem lower_eq_nil_iff {t : Text} : t.lower = [] ↔ t = [] := List.map_eq_nil_iff

@[simp] theorem lower_upper (t : Text) : t.upper.lower = t.lower := by
  simp [upper, lower]

@[simp] theorem upper_lower (t : Text) : t.lower.upper = t.upper := by
  simp [upper, lower]

@[simp] theorem lower_lower (t : Text) : t.lower.lower = t.lower := by
  rw [← lower_upper t.lower, upper_lower, lower_upper]

@[simp] theorem upper_upper (t : Text) : t.upper.upper = t.upper := by
  rw [← upper_lower t.upper, lower_upper, upper_lower]

/-- Texts agree in capitals if they agree in small letters. -/
theorem upper_eq_upper_iff {s t : Text} : s.upper = t.upper ↔ s.lower = t.lower := by
  constructor
  · intro h
    rw [← lower_upper s, h, lower_upper]
  · intro h
    rw [← upper_lower s, h, upper_lower]

theorem trim_upper (t : Text) : t.upper.trim = t.trim.upper :=
  strip_map isWhiteSpace_toUpper t

theorem trim_lower (t : Text) : t.lower.trim = t.trim.lower :=
  strip_map isWhiteSpace_toLower t

end Text

end UriRouting
