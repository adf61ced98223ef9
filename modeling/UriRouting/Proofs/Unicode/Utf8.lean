import Mathlib.Data.List.Forall2
import UriRouting.Proofs.Unicode.Interval
import UriRouting.Unicode.Utf8

/-!
# UriRouting.Proofs.Unicode.Utf8

The encodings of the characters of an interval.

* `Interval.chooses_byteRanges_iff` — the numbers of an interval, byte by byte;
* `bytes_eq_encode` — the bytes of a character, by the form of its encoding;
* `Interval.chooses_utf8_iff` — the characters of an interval are those that are encoded as a choice
  from one of its sequences.
-/

namespace UriRouting.Unicode

/-- The bytes of a number, where `units` is what one counts in each byte but the last. -/
def encode (mark : Nat) : List Nat → Nat → List Nat
  | [], n => [mark + n]
  | unit :: units, n => (mark + n / unit) :: encode continuationMark units (n % unit)

/-- Each byte but the first has as many values as it takes to fill one unit of the byte before. -/
def IsUnits : List Nat → Prop
  | [] => True
  | [unit] => unit = continuationValues
  | unit :: unit' :: units => unit = continuationValues * unit' ∧ IsUnits (unit' :: units)

/-- Some bytes are a choice from some ranges of bytes. -/
def Chooses (seq : List Interval) (bytes : List Nat) : Prop :=
  List.Forall₂ (fun range byte => range.contains byte = true) seq bytes

theorem IsUnits.pos {unit : Nat} {units : List Nat} (h : IsUnits (unit :: units)) : 0 < unit := by
  induction units generalizing unit with
  | nil =>
      rw [show unit = continuationValues from h]
      decide
  | cons unit' units ih =>
      rw [h.1]
      exact Nat.mul_pos (by decide) (ih h.2)

theorem IsUnits.tail {unit : Nat} {units : List Nat} (h : IsUnits (unit :: units)) :
    IsUnits units := by
  cases units with
  | nil => trivial
  | cons unit' units => exact h.2

/-- Numbers with the same leading digit are ordered by what is behind it. -/
theorem le_iff_div_mod {unit m n : Nat} (h : 0 < unit) :
    m ≤ n ↔ m / unit < n / unit ∨ m / unit = n / unit ∧ m % unit ≤ n % unit := by
  have hm := Nat.div_add_mod m unit
  have hn := Nat.div_add_mod n unit
  have hmlt := Nat.mod_lt m h
  have hnlt := Nat.mod_lt n h
  rcases Nat.lt_trichotomy (m / unit) (n / unit) with hlt | heq | hgt
  · have hmul := Nat.mul_le_mul_left unit (Nat.succ_le_of_lt hlt)
    rw [Nat.mul_succ] at hmul
    omega
  · rw [heq] at hm ⊢
    omega
  · have hmul := Nat.mul_le_mul_left unit (Nat.succ_le_of_lt hgt)
    rw [Nat.mul_succ] at hmul
    omega

namespace Interval

theorem contains_marked_iff {mark first last n : Nat} :
    (marked mark first last).contains (mark + n) = true ↔ first ≤ n ∧ n ≤ last := by
  rw [contains_iff]
  simp only [marked]
  omega

/-- Bytes that are free to take all values make up the numbers of a unit. -/
theorem chooses_full {unit : Nat} {units : List Nat} (h : IsUnits (unit :: units)) {n : Nat}
    (hn : n < unit) :
    Chooses ((unit :: units).map fun _ => marked continuationMark 0 (continuationValues - 1))
      (encode continuationMark units n) := by
  induction units generalizing unit n with
  | nil =>
      rw [show unit = continuationValues from h] at hn
      exact .cons (contains_marked_iff.mpr ⟨Nat.zero_le n, Nat.le_sub_one_of_lt hn⟩) .nil
  | cons unit' units ih =>
      have hlt : n / unit' < continuationValues := by
        rw [h.1] at hn
        exact Nat.div_lt_of_lt_mul (by rwa [Nat.mul_comm])
      exact .cons (contains_marked_iff.mpr ⟨Nat.zero_le _, Nat.le_sub_one_of_lt hlt⟩)
        (ih h.2 (Nat.mod_lt n h.2.pos))

theorem exists_mem_ite_iff {α : Type} {p : α → Prop} {c : Prop} [Decidable c] {l : List α} :
    (∃ a ∈ if c then l else [], p a) ↔ c ∧ ∃ a ∈ l, p a := by
  by_cases hc : c <;> simp [hc]

theorem length_byteRanges {mark : Nat} {units : List Nat} {first last : Nat} :
    ∀ seq ∈ byteRanges mark units first last, seq.length = units.length + 1 := by
  induction units generalizing mark first last with
  | nil => exact List.forall_mem_singleton.mpr rfl
  | cons unit units ih =>
      have hbehind (value first last : Nat) :
          ∀ seq ∈ (byteRanges continuationMark units first last).map (marked mark value value :: ·),
            seq.length = (unit :: units).length + 1 :=
        List.forall_mem_map.mpr fun seq hseq => congrArg (· + 1) (ih seq hseq)
      rw [byteRanges]
      simp only
      split
      · exact hbehind _ _ _
      · intro seq hseq
        simp only [List.mem_append, List.mem_ite_nil_right, List.mem_singleton] at hseq
        rcases hseq with (⟨-, hseq⟩ | ⟨-, rfl⟩) | ⟨-, hseq⟩
        · exact hbehind _ _ _ seq hseq
        · simp
        · exact hbehind _ _ _ seq hseq

/-- The numbers of an interval are those that are a choice from one of its sequences. -/
theorem chooses_byteRanges_iff {mark : Nat} {units : List Nat} (h : IsUnits units)
    {first last : Nat} (hle : first ≤ last) (n : Nat) :
    (∃ seq ∈ byteRanges mark units first last, Chooses seq (encode mark units n)) ↔
      first ≤ n ∧ n ≤ last := by
  induction units generalizing mark first last n with
  | nil =>
      rw [byteRanges, encode, ← @contains_marked_iff mark first last n]
      simp [Chooses]
  | cons unit units ih =>
      have hunit := h.pos
      have hmod (m : Nat) := Nat.mod_lt m hunit
      have hbehind (value first last : Nat) (hle : first ≤ last) :
          (∃ seq ∈ (byteRanges continuationMark units first last).map
              (marked mark value value :: ·), Chooses seq (encode mark (unit :: units) n)) ↔
            n / unit = value ∧ first ≤ n % unit ∧ n % unit ≤ last := by
        have hvalue : (marked mark value value).contains (mark + n / unit) = true ↔
            n / unit = value := by
          rw [contains_marked_iff]
          omega
        rw [← @ih continuationMark h.tail first last hle (n % unit)]
        simp [Chooses, encode, hvalue, and_left_comm]
      have hwhole (low high : Nat) :
          (∃ seq ∈ [marked mark low high :: (unit :: units).map fun _ =>
              marked continuationMark 0 (continuationValues - 1)],
            Chooses seq (encode mark (unit :: units) n)) ↔
            low ≤ n / unit ∧ n / unit ≤ high := by
        have hrest := chooses_full h (hmod n)
        rw [← @contains_marked_iff mark low high (n / unit)]
        simp only [List.mem_singleton, exists_eq_left, Chooses, encode, List.forall₂_cons]
        exact and_iff_left hrest
      have hfirst := hmod first
      have hlast := hmod last
      have hn := hmod n
      have hle' := (le_iff_div_mod hunit).mp hle
      rw [@le_iff_div_mod unit first n hunit, @le_iff_div_mod unit n last hunit, byteRanges]
      simp only
      split
      · rename_i heq
        rw [hbehind _ _ _ (by omega)]
        omega
      · simp only [List.mem_append, or_and_right, exists_or, exists_mem_ite_iff, hwhole,
          hbehind _ _ _ (Nat.le_sub_one_of_lt hfirst), hbehind _ _ _ (Nat.zero_le (last % unit))]
        clear hbehind hwhole ih hmod
        -- what is left is about the quotients and the remainders
        generalize first / unit = low, last / unit = high, n / unit = value at *
        generalize first % unit = low', last % unit = high', n % unit = rest at *
        split <;> split <;> omega

end Interval

/-! ### Characters -/

/-- The bytes of a character. -/
def bytes (c : Char) : List Nat :=
  (String.utf8EncodeChar c).map UInt8.toNat

theorem bytes_eq_encode {form : Utf8Form} (hform : form ∈ utf8Forms) {c : Char}
    (hfirst : form.first ≤ c.toNat) (hlast : c.toNat ≤ form.last) :
    bytes c = encode form.mark form.units c.toNat := by
  have hbytes : bytes c = if c.toNat ≤ 0x7F then [c.toNat]
      else if c.toNat ≤ 0x7FF then [c.toNat / 0x40 % 0x20 + 0xC0, c.toNat % 0x40 + 0x80]
      else if c.toNat ≤ 0xFFFF then
        [c.toNat / 0x1000 % 0x10 + 0xE0, c.toNat / 0x40 % 0x40 + 0x80, c.toNat % 0x40 + 0x80]
      else
        [c.toNat / 0x40000 % 8 + 0xF0, c.toNat / 0x1000 % 0x40 + 0x80,
          c.toNat / 0x40 % 0x40 + 0x80, c.toNat % 0x40 + 0x80] := by
    simp only [bytes, String.utf8EncodeChar, Char.toNat]
    split
    · rename_i hle
      have hlt : c.toNat < 0x100 := Nat.lt_of_le_of_lt hle (by decide)
      simp [Nat.mod_eq_of_lt hlt]
    · split
      · simp
        omega
      · split
        · simp
          omega
        · simp
          omega
  rw [hbytes]
  simp only [utf8Forms, List.mem_cons, List.not_mem_nil, or_false] at hform
  rcases hform with rfl | rfl | rfl | rfl | rfl <;> simp only [maxCodePoint] at hfirst hlast
  · rw [if_pos hlast]
    simp [encode]
  · rw [if_neg (by omega), if_pos hlast]
    simp [encode, continuationMark]
    omega
  · rw [if_neg (by omega), if_neg (by omega), if_pos (by omega)]
    simp [encode, continuationMark]
    omega
  · rw [if_neg (by omega), if_neg (by omega), if_pos hlast]
    simp [encode, continuationMark]
    omega
  · rw [if_neg (by omega), if_neg (by omega), if_neg (by omega)]
    simp [encode, continuationMark]
    omega

/-- A character has an encoding of one of the forms. -/
theorem exists_utf8Form (c : Char) :
    ∃ form ∈ utf8Forms, form.first ≤ c.toNat ∧ c.toNat ≤ form.last := by
  have hvalid := c.valid
  simp only [UInt32.isValidChar, Nat.isValidChar] at hvalid
  simp only [utf8Forms, List.mem_cons, List.not_mem_nil, or_false, exists_eq_or_imp,
    exists_eq_left, maxCodePoint, Char.toNat]
  omega

theorem isUnits_of_mem_utf8Forms : ∀ form ∈ utf8Forms, IsUnits form.units := by
  simp [utf8Forms, IsUnits, continuationValues]

/-- Encodings of one length are made in one way. -/
theorem eq_of_length_units : ∀ form ∈ utf8Forms, ∀ form' ∈ utf8Forms,
    form.units.length = form'.units.length →
      form.mark = form'.mark ∧ form.units = form'.units := by
  decide

theorem length_encode (mark : Nat) (units : List Nat) (n : Nat) :
    (encode mark units n).length = units.length + 1 := by
  induction units generalizing mark n with
  | nil => rfl
  | cons unit units ih => rw [encode, List.length_cons, ih, List.length_cons]

/-- **The characters of an interval are those that are encoded as a choice** of bytes from one of
the sequences of the interval. -/
theorem Interval.chooses_utf8_iff (iv : Interval) (c : Char) :
    (∃ seq ∈ iv.utf8, Chooses seq (bytes c)) ↔ iv.contains c.toNat = true := by
  obtain ⟨form, hform, hfirst, hlast⟩ := exists_utf8Form c
  have hunits := isUnits_of_mem_utf8Forms form hform
  rw [bytes_eq_encode hform hfirst hlast, contains_iff]
  simp only [utf8, List.mem_flatMap]
  constructor
  · rintro ⟨seq, ⟨form', hform', hseq⟩, hchooses⟩
    split at hseq
    · rename_i hle
      have hlength := length_byteRanges seq hseq
      rw [hchooses.length_eq, length_encode, Nat.add_right_cancel_iff] at hlength
      obtain ⟨hmark, heq⟩ := eq_of_length_units form hform form' hform' hlength
      rw [← hmark, ← heq] at hseq
      have hrange := (chooses_byteRanges_iff hunits hle c.toNat).mp ⟨seq, hseq, hchooses⟩
      omega
    · cases hseq
  · rintro ⟨hle, hle'⟩
    have hrange : max iv.first form.first ≤ c.toNat ∧ c.toNat ≤ min iv.last form.last := by
      omega
    have hne := Nat.le_trans hrange.1 hrange.2
    obtain ⟨seq, hseq, hchooses⟩ := (chooses_byteRanges_iff hunits hne c.toNat).mpr hrange
    exact ⟨seq, ⟨form, hform, by rwa [if_pos hne]⟩, hchooses⟩

end UriRouting.Unicode
