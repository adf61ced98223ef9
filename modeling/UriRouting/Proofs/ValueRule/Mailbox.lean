import Mathlib.Data.List.TakeDrop
import UriRouting.Proofs.Text
import UriRouting.Proofs.Unicode.Folding
import UriRouting.ValueRule.Mailbox

/-!
# UriRouting.Proofs.ValueRule.Mailbox

Mail addresses as a grammar (`IsAddress`), with the letters of domains as a parameter.

* `Text.splitOn_iff`, `Text.splitLast_eq_some_iff` — cutting a text at a character, as
  equations between texts;
* `isLocalPart_iff`, `isDomain_iff` — the two parts of an address;
* `isMailbox_iff` — the addresses are the texts of the grammar with the letters that fold to
  letters of ASCII;
* `isMailbox_and_isAscii_iff` — those of them that are in ASCII are the texts of the grammar with
  the letters of ASCII.

Two letters outside ASCII fold to letters of ASCII (`isDomainLetter_iff`), and both can stand in
the domain of an address.
-/

namespace UriRouting

/-! ### Cutting texts -/

namespace Text

theorem splitOn_cons (sep c : Char) (t : Text) :
    splitOn sep (c :: t) =
      if c = sep then [] :: splitOn sep t
      else match splitOn sep t with
        | piece :: rest => (c :: piece) :: rest
        | [] => [[c]] := rfl

theorem splitOn_eq (sep : Char) (t : Text) : splitOn sep t = List.splitOn sep t := by
  induction t with
  | nil => rfl
  | cons c t ih =>
      rw [splitOn_cons, ih, List.splitOn_cons_eq_if_modifyHead]
      by_cases h : c = sep
      · simp [h]
      · simp only [if_neg h, beq_iff_eq]
        cases hpieces : List.splitOn sep t with
        | nil => exact absurd hpieces (List.splitOn_ne_nil sep t)
        | cons piece rest => rfl

@[simp] theorem splitOn_ne_nil (sep : Char) (t : Text) : splitOn sep t ≠ [] := by
  rw [splitOn_eq]
  exact List.splitOn_ne_nil sep t

/-- What holds of the pieces of a text holds of some pieces that make it, if none of those has
the separator. -/
theorem splitOn_iff {sep : Char} {P : List Text → Prop}
    (hsep : ∀ pieces, P pieces → pieces ≠ [] ∧ ∀ piece ∈ pieces, sep ∉ piece) (t : Text) :
    P (splitOn sep t) ↔ ∃ pieces, t = [sep].intercalate pieces ∧ P pieces := by
  rw [splitOn_eq]
  constructor
  · intro h
    exact ⟨List.splitOn sep t, (List.intercalate_splitOn sep).symm, h⟩
  · rintro ⟨pieces, rfl, h⟩
    rwa [List.splitOn_intercalate sep (hsep pieces h).2 (hsep pieces h).1]

theorem of_mem_intercalate {sep c : Char} {pieces : List Text}
    (h : c ∈ [sep].intercalate pieces) : c = sep ∨ ∃ piece ∈ pieces, c ∈ piece := by
  induction pieces with
  | nil => simp at h
  | cons piece pieces ih =>
      cases pieces with
      | nil => exact .inr ⟨piece, List.mem_singleton_self piece, by simpa using h⟩
      | cons next pieces =>
          rw [List.intercalate_cons_cons, List.append_assoc, List.mem_append, List.mem_append,
            List.mem_singleton] at h
          rcases h with h | h | h
          · exact .inr ⟨piece, List.mem_cons_self .., h⟩
          · exact .inl h
          · refine (ih h).imp_right ?_
            rintro ⟨other, hother, hc⟩
            exact ⟨other, List.mem_cons_of_mem _ hother, hc⟩

theorem mem_intercalate {sep c : Char} {piece : Text} {pieces : List Text}
    (hpiece : piece ∈ pieces) (hc : c ∈ piece) : c ∈ [sep].intercalate pieces := by
  induction pieces with
  | nil => simp at hpiece
  | cons first pieces ih =>
      cases pieces with
      | nil =>
          rw [List.mem_singleton.mp hpiece] at hc
          simpa using hc
      | cons next pieces =>
          rw [List.intercalate_cons_cons, List.append_assoc, List.mem_append, List.mem_append]
          rcases List.mem_cons.mp hpiece with rfl | hpiece
          · exact .inl hc
          · exact .inr (.inr (ih hpiece))

theorem span_of_not_mem {sep : Char} {s : Text} (h : sep ∉ s) (t : Text) :
    (s ++ sep :: t).span (· != sep) = (s, sep :: t) := by
  have hall : ∀ c ∈ s, (c != sep) = true := by
    intro c hc
    rw [bne_iff_ne]
    rintro rfl
    exact h hc
  rw [List.span_eq_takeWhile_dropWhile, List.takeWhile_append_of_pos hall,
    List.dropWhile_append_of_pos hall]
  simp

theorem splitLast_append {sep : Char} (before : Text) {after : Text} (h : sep ∉ after) :
    (before ++ sep :: after).splitLast sep = some (before, after) := by
  have hreverse : (before ++ sep :: after).reverse = after.reverse ++ sep :: before.reverse := by
    simp
  rw [splitLast, hreverse, span_of_not_mem (by simpa using h)]
  simp

theorem mem_of_splitLast {sep : Char} {t : Text} {parts : Text × Text}
    (h : t.splitLast sep = some parts) : sep ∈ t := by
  by_contra hmem
  have hall : ∀ c ∈ t.reverse, (c != sep) = true := by
    intro c hc
    rw [bne_iff_ne]
    rintro rfl
    exact hmem (List.mem_reverse.mp hc)
  rw [splitLast, List.span_eq_takeWhile_dropWhile, List.dropWhile_eq_nil_iff.mpr hall] at h
  cases h

/-- A text is cut at the last place where the separator stands. -/
theorem splitLast_eq_some_iff {sep : Char} {t before after : Text} :
    t.splitLast sep = some (before, after) ↔ t = before ++ sep :: after ∧ sep ∉ after := by
  constructor
  · intro h
    have hmem : sep ∈ t.reverse := List.mem_reverse.mpr (mem_of_splitLast h)
    obtain ⟨after', before', heq, hafter⟩ := List.eq_append_cons_of_mem hmem
    have ht : t = before'.reverse ++ sep :: after'.reverse := by
      rw [← List.reverse_reverse t, heq]
      simp
    have hafter' : sep ∉ after'.reverse := by simpa using hafter
    rw [ht, splitLast_append _ hafter'] at h
    cases h
    exact ⟨ht, hafter'⟩
  · intro h
    rw [h.1, splitLast_append _ h.2]

end Text

/-! ### The grammar -/

namespace ValueRule

/-- What can stand in a run of a local part: letters and digits of ASCII, and some marks. -/
def IsRunCharacter (c : Char) : Prop :=
  c.isAlphanum = true ∨ c ∈ "!#$%&\x27*+/=?^_\x60\x7b|\x7d~-".toList

instance (c : Char) : Decidable (IsRunCharacter c) :=
  inferInstanceAs (Decidable (_ ∨ _))

/-- A run of a local part. -/
structure IsRun (t : Text) : Prop where
  /-- It has a character. -/
  nonempty : t ≠ []
  /-- All its characters are permitted. -/
  permitted : ∀ c ∈ t, IsRunCharacter c

/-- A label of a domain, with some letters: letters, digits of ASCII and hyphens. -/
structure IsLabel (letter : Char → Bool) (t : Text) : Prop where
  /-- It has a character. -/
  nonempty : t ≠ []
  /-- All its characters are permitted. -/
  permitted : ∀ c ∈ t, letter c = true ∨ c.isDigit = true ∨ c = '-'
  /-- There is no hyphen in front. -/
  head : t.head? ≠ some '-'
  /-- There is no hyphen at the end. -/
  last : t.getLast? ≠ some '-'
  /-- It is not too long. -/
  size : t.utf8Size ≤ 63

/-- A local part: runs with single dots between. -/
structure IsLocal (t : Text) : Prop where
  /-- The runs. -/
  runs : ∃ runs, runs ≠ [] ∧ t = ['.'].intercalate runs ∧ ∀ run ∈ runs, IsRun run
  /-- It is not too long. -/
  size : t.utf8Size ≤ 64

/-- The labels of a domain: there are two or more, and the last one begins with a letter. -/
structure AreLabels (letter : Char → Bool) (labels : List Text) : Prop where
  /-- There are two or more. -/
  two : 2 ≤ labels.length
  /-- Each is a label. -/
  each : ∀ label ∈ labels, IsLabel letter label
  /-- The last begins with a letter. -/
  letter : ∃ c rest, labels.getLast? = some (c :: rest) ∧ letter c = true

/-- **The grammar of addresses**, with some letters for domains. -/
def IsAddress (letter : Char → Bool) (t : Text) : Prop :=
  ∃ localPart labels, t = localPart ++ '@' :: ['.'].intercalate labels ∧ t.utf8Size ≤ 254 ∧
    IsLocal localPart ∧ AreLabels letter labels

/-! ### Local parts -/

theorem isLocalCharacter_iff {c : Char} : isLocalCharacter c = true ↔ IsRunCharacter c := by
  rw [isLocalCharacter, IsRunCharacter, Bool.or_eq_true]
  simp

theorem isRun_iff {t : Text} : (!t.isEmpty && t.all isLocalCharacter) = true ↔ IsRun t := by
  simp only [Bool.and_eq_true, Bool.not_eq_true', List.isEmpty_eq_false_iff, List.all_eq_true,
    isLocalCharacter_iff]
  exact ⟨fun h => ⟨h.1, h.2⟩, fun h => ⟨h.nonempty, h.permitted⟩⟩

theorem isLocalPart_iff {t : Text} : isLocalPart t = true ↔
    ∃ runs, t = ['.'].intercalate runs ∧ runs ≠ [] ∧ ∀ run ∈ runs, IsRun run := by
  have hruns : isLocalPart t = true ↔
      t.splitOn '.' ≠ [] ∧ ∀ run ∈ t.splitOn '.', IsRun run := by
    simp only [isLocalPart, List.all_eq_true, isRun_iff]
    simp
  rw [hruns]
  refine Text.splitOn_iff (P := fun runs => runs ≠ [] ∧ ∀ run ∈ runs, IsRun run) ?_ t
  intro runs h
  exact ⟨h.1, fun run hrun hdot => absurd ((h.2 run hrun).permitted '.' hdot) (by decide)⟩

/-! ### Domains -/

theorem isAscii_of_isAlphanum {c : Char} (h : c.isAlphanum = true) : c.toNat < 0x80 := by
  delta Char.isAlphanum Char.isAlpha Char.isUpper Char.isLower Char.isDigit at h
  simp only [Bool.or_eq_true, Bool.and_eq_true, decide_eq_true_eq, UInt32.le_iff_toNat_le] at h
  simp at h
  omega

theorem isAscii_of_isAlpha {c : Char} (h : c.isAlpha = true) : c.toNat < 0x80 := by
  refine isAscii_of_isAlphanum ?_
  simp [Char.isAlphanum, h]

/-- The letters of domains are those of ASCII, the long small s and the kelvin sign. -/
theorem isDomainLetter_iff {c : Char} :
    isDomainLetter c = true ↔ c.isAlpha = true ∨ c = 'ſ' ∨ c = Char.ofNat 0x212A := by
  rcases Nat.lt_or_ge c.toNat 0x80 with hc | hc
  · have hsame : c.toLower.isAlpha = c.isAlpha :=
      Unicode.of_isAscii (P := fun c => c.toLower.isAlpha = c.isAlpha) (by decide +kernel) hc
    rw [isDomainLetter, Unicode.foldSimple_eq_toLower hc, hsame, or_iff_left]
    rintro (rfl | rfl)
    · revert hc
      decide
    · revert hc
      decide
  · constructor
    · intro h
      exact .inr (Unicode.eq_of_foldSimple_isAscii (isAscii_of_isAlpha h) hc)
    · rintro (h | rfl | rfl)
      · exact absurd (isAscii_of_isAlpha h) (Nat.not_lt.mpr hc)
      · decide +kernel
      · decide +kernel

theorem isLabel_iff {t : Text} :
    isLabel t = true ∧ t.utf8Size ≤ maxLabelSize ↔ IsLabel isDomainLetter t := by
  simp only [isLabel, Bool.and_eq_true, Bool.not_eq_true', List.isEmpty_eq_false_iff,
    List.all_eq_true, Bool.or_eq_true, beq_iff_eq, bne_iff_ne, or_assoc]
  constructor
  · rintro ⟨⟨⟨⟨hne, hall⟩, hhead⟩, hlast⟩, hsize⟩
    exact ⟨hne, hall, hhead, hlast, hsize⟩
  · intro h
    exact ⟨⟨⟨⟨h.nonempty, h.permitted⟩, h.head⟩, h.last⟩, h.size⟩

/-- A mark that is none of the letters does not stand in a label. -/
theorem IsLabel.not_mem {letter : Char → Bool} {t : Text} (h : IsLabel letter t) {c : Char}
    (hletter : letter c = false) (hmark : c.isDigit = false ∧ c ≠ '-') : c ∉ t := by
  intro hc
  rcases h.permitted c hc with hl | hd | hm
  · simp [hletter] at hl
  · simp [hmark.1] at hd
  · exact hmark.2 hm

theorem isDomain_iff {t : Text} :
    isDomain t = true ∧ (∀ label ∈ t.splitOn '.', label.utf8Size ≤ maxLabelSize) ↔
      ∃ labels, t = ['.'].intercalate labels ∧ AreLabels isDomainLetter labels := by
  have hlabels : isDomain t = true ∧ (∀ label ∈ t.splitOn '.', label.utf8Size ≤ maxLabelSize) ↔
      AreLabels isDomainLetter (t.splitOn '.') := by
    simp only [isDomain, Bool.and_eq_true, decide_eq_true_eq, List.all_eq_true]
    have hletter (label : Option Text) : (label.bind List.head?).any isDomainLetter = true ↔
        ∃ c rest, label = some (c :: rest) ∧ isDomainLetter c = true := by
      cases label with
      | none => simp
      | some label => cases label <;> simp
    rw [hletter]
    constructor
    · rintro ⟨⟨⟨htwo, hlabels⟩, hletter⟩, hsize⟩
      refine ⟨htwo, ?_, hletter⟩
      intro label hlabel
      exact isLabel_iff.mp ⟨hlabels label hlabel, hsize label hlabel⟩
    · intro h
      have heach := fun label hlabel => isLabel_iff.mpr (h.each label hlabel)
      exact ⟨⟨⟨h.two, fun label hlabel => (heach label hlabel).1⟩, h.letter⟩,
        fun label hlabel => (heach label hlabel).2⟩
  rw [hlabels]
  refine Text.splitOn_iff (P := AreLabels isDomainLetter) ?_ t
  intro labels h
  refine ⟨?_, fun label hlabel => (h.each label hlabel).not_mem (by decide +kernel) (by decide)⟩
  rintro rfl
  simpa using h.two

/-! ### Addresses -/

/-- A mark that does not stand in a label does not stand in a domain, unless it is the dot. -/
theorem AreLabels.not_mem {letter : Char → Bool} {labels : List Text} (h : AreLabels letter labels)
    {c : Char} (hletter : letter c = false) (hmark : c.isDigit = false ∧ c ≠ '-')
    (hdot : c ≠ '.') : c ∉ ['.'].intercalate labels := by
  intro hc
  rcases Text.of_mem_intercalate hc with rfl | ⟨label, hlabel, hc⟩
  · exact hdot rfl
  · exact (h.each label hlabel).not_mem hletter hmark hc

theorem isMailbox_iff_parts {t : Text} : isMailbox t = true ↔ t.utf8Size ≤ maxAddressSize ∧
    ∃ localPart domain, t.splitLast '@' = some (localPart, domain) ∧
      localPart.utf8Size ≤ maxLocalSize ∧ isLocalPart localPart = true ∧
      isDomain domain = true ∧ ∀ label ∈ domain.splitOn '.', label.utf8Size ≤ maxLabelSize := by
  rw [isMailbox, Bool.and_eq_true, decide_eq_true_eq]
  refine and_congr_right fun _ => ?_
  cases t.splitLast '@' with
  | none => simp
  | some parts =>
      simp only [Bool.and_eq_true, decide_eq_true_eq, List.all_eq_true]
      constructor
      · rintro ⟨⟨⟨hsize, hlabels⟩, hlocal⟩, hdomain⟩
        exact ⟨_, _, rfl, hsize, hlocal, hdomain, hlabels⟩
      · rintro ⟨localPart, domain, h, hsize, hlocal, hdomain, hlabels⟩
        cases h
        exact ⟨⟨⟨hsize, hlabels⟩, hlocal⟩, hdomain⟩

/-- The addresses are the texts of the grammar. -/
theorem isMailbox_iff {t : Text} : isMailbox t = true ↔ IsAddress isDomainLetter t := by
  rw [isMailbox_iff_parts]
  constructor
  · rintro ⟨hsize, localPart, domain, hparts, hlocalSize, hlocal, hdomain⟩
    obtain ⟨labels, rfl, hlabels⟩ := isDomain_iff.mp hdomain
    obtain ⟨runs, hruns, hne, heach⟩ := isLocalPart_iff.mp hlocal
    exact ⟨localPart, labels, (Text.splitLast_eq_some_iff.mp hparts).1, hsize,
      ⟨⟨runs, hne, hruns, heach⟩, hlocalSize⟩, hlabels⟩
  · rintro ⟨localPart, labels, ht, hsize, ⟨⟨runs, hne, hruns, heach⟩, hlocalSize⟩, hlabels⟩
    have hat : '@' ∉ ['.'].intercalate labels :=
      hlabels.not_mem (by decide +kernel) (by decide) (by decide)
    exact ⟨hsize, localPart, _, Text.splitLast_eq_some_iff.mpr ⟨ht, hat⟩, hlocalSize,
      isLocalPart_iff.mpr ⟨runs, hruns, hne, heach⟩, isDomain_iff.mpr ⟨labels, rfl, hlabels⟩⟩

theorem IsRunCharacter.isAscii {c : Char} (h : IsRunCharacter c) : c.toNat < 0x80 := by
  rcases h with h | h
  · exact isAscii_of_isAlphanum h
  · have hall : "!#$%&\x27*+/=?^_\x60\x7b|\x7d~-".toList.all
        (fun c => decide (c.toNat < 0x80)) = true := by
      decide +kernel
    exact of_decide_eq_true (List.all_eq_true.mp hall c h)

/-- A character of a local part is the dot or stands in a run. -/
theorem IsLocal.of_mem {t : Text} (h : IsLocal t) {c : Char} (hc : c ∈ t) :
    c = '.' ∨ IsRunCharacter c := by
  obtain ⟨runs, -, rfl, hruns⟩ := h.runs
  refine (Text.of_mem_intercalate hc).imp_right ?_
  rintro ⟨run, hrun, hc⟩
  exact (hruns run hrun).permitted c hc

/-- A character of a domain is a letter or in ASCII. -/
theorem AreLabels.of_mem {letter : Char → Bool} {labels : List Text} (h : AreLabels letter labels)
    {c : Char} (hc : c ∈ ['.'].intercalate labels) : letter c = true ∨ c.toNat < 0x80 := by
  rcases Text.of_mem_intercalate hc with rfl | ⟨label, hlabel, hc⟩
  · exact .inr (by decide)
  · rcases (h.each label hlabel).permitted c hc with hletter | hdigit | rfl
    · exact .inl hletter
    · exact .inr (isAscii_of_isAlphanum (by simp [Char.isAlphanum, hdigit]))
    · exact .inr (by decide)

theorem IsAddress.of_mem {letter : Char → Bool} {t : Text} (h : IsAddress letter t) {c : Char}
    (hc : c ∈ t) : letter c = true ∨ c.toNat < 0x80 := by
  obtain ⟨localPart, labels, rfl, -, hlocal, hlabels⟩ := h
  rw [List.mem_append, List.mem_cons] at hc
  rcases hc with hc | rfl | hc
  · rcases hlocal.of_mem hc with rfl | hrun
    · exact .inr (by decide)
    · exact .inr hrun.isAscii
  · exact .inr (by decide)
  · exact hlabels.of_mem hc

/-- An at sign that is no letter stands in an address once. -/
theorem IsAddress.count_at {letter : Char → Bool} {t : Text} (h : IsAddress letter t)
    (hletter : letter '@' = false) : t.count '@' = 1 := by
  obtain ⟨localPart, labels, rfl, -, hlocal, hlabels⟩ := h
  have hbefore : '@' ∉ localPart := fun hat => absurd (hlocal.of_mem hat) (by decide)
  have hafter : '@' ∉ ['.'].intercalate labels :=
    hlabels.not_mem hletter (by decide) (by decide)
  simp [List.count_append, List.count_eq_zero.mpr hbefore, List.count_eq_zero.mpr hafter]

/-- An address is one for other letters, if its letters are among those. -/
theorem IsAddress.mono {letter letter' : Char → Bool} {t : Text} (h : IsAddress letter t)
    (hmono : ∀ c ∈ t, letter c = true → letter' c = true) : IsAddress letter' t := by
  obtain ⟨localPart, labels, rfl, hsize, hlocal, hlabels⟩ := h
  have hmem {label : Text} (hlabel : label ∈ labels) {c : Char} (hc : c ∈ label) :
      c ∈ localPart ++ '@' :: ['.'].intercalate labels := by
    simp [Text.mem_intercalate hlabel hc]
  refine ⟨localPart, labels, rfl, hsize, hlocal, hlabels.two, ?_, ?_⟩
  · intro label hlabel
    have hold := hlabels.each label hlabel
    refine ⟨hold.nonempty, ?_, hold.head, hold.last, hold.size⟩
    intro c hc
    exact (hold.permitted c hc).imp_left (hmono c (hmem hlabel hc))
  · obtain ⟨c, rest, hlast, hletter⟩ := hlabels.letter
    have hlabel := List.mem_of_getLast? hlast
    exact ⟨c, rest, hlast, hmono c (hmem hlabel (List.mem_cons_self ..)) hletter⟩

/-- The addresses in ASCII are the texts of the grammar with the letters of ASCII. -/
theorem isMailbox_and_isAscii_iff {t : Text} :
    isMailbox t = true ∧ t.isAscii = true ↔ IsAddress Char.isAlpha t := by
  rw [isMailbox_iff, Text.isAscii, List.all_eq_true]
  constructor
  · intro ⟨h, hascii⟩
    refine h.mono fun c hc hletter => ?_
    have hc' := decide_eq_true_eq.mp (hascii c hc)
    rcases isDomainLetter_iff.mp hletter with halpha | rfl | rfl
    · exact halpha
    · exact absurd hc' (by decide)
    · exact absurd hc' (by decide)
  · intro h
    refine ⟨h.mono fun c _ halpha => isDomainLetter_iff.mpr (.inl halpha), fun c hc => ?_⟩
    exact decide_eq_true ((h.of_mem hc).elim isAscii_of_isAlpha id)

/-- An address has one at sign, and no other characters outside ASCII than the long small s and the
kelvin sign. -/
theorem of_isMailbox {t : Text} (h : isMailbox t = true) :
    t.count '@' = 1 ∧ ∀ c ∈ t, c.toNat < 0x80 ∨ c = 'ſ' ∨ c = Char.ofNat 0x212A := by
  have haddress := isMailbox_iff.mp h
  refine ⟨haddress.count_at (by decide +kernel), fun c hc => ?_⟩
  rcases haddress.of_mem hc with hletter | hascii
  · exact (isDomainLetter_iff.mp hletter).imp_left isAscii_of_isAlpha
  · exact .inl hascii

end ValueRule

end UriRouting
